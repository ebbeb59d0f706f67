import SqlTree.Tree

/-!
# Sources

Where rows come from: tables, calls and queries, under an alias if they have
one. A source goes by its alias, or by the name of its table; that name as it
is written is the key of the source. Calls and queries without an alias go by
no name and have no key.
-/

namespace SqlTree.Source

/-- The name that a source goes by: its alias, else the name of its table. -/
def naming? (source : Source) : Option Identifier :=
  match source.aliasName, source.origin with
  | some aliasName, _ => some aliasName
  | none, .table name => some name
  | none, .call _ => none
  | none, .query _ => none

/-- The key of a source: the name it goes by, as it is written. -/
def key? (source : Source) : Option String :=
  source.naming?.map Identifier.sql

/-- An origin of rows under an optional alias. -/
def ofOrigin (origin : Origin) (aliasName : Option Spelling) : Build Source :=
  return ⟨origin, ← Spelling.buildOption aliasName⟩

/-- A table under an optional alias. The name is read before the alias. -/
def table (name : Spelling) (aliasName : Option Spelling) : Build Source := do
  let name ← name.build
  ofOrigin (.table name) aliasName

/-- A column of a source. -/
def column (source : Source) (name : Spelling) : Build Column :=
  return ⟨source.naming?, ← name.build, none⟩

/-- All columns of a source. -/
def allColumns (source : Source) : Expr :=
  .allColumns source.naming?

end SqlTree.Source
