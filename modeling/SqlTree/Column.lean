import SqlTree.Identifier.Parser
import SqlTree.Build

/-!
# Columns

A reference to a column. It carries the key of the source it was taken from,
as a copy: what later happens to the source does not change the column.
-/

namespace SqlTree

/-- A reference to a column. -/
structure Column where
  /-- The name that the source of the column goes by, if it has one. -/
  qualifier : Option Identifier
  name : Identifier
  /-- Whether to show the qualifier, where the column decides it by itself. -/
  override : Option Bool
deriving DecidableEq

namespace Column

/-- A column of no particular source. -/
def ofSpelling (name : Spelling) : Build Column :=
  return ⟨none, ← name.build, none⟩

/-- The column with its qualifier shown or hidden, whatever the statement. -/
def withQualify (column : Column) (qualify : Bool) : Column :=
  { column with override := some qualify }

end Column

end SqlTree
