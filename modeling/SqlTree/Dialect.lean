/-!
# Dialect switches

The choices that a statement leaves open: whether `AS` stands before aliases,
whether joins are written in full, and whether the columns of `INSERT`,
`UPDATE` and `DELETE` show their table. Each choice is a switch with a key of
its own under which documents and callers set it.
-/

namespace SqlTree

/-- The choices that rendering follows. -/
structure Dialect where
  /-- `AS` between a source and its alias. -/
  aliasSourcesUsingAs : Bool := false
  /-- `AS` between a projection and its alias. -/
  aliasProjectionsUsingAs : Bool := true
  /-- `INNER JOIN` for `JOIN`. -/
  verboseInnerJoin : Bool := false
  /-- `LEFT OUTER JOIN` for `LEFT JOIN`, and so for the other outer joins. -/
  verboseOuterJoin : Bool := true
  /-- Columns of `INSERT` show their table. -/
  qualifyInsertColumns : Bool := false
  /-- Columns of `UPDATE` show their table. -/
  qualifyUpdateColumns : Bool := false
  /-- Columns of `DELETE` show their table. -/
  qualifyDeleteColumns : Bool := false
deriving DecidableEq

/-- The name of one of the choices. -/
inductive Switch where
  | aliasSourcesUsingAs
  | aliasProjectionsUsingAs
  | verboseInnerJoin
  | verboseOuterJoin
  | qualifyInsertColumns
  | qualifyUpdateColumns
  | qualifyDeleteColumns
deriving DecidableEq

namespace Switch

/-- All switches. -/
def every : List Switch :=
  [aliasSourcesUsingAs, aliasProjectionsUsingAs, verboseInnerJoin, verboseOuterJoin,
    qualifyInsertColumns, qualifyUpdateColumns, qualifyDeleteColumns]

/-- The key of a switch in documents. -/
def key : Switch → String
  | aliasSourcesUsingAs => "alias_column_sources_using_as"
  | aliasProjectionsUsingAs => "alias_projections_using_as"
  | verboseInnerJoin => "verbose_inner_join"
  | verboseOuterJoin => "verbose_outer_join"
  | qualifyInsertColumns => "qualify_insert_columns"
  | qualifyUpdateColumns => "qualify_update_columns"
  | qualifyDeleteColumns => "qualify_delete_columns"

/-- The switch with the given key. -/
def ofKey? (key : String) : Option Switch :=
  every.find? fun switch => switch.key = key

/-- A switch is found under its own key. -/
theorem ofKey?_key (switch : Switch) : ofKey? switch.key = some switch := by
  cases switch <;> decide

end Switch

namespace Dialect

/-- How a switch is set. -/
def get (dialect : Dialect) : Switch → Bool
  | .aliasSourcesUsingAs => dialect.aliasSourcesUsingAs
  | .aliasProjectionsUsingAs => dialect.aliasProjectionsUsingAs
  | .verboseInnerJoin => dialect.verboseInnerJoin
  | .verboseOuterJoin => dialect.verboseOuterJoin
  | .qualifyInsertColumns => dialect.qualifyInsertColumns
  | .qualifyUpdateColumns => dialect.qualifyUpdateColumns
  | .qualifyDeleteColumns => dialect.qualifyDeleteColumns

/-- The dialect with a switch set anew. -/
def set (dialect : Dialect) (switch : Switch) (enabled : Bool) : Dialect :=
  match switch with
  | .aliasSourcesUsingAs => { dialect with aliasSourcesUsingAs := enabled }
  | .aliasProjectionsUsingAs => { dialect with aliasProjectionsUsingAs := enabled }
  | .verboseInnerJoin => { dialect with verboseInnerJoin := enabled }
  | .verboseOuterJoin => { dialect with verboseOuterJoin := enabled }
  | .qualifyInsertColumns => { dialect with qualifyInsertColumns := enabled }
  | .qualifyUpdateColumns => { dialect with qualifyUpdateColumns := enabled }
  | .qualifyDeleteColumns => { dialect with qualifyDeleteColumns := enabled }

/-- Setting a switch changes that switch and no other one. -/
theorem get_set (dialect : Dialect) (switch other : Switch) (enabled : Bool) :
    (dialect.set switch enabled).get other =
      if other = switch then enabled else dialect.get other := by
  cases switch <;> cases other <;> rfl

/-- The dialect in which nothing has been chosen. -/
def standard : Dialect := {}

/-- Sets switches one after the other. -/
def setAll (dialect : Dialect) (settings : List (Switch × Bool)) : Dialect :=
  settings.foldl (fun dialect (switch, enabled) => dialect.set switch enabled) dialect

end Dialect

end SqlTree
