import SqlTree.Collection
import SqlTree.Source
import SqlTree.Tree.Equality

/-!
# Statements that change rows

Building `INSERT`, `UPDATE` and `DELETE`. Each has one table as its target,
under an alias if it has one, and hands the target out as a source to take
columns from.
-/

namespace SqlTree

/-- The table that a statement changes. -/
structure Target where
  table : Identifier
  aliasName : Option Identifier
deriving DecidableEq

namespace Target

/-- A target by its name and its alias. The name is read first. -/
def ofSpelling (table : Spelling) (aliasName : Option Spelling) : Build Target := do
  let table ← table.build
  return ⟨table, ← Spelling.buildOption aliasName⟩

/-- The target as a source. -/
def source (target : Target) : Source :=
  ⟨.table target.table, target.aliasName⟩

end Target

/-- The rows that an `INSERT` adds. -/
inductive InsertRows where
  | list (values : List Expr)
  | query (query : Query)
deriving DecidableEq

/-- An `INSERT` statement. -/
structure Insert where
  target : Target
  columns : List Column
  rows : InsertRows
deriving DecidableEq

namespace Insert

/-- An `INSERT` without a list of columns. -/
def ofTarget (target : Target) (rows : InsertRows) : Insert :=
  ⟨target, [], rows⟩

/-- Adds a column. -/
def addColumn (insert : Insert) (column : Column) : Insert :=
  { insert with columns := addLast insert.columns column }

/-- Takes back the first column that equals the given one. -/
def removeColumn (insert : Insert) (column : Column) : Bool × Insert :=
  let (found, columns) := removeValue insert.columns column
  (found, { insert with columns := columns })

end Insert

/-- The new value of a column. -/
structure Setter where
  column : Column
  value : Expr
deriving DecidableEq

/-- An `UPDATE` statement. -/
structure Update where
  target : Target
  setters : List Setter
  conditions : List Condition
deriving DecidableEq

namespace Update

/-- An `UPDATE` that sets nothing. -/
def ofTarget (target : Target) : Update :=
  ⟨target, [], []⟩

/-- Sets a column. -/
def addSetter (update : Update) (column : Column) (value : Expr) : Update :=
  { update with setters := addLast update.setters ⟨column, value⟩ }

/-- Takes back the first setting of a column to a value. -/
def removeSetter (update : Update) (column : Column) (value : Expr) : Bool × Update :=
  let (found, setters) := removeValue update.setters ⟨column, value⟩
  (found, { update with setters := setters })

/-- Adds a condition on rows. -/
def addWhere (update : Update) (condition : Condition) : Update :=
  { update with conditions := addLast update.conditions condition }

/-- Takes back the first condition that equals the given one. -/
def removeWhere (update : Update) (condition : Condition) : Bool × Update :=
  let (found, conditions) := removeValue update.conditions condition
  (found, { update with conditions := conditions })

end Update

/-- A `DELETE` statement. -/
structure Delete where
  target : Target
  conditions : List Condition
deriving DecidableEq

namespace Delete

/-- A `DELETE` of all rows. -/
def ofTarget (target : Target) : Delete :=
  ⟨target, []⟩

/-- Adds a condition on rows. -/
def addWhere (delete : Delete) (condition : Condition) : Delete :=
  { delete with conditions := addLast delete.conditions condition }

/-- Takes back the first condition that equals the given one. -/
def removeWhere (delete : Delete) (condition : Condition) : Bool × Delete :=
  let (found, conditions) := removeValue delete.conditions condition
  (found, { delete with conditions := conditions })

end Delete

end SqlTree
