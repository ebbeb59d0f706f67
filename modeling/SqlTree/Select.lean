import SqlTree.Collection
import SqlTree.Join
import SqlTree.Tree.Equality

/-!
# Queries

Building `SELECT` statements and set operations. The parts of a `SELECT` are
independent: a source may go while columns that were taken from it stay.

What can fail is an `Edit`: an addition to the `FROM` clause fails if a key is
taken, and either the item enters the clause and all its keys become known, or
nothing happens at all.
-/

namespace SqlTree

namespace Select

/-- The `SELECT` without any part. -/
def empty : Select where
  quantifier := none
  top := none
  projections := []
  items := []
  scope := .empty
  conditions := []
  groupKeys := []
  groupConditions := []
  sortKeys := []
  wrapped := false

/-- Adds a source to the `FROM` clause. -/
def addSource (source : Source) : Edit Select Unit := do
  let select ← get
  let scope ← Edit.build (select.scope.insert source)
  set { select with scope := scope, items := addLast select.items (.source source) }

/-- Adds a join to the `FROM` clause, and all sources that it knows to the
scope. -/
def addJoin (join : Join) : Edit Select Unit := do
  let select ← get
  let scope ← Edit.build (select.scope.insertEach join.scope.sources)
  set { select with scope := scope, items := addLast select.items (.join join) }

/-- Adds a table to the `FROM` clause, and gives it. -/
def addTable (name : Spelling) (aliasName : Option Spelling) : Edit Select Source := do
  let source ← Edit.build (Source.table name aliasName)
  addSource source
  return source

/-- Adds a call to the `FROM` clause, and gives it as a source. -/
def addCall (call : Call) (aliasName : Option Spelling) : Edit Select Source := do
  let source ← Edit.build (Source.ofOrigin (.call call) aliasName)
  addSource source
  return source

/-- Adds a query to the `FROM` clause, and gives it as a source. -/
def addQuery (query : Query) (aliasName : Option Spelling) : Edit Select Source := do
  let source ← Edit.build (Source.ofOrigin (.query query) aliasName)
  addSource source
  return source

/-- Forgets the source that is known by a key, takes the items that are just
that source out of the `FROM` clause, and gives the source. Joins that hold
the source stay. -/
def removeSource (select : Select) (key : String) : Option Source × Select :=
  match select.scope.remove key with
  | (none, _) => (none, select)
  | (some source, scope) =>
    (some source,
      { select with scope := scope, items := select.items.filter (· ≠ .source source) })

/-- Adds an entry to the list of the `SELECT`, under an optional alias. -/
def addProjection (expr : Expr) (aliasName : Option Spelling) : Edit Select Unit := do
  let aliasName ← Edit.build (Spelling.buildOption aliasName)
  modify fun select =>
    { select with projections := addLast select.projections ⟨expr, aliasName⟩ }

/-- Takes back the first entry for a value, whatever its alias. -/
def removeProjection (select : Select) (expr : Expr) : Bool × Select :=
  let (found, projections) :=
    removeFirst (fun projection => projection.expr == expr) select.projections
  (found, { select with projections := projections })

/-- Sets or clears the set quantifier. -/
def setQuantifier (select : Select) (quantifier : Option SetQuantifier) : Select :=
  { select with quantifier := quantifier }

/-- Sets or clears the limit on the number of rows. -/
def setTop (select : Select) (top : Option Top) : Select :=
  { select with top := top }

/-- Adds a condition on rows. -/
def addWhere (select : Select) (condition : Condition) : Select :=
  { select with conditions := addLast select.conditions condition }

/-- Takes back the first condition on rows that equals the given one. -/
def removeWhere (select : Select) (condition : Condition) : Bool × Select :=
  let (found, conditions) := removeValue select.conditions condition
  (found, { select with conditions := conditions })

/-- Adds a value to group by. -/
def addGroupKey (select : Select) (expr : Expr) : Select :=
  { select with groupKeys := addLast select.groupKeys expr }

/-- Takes back the first grouping by a value. -/
def removeGroupKey (select : Select) (expr : Expr) : Bool × Select :=
  let (found, groupKeys) := removeValue select.groupKeys expr
  (found, { select with groupKeys := groupKeys })

/-- Adds a condition on groups. -/
def addHaving (select : Select) (condition : Condition) : Select :=
  { select with groupConditions := addLast select.groupConditions condition }

/-- Takes back the first condition on groups that equals the given one. -/
def removeHaving (select : Select) (condition : Condition) : Bool × Select :=
  let (found, groupConditions) := removeValue select.groupConditions condition
  (found, { select with groupConditions := groupConditions })

/-- Adds a key to sort by. -/
def addSortKey (select : Select) (key : SortKey) : Select :=
  { select with sortKeys := addLast select.sortKeys key }

/-- Takes back the first sort by a key. -/
def removeSortKey (select : Select) (key : SortKey) : Bool × Select :=
  let (found, sortKeys) := removeValue select.sortKeys key
  (found, { select with sortKeys := sortKeys })

/-- The statement with or without parentheses. -/
def setWrapped (select : Select) (wrapped : Bool) : Select :=
  { select with wrapped := wrapped }

end Select

namespace SetOperation

/-- The rows of two queries, combined. -/
def ofOperands (operator : SetOperator) (left right : Query) : SetOperation :=
  ⟨operator, left, right, none, false⟩

/-- Sets or clears the set quantifier. -/
def setQuantifier (operation : SetOperation) (quantifier : Option SetQuantifier) :
    SetOperation :=
  { operation with quantifier := quantifier }

/-- The operation with or without parentheses. -/
def setWrapped (operation : SetOperation) (wrapped : Bool) : SetOperation :=
  { operation with wrapped := wrapped }

end SetOperation

end SqlTree
