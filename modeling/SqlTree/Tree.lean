import SqlTree.Column
import SqlTree.Numeral
import SqlTree.Operator
import SqlTree.Placeholder

/-!
# The tree of a query

Expressions, conditions, sources, joins and queries contain one another, so
their types are defined together. A value of these types is what a caller has
built; nothing is left out of it that rendering or a later change could need,
and nothing is in it that depends on the dialect.

Two things are kept apart that look alike. A `Scope` holds the sources that a
`Select` or a `Join` knows by their keys; the items of a `FROM` clause are what
is written. A source without a key is written and never known, and a source
that goes from a `Select` stays in the joins that hold it.
-/

namespace SqlTree

mutual

/-- A value. -/
inductive Expr where
  | number (numeral : Numeral)
  | text (value : String)
  | null
  | placeholder (placeholder : Placeholder)
  | column (column : Column)
  /-- All columns, of one source if there is a qualifier. -/
  | allColumns (qualifier : Option Identifier)
  | call (call : Call)
  | arithmetic (operator : ArithmeticOperator) (left right : Expr)
  /-- The minus sign before an operand. -/
  | negation (operand : Expr)
  | matchCase (choice : MatchCase)
  | conditionalCase (choice : ConditionalCase)
  /-- A query that stands for the one value it yields. -/
  | subquery (query : Query)

/-- A choice between results by the value of a subject. -/
structure MatchCase where
  subject : Expr
  branches : List MatchBranch
  otherwise : Option Expr

/-- The result for one value of the subject of a choice. -/
structure MatchBranch where
  value : Expr
  result : Expr

/-- A choice between results by the first condition that holds. -/
structure ConditionalCase where
  branches : List ConditionalBranch
  otherwise : Option Expr

/-- The result for one condition of a choice. -/
structure ConditionalBranch where
  condition : Condition
  result : Expr

/-- A call of a function, over a window if there is one. -/
structure Call where
  name : Identifier
  arguments : List Expr
  window : Option Window

/-- The rows that a window function is applied to. -/
structure Window where
  partitions : List Expr
  sortKeys : List SortKey
  frame : Option Frame

/-- A value to sort by. -/
structure SortKey where
  expr : Expr
  direction : Option Direction
  nulls : Option NullPlacement

/-- A predicate, and whether the caller wants it in parentheses. -/
structure Condition where
  predicate : Predicate
  wrapped : Bool

/-- What is asked of a row. -/
inductive Predicate where
  | comparison (left : Expr) (operator : ComparisonOperator) (right : Expr)
  | between (subject low high : Expr) (negated : Bool)
  | like (subject pattern : Expr) (negated : Bool)
  | isNull (subject : Expr) (negated : Bool)
  | isIn (subject : Expr) (values : Values) (negated : Bool)
  | existence (query : Query)
  | quantified (subject : Expr) (operator : ComparisonOperator) (quantifier : Quantifier)
      (values : Values)
  | group (group : ConditionGroup)
  | negation (condition : Condition)

/-- Conditions under one connective. -/
structure ConditionGroup where
  connective : Connective
  conditions : List Condition

/-- The values on the right of `IN` and of quantified comparisons. -/
inductive Values where
  | list (values : List Expr)
  | query (query : Query)
  | call (call : Call)

/-- Where the rows of a source come from. -/
inductive Origin where
  | table (name : Identifier)
  | call (call : Call)
  | query (query : Query)

/-- An origin of rows, under an alias if it has one. -/
structure Source where
  origin : Origin
  aliasName : Option Identifier

/-- An item of a `FROM` clause, or the left side of a join. -/
inductive FromItem where
  | source (source : Source)
  | join (join : Join)

/-- A source joined onto an item, and the sources that take part by key. -/
structure Join where
  left : FromItem
  right : Source
  kind : JoinKind
  on : Option Condition
  wrapped : Bool
  scope : Scope

/-- Sources that are known by their keys, in the order they became known. -/
structure Scope where
  sources : List Source

/-- A statement that yields rows. -/
inductive Query where
  | select (select : Select)
  | setOperation (operation : SetOperation)

/-- The rows of two queries, combined. The flag asks for parentheses where the
operation is a statement or an operand. -/
structure SetOperation where
  operator : SetOperator
  left : Query
  right : Query
  quantifier : Option SetQuantifier
  wrapped : Bool

/-- A `SELECT` statement. The flag asks for parentheses where it is a statement
or an operand. -/
structure Select where
  quantifier : Option SetQuantifier
  top : Option Top
  projections : List Projection
  items : List FromItem
  scope : Scope
  conditions : List Condition
  groupKeys : List Expr
  groupConditions : List Condition
  sortKeys : List SortKey
  wrapped : Bool

/-- An entry of the list of a `SELECT`. -/
structure Projection where
  expr : Expr
  aliasName : Option Identifier

/-- How many rows a `SELECT` yields at most. -/
structure Top where
  count : Expr
  percent : Bool
  withTies : Bool

end

end SqlTree
