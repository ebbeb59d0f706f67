import SqlTree.Statement

/-!
# Rewriting trees

A `Rewriting` changes the columns of a tree, its lists of conditions, its join
conditions and the queries between parentheses, everywhere and at every depth,
and nothing else. The sources that scopes hold are rewritten like those that are
written, so the two stay equal where they were.

A column is changed together with the flag that says whether columns show their
source at this place. The flag is handed down from the statement, and every
`SELECT` hands down its own.
-/

namespace SqlTree

/-- What to change in a tree. -/
structure Rewriting where
  /-- The new column, given whether columns show their source. -/
  column : Bool → Column → Column
  /-- The new list of the conditions of a group or a clause, which have been
  rewritten themselves. -/
  conditions : List Condition → List Condition
  /-- The new condition of a join. -/
  on : Option Condition → Option Condition
  /-- The new query between parentheses that its place puts around it. -/
  nested : Query → Query

/-- The rewriting that changes columns only. -/
def Rewriting.ofColumn (column : Bool → Column → Column) : Rewriting :=
  ⟨column, id, id, id⟩

mutual

/-- A value, rewritten. -/
def Expr.rewrite (rewriting : Rewriting) (shown : Bool) : Expr → Expr
  | .number numeral => .number numeral
  | .text value => .text value
  | .null => .null
  | .placeholder parameter => .placeholder parameter
  | .column reference => .column (rewriting.column shown reference)
  | .allColumns qualifier => .allColumns qualifier
  | .call invocation => .call (invocation.rewrite rewriting shown)
  | .arithmetic operator left right =>
    .arithmetic operator (left.rewrite rewriting shown) (right.rewrite rewriting shown)
  | .negation operand => .negation (operand.rewrite rewriting shown)
  | .matchCase ⟨subject, branches, otherwise⟩ =>
    .matchCase ⟨subject.rewrite rewriting shown,
      MatchBranch.rewriteEach rewriting shown branches,
      Expr.rewriteOption rewriting shown otherwise⟩
  | .conditionalCase ⟨branches, otherwise⟩ =>
    .conditionalCase ⟨ConditionalBranch.rewriteEach rewriting shown branches,
      Expr.rewriteOption rewriting shown otherwise⟩
  | .subquery body => .subquery (rewriting.nested (body.rewrite rewriting))

/-- Values, rewritten. -/
def Expr.rewriteEach (rewriting : Rewriting) (shown : Bool) : List Expr → List Expr
  | [] => []
  | expr :: rest => expr.rewrite rewriting shown :: Expr.rewriteEach rewriting shown rest

/-- An optional value, rewritten. -/
def Expr.rewriteOption (rewriting : Rewriting) (shown : Bool) : Option Expr → Option Expr
  | none => none
  | some expr => some (expr.rewrite rewriting shown)

/-- Branches of a choice by value, rewritten. -/
def MatchBranch.rewriteEach (rewriting : Rewriting) (shown : Bool) :
    List MatchBranch → List MatchBranch
  | [] => []
  | ⟨value, result⟩ :: rest =>
    ⟨value.rewrite rewriting shown, result.rewrite rewriting shown⟩ ::
      MatchBranch.rewriteEach rewriting shown rest

/-- Branches of a choice by condition, rewritten. -/
def ConditionalBranch.rewriteEach (rewriting : Rewriting) (shown : Bool) :
    List ConditionalBranch → List ConditionalBranch
  | [] => []
  | ⟨condition, result⟩ :: rest =>
    ⟨condition.rewrite rewriting shown, result.rewrite rewriting shown⟩ ::
      ConditionalBranch.rewriteEach rewriting shown rest

/-- A call, rewritten. -/
def Call.rewrite (rewriting : Rewriting) (shown : Bool) : Call → Call
  | ⟨name, arguments, window⟩ =>
    ⟨name, Expr.rewriteEach rewriting shown arguments,
      Window.rewriteOption rewriting shown window⟩

/-- An optional window, rewritten. -/
def Window.rewriteOption (rewriting : Rewriting) (shown : Bool) :
    Option Window → Option Window
  | none => none
  | some window => some (window.rewrite rewriting shown)

/-- A window, rewritten. -/
def Window.rewrite (rewriting : Rewriting) (shown : Bool) : Window → Window
  | ⟨partitions, sortKeys, frame⟩ =>
    ⟨Expr.rewriteEach rewriting shown partitions,
      SortKey.rewriteEach rewriting shown sortKeys, frame⟩

/-- Sort keys, rewritten. -/
def SortKey.rewriteEach (rewriting : Rewriting) (shown : Bool) : List SortKey → List SortKey
  | [] => []
  | ⟨expr, direction, nulls⟩ :: rest =>
    ⟨expr.rewrite rewriting shown, direction, nulls⟩ ::
      SortKey.rewriteEach rewriting shown rest

/-- A condition, rewritten. -/
def Condition.rewrite (rewriting : Rewriting) (shown : Bool) : Condition → Condition
  | ⟨predicate, wrapped⟩ => ⟨predicate.rewrite rewriting shown, wrapped⟩

/-- Conditions, rewritten one by one. -/
def Condition.rewriteEach (rewriting : Rewriting) (shown : Bool) :
    List Condition → List Condition
  | [] => []
  | condition :: rest =>
    condition.rewrite rewriting shown :: Condition.rewriteEach rewriting shown rest

/-- An optional condition, rewritten. -/
def Condition.rewriteOption (rewriting : Rewriting) (shown : Bool) :
    Option Condition → Option Condition
  | none => none
  | some condition => some (condition.rewrite rewriting shown)

/-- A predicate, rewritten. -/
def Predicate.rewrite (rewriting : Rewriting) (shown : Bool) : Predicate → Predicate
  | .comparison left operator right =>
    .comparison (left.rewrite rewriting shown) operator (right.rewrite rewriting shown)
  | .between subject low high negated =>
    .between (subject.rewrite rewriting shown) (low.rewrite rewriting shown)
      (high.rewrite rewriting shown) negated
  | .like subject pattern negated =>
    .like (subject.rewrite rewriting shown) (pattern.rewrite rewriting shown) negated
  | .isNull subject negated => .isNull (subject.rewrite rewriting shown) negated
  | .isIn subject values negated =>
    .isIn (subject.rewrite rewriting shown) (values.rewrite rewriting shown) negated
  | .existence query => .existence (rewriting.nested (query.rewrite rewriting))
  | .quantified subject operator quantifier values =>
    .quantified (subject.rewrite rewriting shown) operator quantifier
      (values.rewrite rewriting shown)
  | .group ⟨connective, conditions⟩ =>
    .group ⟨connective, rewriting.conditions (Condition.rewriteEach rewriting shown conditions)⟩
  | .negation condition => .negation (condition.rewrite rewriting shown)

/-- Values to compare with, rewritten. -/
def Values.rewrite (rewriting : Rewriting) (shown : Bool) : Values → Values
  | .list values => .list (Expr.rewriteEach rewriting shown values)
  | .query body => .query (rewriting.nested (body.rewrite rewriting))
  | .call invocation => .call (invocation.rewrite rewriting shown)

/-- A source, rewritten. -/
def Source.rewrite (rewriting : Rewriting) (shown : Bool) : Source → Source
  | ⟨origin, aliasName⟩ => ⟨origin.rewrite rewriting shown, aliasName⟩

/-- Sources, rewritten. -/
def Source.rewriteEach (rewriting : Rewriting) (shown : Bool) : List Source → List Source
  | [] => []
  | source :: rest =>
    source.rewrite rewriting shown :: Source.rewriteEach rewriting shown rest

/-- An origin of rows, rewritten. -/
def Origin.rewrite (rewriting : Rewriting) (shown : Bool) : Origin → Origin
  | .table name => .table name
  | .call invocation => .call (invocation.rewrite rewriting shown)
  | .query body => .query (rewriting.nested (body.rewrite rewriting))

/-- An item of a `FROM` clause, rewritten. -/
def FromItem.rewrite (rewriting : Rewriting) (shown : Bool) : FromItem → FromItem
  | .source single => .source (single.rewrite rewriting shown)
  | .join body => .join (body.rewrite rewriting shown)

/-- Items of a `FROM` clause, rewritten. -/
def FromItem.rewriteEach (rewriting : Rewriting) (shown : Bool) :
    List FromItem → List FromItem
  | [] => []
  | item :: rest => item.rewrite rewriting shown :: FromItem.rewriteEach rewriting shown rest

/-- A join, rewritten. -/
def Join.rewrite (rewriting : Rewriting) (shown : Bool) : Join → Join
  | ⟨left, right, kind, on, wrapped, ⟨sources⟩⟩ =>
    ⟨left.rewrite rewriting shown, right.rewrite rewriting shown, kind,
      rewriting.on (Condition.rewriteOption rewriting shown on), wrapped,
      ⟨Source.rewriteEach rewriting shown sources⟩⟩

/-- A query, rewritten. The columns in it are all in a `SELECT` of its own. -/
def Query.rewrite (rewriting : Rewriting) : Query → Query
  | .select body => .select (body.rewrite rewriting)
  | .setOperation ⟨operator, left, right, quantifier, wrapped⟩ =>
    .setOperation ⟨operator, left.rewrite rewriting, right.rewrite rewriting, quantifier,
      wrapped⟩

/-- A `SELECT`, rewritten. Its columns show their source. -/
def Select.rewrite (rewriting : Rewriting) : Select → Select
  | ⟨quantifier, top, projections, items, ⟨sources⟩, conditions, groupKeys, groupConditions,
      sortKeys, wrapped⟩ =>
    ⟨quantifier, Top.rewriteOption rewriting true top,
      Projection.rewriteEach rewriting true projections,
      FromItem.rewriteEach rewriting true items,
      ⟨Source.rewriteEach rewriting true sources⟩,
      rewriting.conditions (Condition.rewriteEach rewriting true conditions),
      Expr.rewriteEach rewriting true groupKeys,
      rewriting.conditions (Condition.rewriteEach rewriting true groupConditions),
      SortKey.rewriteEach rewriting true sortKeys, wrapped⟩

/-- Entries of the list of a `SELECT`, rewritten. -/
def Projection.rewriteEach (rewriting : Rewriting) (shown : Bool) :
    List Projection → List Projection
  | [] => []
  | ⟨expr, aliasName⟩ :: rest =>
    ⟨expr.rewrite rewriting shown, aliasName⟩ :: Projection.rewriteEach rewriting shown rest

/-- An optional limit on the number of rows, rewritten. -/
def Top.rewriteOption (rewriting : Rewriting) (shown : Bool) : Option Top → Option Top
  | none => none
  | some ⟨count, percent, withTies⟩ =>
    some ⟨count.rewrite rewriting shown, percent, withTies⟩

end

/-- Rewriting each of some values is rewriting one value, for each of them. -/
@[simp] theorem Expr.rewriteEach_eq_map (rewriting : Rewriting) (shown : Bool)
    (exprs : List Expr) :
    Expr.rewriteEach rewriting shown exprs = exprs.map (Expr.rewrite rewriting shown) := by
  induction exprs with
  | nil => rfl
  | cons expr rest inductionHypothesis => simp [Expr.rewriteEach, inductionHypothesis]

@[simp] theorem SortKey.rewriteEach_eq_map (rewriting : Rewriting) (shown : Bool)
    (keys : List SortKey) :
    SortKey.rewriteEach rewriting shown keys = keys.map fun key =>
      ⟨key.expr.rewrite rewriting shown, key.direction, key.nulls⟩ := by
  induction keys with
  | nil => rfl
  | cons key rest inductionHypothesis =>
    obtain ⟨expr, direction, nulls⟩ := key
    simp [SortKey.rewriteEach, inductionHypothesis]

@[simp] theorem MatchBranch.rewriteEach_eq_map (rewriting : Rewriting) (shown : Bool)
    (branches : List MatchBranch) :
    MatchBranch.rewriteEach rewriting shown branches = branches.map fun branch =>
      ⟨branch.value.rewrite rewriting shown, branch.result.rewrite rewriting shown⟩ := by
  induction branches with
  | nil => rfl
  | cons branch rest inductionHypothesis =>
    obtain ⟨value, result⟩ := branch
    simp [MatchBranch.rewriteEach, inductionHypothesis]

/-- Rewriting an optional value is rewriting the value if there is one. -/
@[simp] theorem Expr.rewriteOption_eq_map (rewriting : Rewriting) (shown : Bool)
    (expr : Option Expr) :
    Expr.rewriteOption rewriting shown expr = expr.map (Expr.rewrite rewriting shown) := by
  cases expr <;> rfl

@[simp] theorem Window.rewriteOption_eq_map (rewriting : Rewriting) (shown : Bool)
    (window : Option Window) :
    Window.rewriteOption rewriting shown window =
      window.map (Window.rewrite rewriting shown) := by
  cases window <;> rfl

/-- The rows of an `INSERT`, rewritten. -/
def InsertRows.rewrite (rewriting : Rewriting) (shown : Bool) : InsertRows → InsertRows
  | .list values => .list (Expr.rewriteEach rewriting shown values)
  | .query body => .query (rewriting.nested (body.rewrite rewriting))

/-- A statement, rewritten. The switches of a dialect say whether the columns of
the clauses of its own show their source. -/
def Statement.rewrite (rewriting : Rewriting) (dialect : Dialect) : Statement → Statement
  | .query body => .query (body.rewrite rewriting)
  | .insert body =>
    .insert ⟨body.target, body.columns.map (rewriting.column dialect.qualifyInsertColumns),
      body.rows.rewrite rewriting dialect.qualifyInsertColumns⟩
  | .update body =>
    let shown := dialect.qualifyUpdateColumns
    .update ⟨body.target,
      body.setters.map fun setter =>
        ⟨rewriting.column shown setter.column, setter.value.rewrite rewriting shown⟩,
      rewriting.conditions (Condition.rewriteEach rewriting shown body.conditions)⟩
  | .delete body =>
    .delete ⟨body.target, rewriting.conditions
      (Condition.rewriteEach rewriting dialect.qualifyDeleteColumns body.conditions)⟩

end SqlTree
