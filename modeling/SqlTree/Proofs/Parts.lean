import SqlTree.Statement

/-!
# The parts of a statement

The sources, projections, joins and branches by condition that a statement writes, at
every depth and in the order in which their own words are written. These are the parts
that bring words of their own: an alias, the words of a join, and the words around the
condition of a branch.

Only what is written is listed. The sources that a scope knows are not written by it, so
they are no parts.
-/

namespace SqlTree

/-- A part of a statement that brings words of its own. -/
inductive Part where
  | source (source : Source)
  | projection (projection : Projection)
  | join (join : Join)
  | branch (branch : ConditionalBranch)

mutual

/-- The parts of a value. -/
def Expr.parts : Expr → List Part
  | .number _ | .text _ | .null | .placeholder _ | .column _ | .allColumns _ => []
  | .call invocation => invocation.parts
  | .arithmetic _ left right => left.parts ++ right.parts
  | .negation operand => operand.parts
  | .matchCase ⟨subject, branches, otherwise⟩ =>
    subject.parts ++ MatchBranch.partsEach branches ++ Expr.partsOption otherwise
  | .conditionalCase ⟨branches, otherwise⟩ =>
    ConditionalBranch.partsEach branches ++ Expr.partsOption otherwise
  | .subquery body => body.parts

/-- The parts of several values. -/
def Expr.partsEach : List Expr → List Part
  | [] => []
  | expr :: rest => expr.parts ++ Expr.partsEach rest

/-- The parts of an optional value. -/
def Expr.partsOption : Option Expr → List Part
  | none => []
  | some expr => expr.parts

/-- The parts of the branches of a choice by value. -/
def MatchBranch.partsEach : List MatchBranch → List Part
  | [] => []
  | ⟨value, result⟩ :: rest => value.parts ++ result.parts ++ MatchBranch.partsEach rest

/-- The parts of the branches of a choice by condition, and the branches themselves. -/
def ConditionalBranch.partsEach : List ConditionalBranch → List Part
  | [] => []
  | ⟨condition, result⟩ :: rest =>
    .branch ⟨condition, result⟩ :: (condition.parts ++ result.parts) ++
      ConditionalBranch.partsEach rest

/-- The parts of a call. -/
def Call.parts : Call → List Part
  | ⟨_, arguments, window⟩ => Expr.partsEach arguments ++ Window.partsOption window

/-- The parts of an optional window. -/
def Window.partsOption : Option Window → List Part
  | none => []
  | some window => window.parts

/-- The parts of a window. -/
def Window.parts : Window → List Part
  | ⟨partitions, sortKeys, _⟩ => Expr.partsEach partitions ++ SortKey.partsEach sortKeys

/-- The parts of several sort keys. -/
def SortKey.partsEach : List SortKey → List Part
  | [] => []
  | ⟨expr, _, _⟩ :: rest => expr.parts ++ SortKey.partsEach rest

/-- The parts of a condition. -/
def Condition.parts : Condition → List Part
  | ⟨predicate, _⟩ => predicate.parts

/-- The parts of several conditions. -/
def Condition.partsEach : List Condition → List Part
  | [] => []
  | condition :: rest => condition.parts ++ Condition.partsEach rest

/-- The parts of an optional condition. -/
def Condition.partsOption : Option Condition → List Part
  | none => []
  | some condition => condition.parts

/-- The parts of a predicate. -/
def Predicate.parts : Predicate → List Part
  | .comparison left _ right => left.parts ++ right.parts
  | .between subject low high _ => subject.parts ++ low.parts ++ high.parts
  | .like subject pattern _ => subject.parts ++ pattern.parts
  | .isNull subject _ => subject.parts
  | .isIn subject values _ => subject.parts ++ values.parts
  | .existence query => query.parts
  | .quantified subject _ _ values => subject.parts ++ values.parts
  | .group ⟨_, conditions⟩ => Condition.partsEach conditions
  | .negation condition => condition.parts

/-- The parts of values to compare with. -/
def Values.parts : Values → List Part
  | .list values => Expr.partsEach values
  | .query body => body.parts
  | .call invocation => invocation.parts

/-- The parts of a source, and the source itself. -/
def Source.parts : Source → List Part
  | ⟨origin, aliasName⟩ => origin.parts ++ [.source ⟨origin, aliasName⟩]

/-- The parts of an origin of rows. -/
def Origin.parts : Origin → List Part
  | .table _ => []
  | .call invocation => invocation.parts
  | .query body => body.parts

/-- The parts of an item of a `FROM` clause. -/
def FromItem.parts : FromItem → List Part
  | .source single => single.parts
  | .join body => body.parts

/-- The parts of several items of a `FROM` clause. -/
def FromItem.partsEach : List FromItem → List Part
  | [] => []
  | item :: rest => item.parts ++ FromItem.partsEach rest

/-- The parts of a join, and the join itself. -/
def Join.parts : Join → List Part
  | ⟨left, right, kind, on, wrapped, scope⟩ =>
    left.parts ++ [.join ⟨left, right, kind, on, wrapped, scope⟩] ++ right.parts ++
      Condition.partsOption on

/-- The parts of a query. -/
def Query.parts : Query → List Part
  | .select body => body.parts
  | .setOperation ⟨_, left, right, _, _⟩ => left.parts ++ right.parts

/-- The parts of a `SELECT`. -/
def Select.parts : Select → List Part
  | ⟨_, top, projections, items, _, conditions, groupKeys, groupConditions, sortKeys, _⟩ =>
    Top.partsOption top ++ Projection.partsEach projections ++ FromItem.partsEach items ++
      Condition.partsEach conditions ++ Expr.partsEach groupKeys ++
      Condition.partsEach groupConditions ++ SortKey.partsEach sortKeys

/-- The parts of the entries of the list of a `SELECT`, and the entries themselves. -/
def Projection.partsEach : List Projection → List Part
  | [] => []
  | ⟨expr, aliasName⟩ :: rest =>
    expr.parts ++ [.projection ⟨expr, aliasName⟩] ++ Projection.partsEach rest

/-- The parts of an optional limit on the number of rows. -/
def Top.partsOption : Option Top → List Part
  | none => []
  | some ⟨count, _, _⟩ => count.parts

end

/-- The parts of the rows of an `INSERT`. -/
def InsertRows.parts : InsertRows → List Part
  | .list values => Expr.partsEach values
  | .query body => body.parts

/-- The parts of a statement. -/
def Statement.parts : Statement → List Part
  | .query body => body.parts
  | .insert body => body.target.source.parts ++ body.rows.parts
  | .update body =>
    body.target.source.parts ++ Expr.partsEach (body.setters.map Setter.value) ++
      Condition.partsEach body.conditions
  | .delete body => body.target.source.parts ++ Condition.partsEach body.conditions

/-- The parts of several values are those of each of them. -/
theorem Expr.partsEach_eq_flatMap (exprs : List Expr) :
    Expr.partsEach exprs = exprs.flatMap Expr.parts := by
  induction exprs with
  | nil => rfl
  | cons expr rest inductionHypothesis => simp [Expr.partsEach, inductionHypothesis]

theorem SortKey.partsEach_eq_flatMap (keys : List SortKey) :
    SortKey.partsEach keys = keys.flatMap fun key => key.expr.parts := by
  induction keys with
  | nil => rfl
  | cons key rest inductionHypothesis =>
    obtain ⟨expr, direction, nulls⟩ := key
    simp [SortKey.partsEach, inductionHypothesis]

theorem MatchBranch.partsEach_eq_flatMap (branches : List MatchBranch) :
    MatchBranch.partsEach branches =
      branches.flatMap fun branch => branch.value.parts ++ branch.result.parts := by
  induction branches with
  | nil => rfl
  | cons branch rest inductionHypothesis =>
    obtain ⟨value, result⟩ := branch
    simp [MatchBranch.partsEach, inductionHypothesis]

theorem ConditionalBranch.partsEach_eq_flatMap (branches : List ConditionalBranch) :
    ConditionalBranch.partsEach branches = branches.flatMap fun branch =>
      .branch branch :: (branch.condition.parts ++ branch.result.parts) := by
  induction branches with
  | nil => rfl
  | cons branch rest inductionHypothesis =>
    obtain ⟨condition, result⟩ := branch
    simp [ConditionalBranch.partsEach, inductionHypothesis]

theorem Condition.partsEach_eq_flatMap (conditions : List Condition) :
    Condition.partsEach conditions = conditions.flatMap Condition.parts := by
  induction conditions with
  | nil => rfl
  | cons condition rest inductionHypothesis => simp [Condition.partsEach, inductionHypothesis]

theorem FromItem.partsEach_eq_flatMap (items : List FromItem) :
    FromItem.partsEach items = items.flatMap FromItem.parts := by
  induction items with
  | nil => rfl
  | cons item rest inductionHypothesis => simp [FromItem.partsEach, inductionHypothesis]

theorem Projection.partsEach_eq_flatMap (projections : List Projection) :
    Projection.partsEach projections = projections.flatMap fun projection =>
      projection.expr.parts ++ [.projection projection] := by
  induction projections with
  | nil => rfl
  | cons projection rest inductionHypothesis =>
    obtain ⟨expr, aliasName⟩ := projection
    simp [Projection.partsEach, inductionHypothesis]

end SqlTree
