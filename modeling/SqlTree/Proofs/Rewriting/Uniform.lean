import SqlTree.Proofs.Rewriting

/-!
# Uniform rewritings

A rewriting that changes columns alike whether they show their source or not does
not need to be told (`Statement.rewrite_eq_of_uniform`). The flag is handed down to
columns and decides nothing else.
-/

namespace SqlTree

/-- A rewriting that changes columns alike whether they show their source or not. -/
def Rewriting.Uniform (rewriting : Rewriting) : Prop :=
  ∀ shown other column, rewriting.column shown column = rewriting.column other column

variable {rewriting : Rewriting}

mutual

/-- A value is rewritten alike whether its columns show their source or not. -/
theorem Expr.rewrite_eq_of_uniform (uniform : rewriting.Uniform) (shown other : Bool) :
    (expr : Expr) → expr.rewrite rewriting shown = expr.rewrite rewriting other
  | .number _ | .text _ | .null | .placeholder _ | .allColumns _ | .subquery _ => rfl
  | .column reference => congrArg Expr.column (uniform shown other reference)
  | .call invocation =>
    congrArg Expr.call (Call.rewrite_eq_of_uniform uniform shown other invocation)
  | .arithmetic operator left right => by
    simp only [Expr.rewrite, Expr.rewrite_eq_of_uniform uniform shown other left,
      Expr.rewrite_eq_of_uniform uniform shown other right]
  | .negation operand =>
    congrArg Expr.negation (Expr.rewrite_eq_of_uniform uniform shown other operand)
  | .matchCase ⟨subject, branches, otherwise⟩ => by
    simp only [Expr.rewrite, Expr.rewrite_eq_of_uniform uniform shown other subject,
      MatchBranch.rewriteEach_eq_of_uniform uniform shown other branches,
      Expr.rewriteOption_eq_of_uniform uniform shown other otherwise]
  | .conditionalCase ⟨branches, otherwise⟩ => by
    simp only [Expr.rewrite,
      ConditionalBranch.rewriteEach_eq_of_uniform uniform shown other branches,
      Expr.rewriteOption_eq_of_uniform uniform shown other otherwise]
termination_by structural expr => expr

theorem Expr.rewriteEach_eq_of_uniform (uniform : rewriting.Uniform) (shown other : Bool) :
    (exprs : List Expr) →
    Expr.rewriteEach rewriting shown exprs = Expr.rewriteEach rewriting other exprs
  | [] => rfl
  | expr :: rest => by
    simp only [Expr.rewriteEach, Expr.rewrite_eq_of_uniform uniform shown other expr,
      Expr.rewriteEach_eq_of_uniform uniform shown other rest]
termination_by structural exprs => exprs

theorem Expr.rewriteOption_eq_of_uniform (uniform : rewriting.Uniform) (shown other : Bool) :
    (expr : Option Expr) →
    Expr.rewriteOption rewriting shown expr = Expr.rewriteOption rewriting other expr
  | none => rfl
  | some expr => congrArg some (Expr.rewrite_eq_of_uniform uniform shown other expr)
termination_by structural expr => expr

theorem MatchBranch.rewriteEach_eq_of_uniform (uniform : rewriting.Uniform)
    (shown other : Bool) : (branches : List MatchBranch) →
    MatchBranch.rewriteEach rewriting shown branches =
      MatchBranch.rewriteEach rewriting other branches
  | [] => rfl
  | ⟨value, result⟩ :: rest => by
    simp only [MatchBranch.rewriteEach, Expr.rewrite_eq_of_uniform uniform shown other value,
      Expr.rewrite_eq_of_uniform uniform shown other result,
      MatchBranch.rewriteEach_eq_of_uniform uniform shown other rest]
termination_by structural branches => branches

theorem ConditionalBranch.rewriteEach_eq_of_uniform (uniform : rewriting.Uniform)
    (shown other : Bool) : (branches : List ConditionalBranch) →
    ConditionalBranch.rewriteEach rewriting shown branches =
      ConditionalBranch.rewriteEach rewriting other branches
  | [] => rfl
  | ⟨condition, result⟩ :: rest => by
    simp only [ConditionalBranch.rewriteEach,
      Condition.rewrite_eq_of_uniform uniform shown other condition,
      Expr.rewrite_eq_of_uniform uniform shown other result,
      ConditionalBranch.rewriteEach_eq_of_uniform uniform shown other rest]
termination_by structural branches => branches

theorem Call.rewrite_eq_of_uniform (uniform : rewriting.Uniform) (shown other : Bool) :
    (call : Call) → call.rewrite rewriting shown = call.rewrite rewriting other
  | ⟨name, arguments, window⟩ => by
    simp only [Call.rewrite, Expr.rewriteEach_eq_of_uniform uniform shown other arguments,
      Window.rewriteOption_eq_of_uniform uniform shown other window]
termination_by structural call => call

theorem Window.rewriteOption_eq_of_uniform (uniform : rewriting.Uniform) (shown other : Bool) :
    (window : Option Window) →
    Window.rewriteOption rewriting shown window = Window.rewriteOption rewriting other window
  | none => rfl
  | some window => congrArg some (Window.rewrite_eq_of_uniform uniform shown other window)
termination_by structural window => window

theorem Window.rewrite_eq_of_uniform (uniform : rewriting.Uniform) (shown other : Bool) :
    (window : Window) → window.rewrite rewriting shown = window.rewrite rewriting other
  | ⟨partitions, sortKeys, frame⟩ => by
    simp only [Window.rewrite, Expr.rewriteEach_eq_of_uniform uniform shown other partitions,
      SortKey.rewriteEach_eq_of_uniform uniform shown other sortKeys]
termination_by structural window => window

theorem SortKey.rewriteEach_eq_of_uniform (uniform : rewriting.Uniform) (shown other : Bool) :
    (keys : List SortKey) →
    SortKey.rewriteEach rewriting shown keys = SortKey.rewriteEach rewriting other keys
  | [] => rfl
  | ⟨expr, direction, nulls⟩ :: rest => by
    simp only [SortKey.rewriteEach, Expr.rewrite_eq_of_uniform uniform shown other expr,
      SortKey.rewriteEach_eq_of_uniform uniform shown other rest]
termination_by structural keys => keys

theorem Condition.rewrite_eq_of_uniform (uniform : rewriting.Uniform) (shown other : Bool) :
    (condition : Condition) →
    condition.rewrite rewriting shown = condition.rewrite rewriting other
  | ⟨predicate, wrapped⟩ => by
    simp only [Condition.rewrite, Predicate.rewrite_eq_of_uniform uniform shown other predicate]
termination_by structural condition => condition

theorem Condition.rewriteEach_eq_of_uniform (uniform : rewriting.Uniform) (shown other : Bool) :
    (conditions : List Condition) →
    Condition.rewriteEach rewriting shown conditions =
      Condition.rewriteEach rewriting other conditions
  | [] => rfl
  | condition :: rest => by
    simp only [Condition.rewriteEach,
      Condition.rewrite_eq_of_uniform uniform shown other condition,
      Condition.rewriteEach_eq_of_uniform uniform shown other rest]
termination_by structural conditions => conditions

theorem Predicate.rewrite_eq_of_uniform (uniform : rewriting.Uniform) (shown other : Bool) :
    (predicate : Predicate) →
    predicate.rewrite rewriting shown = predicate.rewrite rewriting other
  | .comparison left operator right => by
    simp only [Predicate.rewrite, Expr.rewrite_eq_of_uniform uniform shown other left,
      Expr.rewrite_eq_of_uniform uniform shown other right]
  | .between subject low high negated => by
    simp only [Predicate.rewrite, Expr.rewrite_eq_of_uniform uniform shown other subject,
      Expr.rewrite_eq_of_uniform uniform shown other low,
      Expr.rewrite_eq_of_uniform uniform shown other high]
  | .like subject pattern negated => by
    simp only [Predicate.rewrite, Expr.rewrite_eq_of_uniform uniform shown other subject,
      Expr.rewrite_eq_of_uniform uniform shown other pattern]
  | .isNull subject negated => by
    simp only [Predicate.rewrite, Expr.rewrite_eq_of_uniform uniform shown other subject]
  | .isIn subject values negated => by
    simp only [Predicate.rewrite, Expr.rewrite_eq_of_uniform uniform shown other subject,
      Values.rewrite_eq_of_uniform uniform shown other values]
  | .existence _ => rfl
  | .quantified subject operator quantifier values => by
    simp only [Predicate.rewrite, Expr.rewrite_eq_of_uniform uniform shown other subject,
      Values.rewrite_eq_of_uniform uniform shown other values]
  | .group ⟨connective, conditions⟩ => by
    simp only [Predicate.rewrite,
      Condition.rewriteEach_eq_of_uniform uniform shown other conditions]
  | .negation condition => by
    simp only [Predicate.rewrite, Condition.rewrite_eq_of_uniform uniform shown other condition]
termination_by structural predicate => predicate

theorem Values.rewrite_eq_of_uniform (uniform : rewriting.Uniform) (shown other : Bool) :
    (values : Values) → values.rewrite rewriting shown = values.rewrite rewriting other
  | .list values => congrArg Values.list (Expr.rewriteEach_eq_of_uniform uniform shown other values)
  | .query _ => rfl
  | .call invocation =>
    congrArg Values.call (Call.rewrite_eq_of_uniform uniform shown other invocation)
termination_by structural values => values

end

/-- A statement is rewritten alike in every dialect. -/
theorem Statement.rewrite_eq_of_uniform (uniform : rewriting.Uniform) (dialect other : Dialect)
    (statement : Statement) :
    statement.rewrite rewriting dialect = statement.rewrite rewriting other := by
  cases statement with
  | query body => rfl
  | insert body =>
    have columns : rewriting.column dialect.qualifyInsertColumns =
        rewriting.column other.qualifyInsertColumns := funext (uniform _ _)
    have rows : ∀ rows : InsertRows, rows.rewrite rewriting dialect.qualifyInsertColumns =
        rows.rewrite rewriting other.qualifyInsertColumns := by
      intro rows
      cases rows with
      | list values => exact congrArg _ (Expr.rewriteEach_eq_of_uniform uniform _ _ values)
      | query body => rfl
    simp only [Statement.rewrite, columns, rows]
  | update body =>
    have setters : ∀ setter : Setter,
        (⟨rewriting.column dialect.qualifyUpdateColumns setter.column,
          setter.value.rewrite rewriting dialect.qualifyUpdateColumns⟩ : Setter) =
        ⟨rewriting.column other.qualifyUpdateColumns setter.column,
          setter.value.rewrite rewriting other.qualifyUpdateColumns⟩ := by
      intro setter
      rw [uniform _ other.qualifyUpdateColumns,
        Expr.rewrite_eq_of_uniform uniform _ other.qualifyUpdateColumns]
    simp only [Statement.rewrite, setters,
      Condition.rewriteEach_eq_of_uniform uniform _ other.qualifyUpdateColumns]
  | delete body =>
    simp only [Statement.rewrite,
      Condition.rewriteEach_eq_of_uniform uniform _ other.qualifyDeleteColumns]

end SqlTree
