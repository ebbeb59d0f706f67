import SqlTree.Tree

/-!
# Equality of trees

Two parts of a query are equal when they were built alike: from the same
constructors, names, numerals, flags and scopes. Equality is decided by a walk
over both trees (`Expr.beq` and its kin), and the walk answers yes exactly for
equal trees (`Expr.beq_iff_eq` and its kin). So parts can be found in and
removed from lists by value.
-/

namespace SqlTree

mutual

/-- Whether two values are equal. -/
def Expr.beq : Expr → Expr → Bool
  | .number a₁, .number a₂ => decide (a₁ = a₂)
  | .text a₁, .text a₂ => decide (a₁ = a₂)
  | .null, .null => true
  | .placeholder a₁, .placeholder a₂ => decide (a₁ = a₂)
  | .column a₁, .column a₂ => decide (a₁ = a₂)
  | .allColumns a₁, .allColumns a₂ => decide (a₁ = a₂)
  | .call a₁, .call a₂ => a₁.beq a₂
  | .arithmetic a₁ b₁ c₁, .arithmetic a₂ b₂ c₂ => decide (a₁ = a₂) && b₁.beq b₂ && c₁.beq c₂
  | .negation a₁, .negation a₂ => a₁.beq a₂
  | .matchCase a₁, .matchCase a₂ => a₁.beq a₂
  | .conditionalCase a₁, .conditionalCase a₂ => a₁.beq a₂
  | .subquery a₁, .subquery a₂ => a₁.beq a₂
  | _, _ => false
termination_by structural left => left

/-- Whether two choices by value are equal. -/
def MatchCase.beq : MatchCase → MatchCase → Bool
  | ⟨a₁, b₁, c₁⟩, ⟨a₂, b₂, c₂⟩ => a₁.beq a₂ && MatchBranch.beqList b₁ b₂ && Expr.beqOption c₁ c₂
termination_by structural left => left

/-- Whether two branches by value are equal. -/
def MatchBranch.beq : MatchBranch → MatchBranch → Bool
  | ⟨a₁, b₁⟩, ⟨a₂, b₂⟩ => a₁.beq a₂ && b₁.beq b₂
termination_by structural left => left

/-- Whether two choices by condition are equal. -/
def ConditionalCase.beq : ConditionalCase → ConditionalCase → Bool
  | ⟨a₁, b₁⟩, ⟨a₂, b₂⟩ => ConditionalBranch.beqList a₁ a₂ && Expr.beqOption b₁ b₂
termination_by structural left => left

/-- Whether two branches by condition are equal. -/
def ConditionalBranch.beq : ConditionalBranch → ConditionalBranch → Bool
  | ⟨a₁, b₁⟩, ⟨a₂, b₂⟩ => a₁.beq a₂ && b₁.beq b₂
termination_by structural left => left

/-- Whether two calls are equal. -/
def Call.beq : Call → Call → Bool
  | ⟨a₁, b₁, c₁⟩, ⟨a₂, b₂, c₂⟩ => decide (a₁ = a₂) && Expr.beqList b₁ b₂ && Window.beqOption c₁ c₂
termination_by structural left => left

/-- Whether two windows are equal. -/
def Window.beq : Window → Window → Bool
  | ⟨a₁, b₁, c₁⟩, ⟨a₂, b₂, c₂⟩ => Expr.beqList a₁ a₂ && SortKey.beqList b₁ b₂ && decide (c₁ = c₂)
termination_by structural left => left

/-- Whether two sort keys are equal. -/
def SortKey.beq : SortKey → SortKey → Bool
  | ⟨a₁, b₁, c₁⟩, ⟨a₂, b₂, c₂⟩ => a₁.beq a₂ && decide (b₁ = b₂) && decide (c₁ = c₂)
termination_by structural left => left

/-- Whether two conditions are equal. -/
def Condition.beq : Condition → Condition → Bool
  | ⟨a₁, b₁⟩, ⟨a₂, b₂⟩ => a₁.beq a₂ && decide (b₁ = b₂)
termination_by structural left => left

/-- Whether two predicates are equal. -/
def Predicate.beq : Predicate → Predicate → Bool
  | .comparison a₁ b₁ c₁, .comparison a₂ b₂ c₂ => a₁.beq a₂ && decide (b₁ = b₂) && c₁.beq c₂
  | .between a₁ b₁ c₁ d₁, .between a₂ b₂ c₂ d₂ => a₁.beq a₂ && b₁.beq b₂ && c₁.beq c₂ &&
    decide (d₁ = d₂)
  | .like a₁ b₁ c₁, .like a₂ b₂ c₂ => a₁.beq a₂ && b₁.beq b₂ && decide (c₁ = c₂)
  | .isNull a₁ b₁, .isNull a₂ b₂ => a₁.beq a₂ && decide (b₁ = b₂)
  | .isIn a₁ b₁ c₁, .isIn a₂ b₂ c₂ => a₁.beq a₂ && b₁.beq b₂ && decide (c₁ = c₂)
  | .existence a₁, .existence a₂ => a₁.beq a₂
  | .quantified a₁ b₁ c₁ d₁, .quantified a₂ b₂ c₂ d₂ => a₁.beq a₂ && decide (b₁ = b₂) &&
    decide (c₁ = c₂) && d₁.beq d₂
  | .group a₁, .group a₂ => a₁.beq a₂
  | .negation a₁, .negation a₂ => a₁.beq a₂
  | _, _ => false
termination_by structural left => left

/-- Whether two groups of conditions are equal. -/
def ConditionGroup.beq : ConditionGroup → ConditionGroup → Bool
  | ⟨a₁, b₁⟩, ⟨a₂, b₂⟩ => decide (a₁ = a₂) && Condition.beqList b₁ b₂
termination_by structural left => left

/-- Whether two values to compare with are equal. -/
def Values.beq : Values → Values → Bool
  | .list a₁, .list a₂ => Expr.beqList a₁ a₂
  | .query a₁, .query a₂ => a₁.beq a₂
  | .call a₁, .call a₂ => a₁.beq a₂
  | _, _ => false
termination_by structural left => left

/-- Whether two origins of rows are equal. -/
def Origin.beq : Origin → Origin → Bool
  | .table a₁, .table a₂ => decide (a₁ = a₂)
  | .call a₁, .call a₂ => a₁.beq a₂
  | .query a₁, .query a₂ => a₁.beq a₂
  | _, _ => false
termination_by structural left => left

/-- Whether two sources are equal. -/
def Source.beq : Source → Source → Bool
  | ⟨a₁, b₁⟩, ⟨a₂, b₂⟩ => a₁.beq a₂ && decide (b₁ = b₂)
termination_by structural left => left

/-- Whether two items of a `FROM` clause are equal. -/
def FromItem.beq : FromItem → FromItem → Bool
  | .source a₁, .source a₂ => a₁.beq a₂
  | .join a₁, .join a₂ => a₁.beq a₂
  | _, _ => false
termination_by structural left => left

/-- Whether two joins are equal. -/
def Join.beq : Join → Join → Bool
  | ⟨a₁, b₁, c₁, d₁, e₁, f₁⟩, ⟨a₂, b₂, c₂, d₂, e₂, f₂⟩ => a₁.beq a₂ && b₁.beq b₂ &&
    decide (c₁ = c₂) && Condition.beqOption d₁ d₂ && decide (e₁ = e₂) && f₁.beq f₂
termination_by structural left => left

/-- Whether two scopes are equal. -/
def Scope.beq : Scope → Scope → Bool
  | ⟨a₁⟩, ⟨a₂⟩ => Source.beqList a₁ a₂
termination_by structural left => left

/-- Whether two queries are equal. -/
def Query.beq : Query → Query → Bool
  | .select a₁, .select a₂ => a₁.beq a₂
  | .setOperation a₁, .setOperation a₂ => a₁.beq a₂
  | _, _ => false
termination_by structural left => left

/-- Whether two set operations are equal. -/
def SetOperation.beq : SetOperation → SetOperation → Bool
  | ⟨a₁, b₁, c₁, d₁, e₁⟩, ⟨a₂, b₂, c₂, d₂, e₂⟩ => decide (a₁ = a₂) && b₁.beq b₂ && c₁.beq c₂ &&
    decide (d₁ = d₂) && decide (e₁ = e₂)
termination_by structural left => left

/-- Whether two `SELECT` statements are equal. -/
def Select.beq : Select → Select → Bool
  | ⟨a₁, b₁, c₁, d₁, e₁, f₁, g₁, h₁, i₁, j₁⟩, ⟨a₂, b₂, c₂, d₂, e₂, f₂, g₂, h₂, i₂, j₂⟩ =>
    decide (a₁ = a₂) && Top.beqOption b₁ b₂ && Projection.beqList c₁ c₂ &&
    FromItem.beqList d₁ d₂ && e₁.beq e₂ && Condition.beqList f₁ f₂ && Expr.beqList g₁ g₂ &&
    Condition.beqList h₁ h₂ && SortKey.beqList i₁ i₂ && decide (j₁ = j₂)
termination_by structural left => left

/-- Whether two projections are equal. -/
def Projection.beq : Projection → Projection → Bool
  | ⟨a₁, b₁⟩, ⟨a₂, b₂⟩ => a₁.beq a₂ && decide (b₁ = b₂)
termination_by structural left => left

/-- Whether two row limits are equal. -/
def Top.beq : Top → Top → Bool
  | ⟨a₁, b₁, c₁⟩, ⟨a₂, b₂, c₂⟩ => a₁.beq a₂ && decide (b₁ = b₂) && decide (c₁ = c₂)
termination_by structural left => left

/-- Whether two lists of branches by value are equal. -/
def MatchBranch.beqList : List MatchBranch → List MatchBranch → Bool
  | [], [] => true
  | a₁ :: b₁, a₂ :: b₂ => a₁.beq a₂ && MatchBranch.beqList b₁ b₂
  | _, _ => false
termination_by structural left => left

/-- Whether two lists of branches by condition are equal. -/
def ConditionalBranch.beqList : List ConditionalBranch → List ConditionalBranch → Bool
  | [], [] => true
  | a₁ :: b₁, a₂ :: b₂ => a₁.beq a₂ && ConditionalBranch.beqList b₁ b₂
  | _, _ => false
termination_by structural left => left

/-- Whether two lists of values are equal. -/
def Expr.beqList : List Expr → List Expr → Bool
  | [], [] => true
  | a₁ :: b₁, a₂ :: b₂ => a₁.beq a₂ && Expr.beqList b₁ b₂
  | _, _ => false
termination_by structural left => left

/-- Whether two lists of sort keys are equal. -/
def SortKey.beqList : List SortKey → List SortKey → Bool
  | [], [] => true
  | a₁ :: b₁, a₂ :: b₂ => a₁.beq a₂ && SortKey.beqList b₁ b₂
  | _, _ => false
termination_by structural left => left

/-- Whether two lists of conditions are equal. -/
def Condition.beqList : List Condition → List Condition → Bool
  | [], [] => true
  | a₁ :: b₁, a₂ :: b₂ => a₁.beq a₂ && Condition.beqList b₁ b₂
  | _, _ => false
termination_by structural left => left

/-- Whether two lists of sources are equal. -/
def Source.beqList : List Source → List Source → Bool
  | [], [] => true
  | a₁ :: b₁, a₂ :: b₂ => a₁.beq a₂ && Source.beqList b₁ b₂
  | _, _ => false
termination_by structural left => left

/-- Whether two lists of projections are equal. -/
def Projection.beqList : List Projection → List Projection → Bool
  | [], [] => true
  | a₁ :: b₁, a₂ :: b₂ => a₁.beq a₂ && Projection.beqList b₁ b₂
  | _, _ => false
termination_by structural left => left

/-- Whether two lists of items of a `FROM` clause are equal. -/
def FromItem.beqList : List FromItem → List FromItem → Bool
  | [], [] => true
  | a₁ :: b₁, a₂ :: b₂ => a₁.beq a₂ && FromItem.beqList b₁ b₂
  | _, _ => false
termination_by structural left => left

/-- Whether two options of values are equal. -/
def Expr.beqOption : Option Expr → Option Expr → Bool
  | none, none => true
  | some a₁, some a₂ => a₁.beq a₂
  | _, _ => false
termination_by structural left => left

/-- Whether two options of windows are equal. -/
def Window.beqOption : Option Window → Option Window → Bool
  | none, none => true
  | some a₁, some a₂ => a₁.beq a₂
  | _, _ => false
termination_by structural left => left

/-- Whether two options of conditions are equal. -/
def Condition.beqOption : Option Condition → Option Condition → Bool
  | none, none => true
  | some a₁, some a₂ => a₁.beq a₂
  | _, _ => false
termination_by structural left => left

/-- Whether two options of row limits are equal. -/
def Top.beqOption : Option Top → Option Top → Bool
  | none, none => true
  | some a₁, some a₂ => a₁.beq a₂
  | _, _ => false
termination_by structural left => left

end

mutual

/-- The walk over two values decides equality. -/
theorem Expr.beq_iff_eq : ∀ left right : Expr, left.beq right = true ↔ left = right
  | .number _, right => by
    cases right with
    | number => simp only [Expr.beq, Expr.number.injEq, decide_eq_true_eq]
    | _ => exact iff_of_false Bool.false_ne_true nofun
  | .text _, right => by
    cases right with
    | text => simp only [Expr.beq, Expr.text.injEq, decide_eq_true_eq]
    | _ => exact iff_of_false Bool.false_ne_true nofun
  | .null, right => by
    cases right with
    | null => simp only [Expr.beq]
    | _ => exact iff_of_false Bool.false_ne_true nofun
  | .placeholder _, right => by
    cases right with
    | placeholder => simp only [Expr.beq, Expr.placeholder.injEq, decide_eq_true_eq]
    | _ => exact iff_of_false Bool.false_ne_true nofun
  | .column _, right => by
    cases right with
    | column => simp only [Expr.beq, Expr.column.injEq, decide_eq_true_eq]
    | _ => exact iff_of_false Bool.false_ne_true nofun
  | .allColumns _, right => by
    cases right with
    | allColumns => simp only [Expr.beq, Expr.allColumns.injEq, decide_eq_true_eq]
    | _ => exact iff_of_false Bool.false_ne_true nofun
  | .call a, right => by
    cases right with
    | call => simp only [Expr.beq, Expr.call.injEq, Call.beq_iff_eq a]
    | _ => exact iff_of_false Bool.false_ne_true nofun
  | .arithmetic _ b c, right => by
    cases right with
    | arithmetic => simp only [Expr.beq, Expr.arithmetic.injEq, decide_eq_true_eq,
      Bool.and_eq_true, and_assoc, Expr.beq_iff_eq b, Expr.beq_iff_eq c]
    | _ => exact iff_of_false Bool.false_ne_true nofun
  | .negation a, right => by
    cases right with
    | negation => simp only [Expr.beq, Expr.negation.injEq, Expr.beq_iff_eq a]
    | _ => exact iff_of_false Bool.false_ne_true nofun
  | .matchCase a, right => by
    cases right with
    | matchCase => simp only [Expr.beq, Expr.matchCase.injEq, MatchCase.beq_iff_eq a]
    | _ => exact iff_of_false Bool.false_ne_true nofun
  | .conditionalCase a, right => by
    cases right with
    | conditionalCase => simp only [Expr.beq, Expr.conditionalCase.injEq,
      ConditionalCase.beq_iff_eq a]
    | _ => exact iff_of_false Bool.false_ne_true nofun
  | .subquery a, right => by
    cases right with
    | subquery => simp only [Expr.beq, Expr.subquery.injEq, Query.beq_iff_eq a]
    | _ => exact iff_of_false Bool.false_ne_true nofun
termination_by structural left => left

/-- The walk over two choices by value decides equality. -/
theorem MatchCase.beq_iff_eq : ∀ left right : MatchCase, left.beq right = true ↔ left = right
  | ⟨a, b, c⟩, ⟨_, _, _⟩ => by
    simp only [MatchCase.beq, MatchCase.mk.injEq, Bool.and_eq_true, and_assoc, Expr.beq_iff_eq a,
      MatchBranch.beqList_iff_eq b, Expr.beqOption_iff_eq c]
termination_by structural left => left

/-- The walk over two branches by value decides equality. -/
theorem MatchBranch.beq_iff_eq : ∀ left right : MatchBranch, left.beq right = true ↔ left = right
  | ⟨a, b⟩, ⟨_, _⟩ => by
    simp only [MatchBranch.beq, MatchBranch.mk.injEq, Bool.and_eq_true, Expr.beq_iff_eq a,
      Expr.beq_iff_eq b]
termination_by structural left => left

/-- The walk over two choices by condition decides equality. -/
theorem ConditionalCase.beq_iff_eq : ∀ left right : ConditionalCase,
    left.beq right = true ↔ left = right
  | ⟨a, b⟩, ⟨_, _⟩ => by
    simp only [ConditionalCase.beq, ConditionalCase.mk.injEq, Bool.and_eq_true,
      ConditionalBranch.beqList_iff_eq a, Expr.beqOption_iff_eq b]
termination_by structural left => left

/-- The walk over two branches by condition decides equality. -/
theorem ConditionalBranch.beq_iff_eq : ∀ left right : ConditionalBranch,
    left.beq right = true ↔ left = right
  | ⟨a, b⟩, ⟨_, _⟩ => by
    simp only [ConditionalBranch.beq, ConditionalBranch.mk.injEq, Bool.and_eq_true,
      Condition.beq_iff_eq a, Expr.beq_iff_eq b]
termination_by structural left => left

/-- The walk over two calls decides equality. -/
theorem Call.beq_iff_eq : ∀ left right : Call, left.beq right = true ↔ left = right
  | ⟨_, b, c⟩, ⟨_, _, _⟩ => by
    simp only [Call.beq, Call.mk.injEq, decide_eq_true_eq, Bool.and_eq_true, and_assoc,
      Expr.beqList_iff_eq b, Window.beqOption_iff_eq c]
termination_by structural left => left

/-- The walk over two windows decides equality. -/
theorem Window.beq_iff_eq : ∀ left right : Window, left.beq right = true ↔ left = right
  | ⟨a, b, _⟩, ⟨_, _, _⟩ => by
    simp only [Window.beq, Window.mk.injEq, decide_eq_true_eq, Bool.and_eq_true, and_assoc,
      Expr.beqList_iff_eq a, SortKey.beqList_iff_eq b]
termination_by structural left => left

/-- The walk over two sort keys decides equality. -/
theorem SortKey.beq_iff_eq : ∀ left right : SortKey, left.beq right = true ↔ left = right
  | ⟨a, _, _⟩, ⟨_, _, _⟩ => by
    simp only [SortKey.beq, SortKey.mk.injEq, decide_eq_true_eq, Bool.and_eq_true, and_assoc,
      Expr.beq_iff_eq a]
termination_by structural left => left

/-- The walk over two conditions decides equality. -/
theorem Condition.beq_iff_eq : ∀ left right : Condition, left.beq right = true ↔ left = right
  | ⟨a, _⟩, ⟨_, _⟩ => by
    simp only [Condition.beq, Condition.mk.injEq, decide_eq_true_eq, Bool.and_eq_true,
      Predicate.beq_iff_eq a]
termination_by structural left => left

/-- The walk over two predicates decides equality. -/
theorem Predicate.beq_iff_eq : ∀ left right : Predicate, left.beq right = true ↔ left = right
  | .comparison a _ c, right => by
    cases right with
    | comparison => simp only [Predicate.beq, Predicate.comparison.injEq, decide_eq_true_eq,
      Bool.and_eq_true, and_assoc, Expr.beq_iff_eq a, Expr.beq_iff_eq c]
    | _ => exact iff_of_false Bool.false_ne_true nofun
  | .between a b c _, right => by
    cases right with
    | between => simp only [Predicate.beq, Predicate.between.injEq, decide_eq_true_eq,
      Bool.and_eq_true, and_assoc, Expr.beq_iff_eq a, Expr.beq_iff_eq b, Expr.beq_iff_eq c]
    | _ => exact iff_of_false Bool.false_ne_true nofun
  | .like a b _, right => by
    cases right with
    | like => simp only [Predicate.beq, Predicate.like.injEq, decide_eq_true_eq, Bool.and_eq_true,
      and_assoc, Expr.beq_iff_eq a, Expr.beq_iff_eq b]
    | _ => exact iff_of_false Bool.false_ne_true nofun
  | .isNull a _, right => by
    cases right with
    | isNull => simp only [Predicate.beq, Predicate.isNull.injEq, decide_eq_true_eq,
      Bool.and_eq_true, Expr.beq_iff_eq a]
    | _ => exact iff_of_false Bool.false_ne_true nofun
  | .isIn a b _, right => by
    cases right with
    | isIn => simp only [Predicate.beq, Predicate.isIn.injEq, decide_eq_true_eq, Bool.and_eq_true,
      and_assoc, Expr.beq_iff_eq a, Values.beq_iff_eq b]
    | _ => exact iff_of_false Bool.false_ne_true nofun
  | .existence a, right => by
    cases right with
    | existence => simp only [Predicate.beq, Predicate.existence.injEq, Query.beq_iff_eq a]
    | _ => exact iff_of_false Bool.false_ne_true nofun
  | .quantified a _ _ d, right => by
    cases right with
    | quantified => simp only [Predicate.beq, Predicate.quantified.injEq, decide_eq_true_eq,
      Bool.and_eq_true, and_assoc, Expr.beq_iff_eq a, Values.beq_iff_eq d]
    | _ => exact iff_of_false Bool.false_ne_true nofun
  | .group a, right => by
    cases right with
    | group => simp only [Predicate.beq, Predicate.group.injEq, ConditionGroup.beq_iff_eq a]
    | _ => exact iff_of_false Bool.false_ne_true nofun
  | .negation a, right => by
    cases right with
    | negation => simp only [Predicate.beq, Predicate.negation.injEq, Condition.beq_iff_eq a]
    | _ => exact iff_of_false Bool.false_ne_true nofun
termination_by structural left => left

/-- The walk over two groups of conditions decides equality. -/
theorem ConditionGroup.beq_iff_eq : ∀ left right : ConditionGroup,
    left.beq right = true ↔ left = right
  | ⟨_, b⟩, ⟨_, _⟩ => by
    simp only [ConditionGroup.beq, ConditionGroup.mk.injEq, decide_eq_true_eq, Bool.and_eq_true,
      Condition.beqList_iff_eq b]
termination_by structural left => left

/-- The walk over two values to compare with decides equality. -/
theorem Values.beq_iff_eq : ∀ left right : Values, left.beq right = true ↔ left = right
  | .list a, right => by
    cases right with
    | list => simp only [Values.beq, Values.list.injEq, Expr.beqList_iff_eq a]
    | _ => exact iff_of_false Bool.false_ne_true nofun
  | .query a, right => by
    cases right with
    | query => simp only [Values.beq, Values.query.injEq, Query.beq_iff_eq a]
    | _ => exact iff_of_false Bool.false_ne_true nofun
  | .call a, right => by
    cases right with
    | call => simp only [Values.beq, Values.call.injEq, Call.beq_iff_eq a]
    | _ => exact iff_of_false Bool.false_ne_true nofun
termination_by structural left => left

/-- The walk over two origins of rows decides equality. -/
theorem Origin.beq_iff_eq : ∀ left right : Origin, left.beq right = true ↔ left = right
  | .table _, right => by
    cases right with
    | table => simp only [Origin.beq, Origin.table.injEq, decide_eq_true_eq]
    | _ => exact iff_of_false Bool.false_ne_true nofun
  | .call a, right => by
    cases right with
    | call => simp only [Origin.beq, Origin.call.injEq, Call.beq_iff_eq a]
    | _ => exact iff_of_false Bool.false_ne_true nofun
  | .query a, right => by
    cases right with
    | query => simp only [Origin.beq, Origin.query.injEq, Query.beq_iff_eq a]
    | _ => exact iff_of_false Bool.false_ne_true nofun
termination_by structural left => left

/-- The walk over two sources decides equality. -/
theorem Source.beq_iff_eq : ∀ left right : Source, left.beq right = true ↔ left = right
  | ⟨a, _⟩, ⟨_, _⟩ => by
    simp only [Source.beq, Source.mk.injEq, decide_eq_true_eq, Bool.and_eq_true,
      Origin.beq_iff_eq a]
termination_by structural left => left

/-- The walk over two items of a `FROM` clause decides equality. -/
theorem FromItem.beq_iff_eq : ∀ left right : FromItem, left.beq right = true ↔ left = right
  | .source a, right => by
    cases right with
    | source => simp only [FromItem.beq, FromItem.source.injEq, Source.beq_iff_eq a]
    | _ => exact iff_of_false Bool.false_ne_true nofun
  | .join a, right => by
    cases right with
    | join => simp only [FromItem.beq, FromItem.join.injEq, Join.beq_iff_eq a]
    | _ => exact iff_of_false Bool.false_ne_true nofun
termination_by structural left => left

/-- The walk over two joins decides equality. -/
theorem Join.beq_iff_eq : ∀ left right : Join, left.beq right = true ↔ left = right
  | ⟨a, b, _, d, _, f⟩, ⟨_, _, _, _, _, _⟩ => by
    simp only [Join.beq, Join.mk.injEq, decide_eq_true_eq, Bool.and_eq_true, and_assoc,
      FromItem.beq_iff_eq a, Source.beq_iff_eq b, Condition.beqOption_iff_eq d,
      Scope.beq_iff_eq f]
termination_by structural left => left

/-- The walk over two scopes decides equality. -/
theorem Scope.beq_iff_eq : ∀ left right : Scope, left.beq right = true ↔ left = right
  | ⟨a⟩, ⟨_⟩ => by
    simp only [Scope.beq, Scope.mk.injEq, Source.beqList_iff_eq a]
termination_by structural left => left

/-- The walk over two queries decides equality. -/
theorem Query.beq_iff_eq : ∀ left right : Query, left.beq right = true ↔ left = right
  | .select a, right => by
    cases right with
    | select => simp only [Query.beq, Query.select.injEq, Select.beq_iff_eq a]
    | _ => exact iff_of_false Bool.false_ne_true nofun
  | .setOperation a, right => by
    cases right with
    | setOperation => simp only [Query.beq, Query.setOperation.injEq, SetOperation.beq_iff_eq a]
    | _ => exact iff_of_false Bool.false_ne_true nofun
termination_by structural left => left

/-- The walk over two set operations decides equality. -/
theorem SetOperation.beq_iff_eq : ∀ left right : SetOperation, left.beq right = true ↔ left = right
  | ⟨_, b, c, _, _⟩, ⟨_, _, _, _, _⟩ => by
    simp only [SetOperation.beq, SetOperation.mk.injEq, decide_eq_true_eq, Bool.and_eq_true,
      and_assoc, Query.beq_iff_eq b, Query.beq_iff_eq c]
termination_by structural left => left

/-- The walk over two `SELECT` statements decides equality. -/
theorem Select.beq_iff_eq : ∀ left right : Select, left.beq right = true ↔ left = right
  | ⟨_, b, c, d, e, f, g, h, i, _⟩, ⟨_, _, _, _, _, _, _, _, _, _⟩ => by
    simp only [Select.beq, Select.mk.injEq, decide_eq_true_eq, Bool.and_eq_true, and_assoc,
      Top.beqOption_iff_eq b, Projection.beqList_iff_eq c, FromItem.beqList_iff_eq d,
      Scope.beq_iff_eq e, Condition.beqList_iff_eq f, Expr.beqList_iff_eq g,
      Condition.beqList_iff_eq h, SortKey.beqList_iff_eq i]
termination_by structural left => left

/-- The walk over two projections decides equality. -/
theorem Projection.beq_iff_eq : ∀ left right : Projection, left.beq right = true ↔ left = right
  | ⟨a, _⟩, ⟨_, _⟩ => by
    simp only [Projection.beq, Projection.mk.injEq, decide_eq_true_eq, Bool.and_eq_true,
      Expr.beq_iff_eq a]
termination_by structural left => left

/-- The walk over two row limits decides equality. -/
theorem Top.beq_iff_eq : ∀ left right : Top, left.beq right = true ↔ left = right
  | ⟨a, _, _⟩, ⟨_, _, _⟩ => by
    simp only [Top.beq, Top.mk.injEq, decide_eq_true_eq, Bool.and_eq_true, and_assoc,
      Expr.beq_iff_eq a]
termination_by structural left => left

/-- The walk over two lists of branches by value decides equality. -/
theorem MatchBranch.beqList_iff_eq : ∀ left right : List MatchBranch,
    MatchBranch.beqList left right = true ↔ left = right
  | [], right => by
    cases right <;> simp only [MatchBranch.beqList, reduceCtorEq, Bool.false_eq_true]
  | a :: b, right => by
    cases right <;> simp only [MatchBranch.beqList, List.cons.injEq, Bool.and_eq_true,
      MatchBranch.beq_iff_eq a, MatchBranch.beqList_iff_eq b, reduceCtorEq, Bool.false_eq_true]
termination_by structural left => left

/-- The walk over two lists of branches by condition decides equality. -/
theorem ConditionalBranch.beqList_iff_eq : ∀ left right : List ConditionalBranch,
    ConditionalBranch.beqList left right = true ↔ left = right
  | [], right => by
    cases right <;> simp only [ConditionalBranch.beqList, reduceCtorEq, Bool.false_eq_true]
  | a :: b, right => by
    cases right <;> simp only [ConditionalBranch.beqList, List.cons.injEq, Bool.and_eq_true,
      ConditionalBranch.beq_iff_eq a, ConditionalBranch.beqList_iff_eq b, reduceCtorEq,
      Bool.false_eq_true]
termination_by structural left => left

/-- The walk over two lists of values decides equality. -/
theorem Expr.beqList_iff_eq : ∀ left right : List Expr,
    Expr.beqList left right = true ↔ left = right
  | [], right => by
    cases right <;> simp only [Expr.beqList, reduceCtorEq, Bool.false_eq_true]
  | a :: b, right => by
    cases right <;> simp only [Expr.beqList, List.cons.injEq, Bool.and_eq_true, Expr.beq_iff_eq a,
      Expr.beqList_iff_eq b, reduceCtorEq, Bool.false_eq_true]
termination_by structural left => left

/-- The walk over two lists of sort keys decides equality. -/
theorem SortKey.beqList_iff_eq : ∀ left right : List SortKey,
    SortKey.beqList left right = true ↔ left = right
  | [], right => by
    cases right <;> simp only [SortKey.beqList, reduceCtorEq, Bool.false_eq_true]
  | a :: b, right => by
    cases right <;> simp only [SortKey.beqList, List.cons.injEq, Bool.and_eq_true,
      SortKey.beq_iff_eq a, SortKey.beqList_iff_eq b, reduceCtorEq, Bool.false_eq_true]
termination_by structural left => left

/-- The walk over two lists of conditions decides equality. -/
theorem Condition.beqList_iff_eq : ∀ left right : List Condition,
    Condition.beqList left right = true ↔ left = right
  | [], right => by
    cases right <;> simp only [Condition.beqList, reduceCtorEq, Bool.false_eq_true]
  | a :: b, right => by
    cases right <;> simp only [Condition.beqList, List.cons.injEq, Bool.and_eq_true,
      Condition.beq_iff_eq a, Condition.beqList_iff_eq b, reduceCtorEq, Bool.false_eq_true]
termination_by structural left => left

/-- The walk over two lists of sources decides equality. -/
theorem Source.beqList_iff_eq : ∀ left right : List Source,
    Source.beqList left right = true ↔ left = right
  | [], right => by
    cases right <;> simp only [Source.beqList, reduceCtorEq, Bool.false_eq_true]
  | a :: b, right => by
    cases right <;> simp only [Source.beqList, List.cons.injEq, Bool.and_eq_true,
      Source.beq_iff_eq a, Source.beqList_iff_eq b, reduceCtorEq, Bool.false_eq_true]
termination_by structural left => left

/-- The walk over two lists of projections decides equality. -/
theorem Projection.beqList_iff_eq : ∀ left right : List Projection,
    Projection.beqList left right = true ↔ left = right
  | [], right => by
    cases right <;> simp only [Projection.beqList, reduceCtorEq, Bool.false_eq_true]
  | a :: b, right => by
    cases right <;> simp only [Projection.beqList, List.cons.injEq, Bool.and_eq_true,
      Projection.beq_iff_eq a, Projection.beqList_iff_eq b, reduceCtorEq, Bool.false_eq_true]
termination_by structural left => left

/-- The walk over two lists of items of a `FROM` clause decides equality. -/
theorem FromItem.beqList_iff_eq : ∀ left right : List FromItem,
    FromItem.beqList left right = true ↔ left = right
  | [], right => by
    cases right <;> simp only [FromItem.beqList, reduceCtorEq, Bool.false_eq_true]
  | a :: b, right => by
    cases right <;> simp only [FromItem.beqList, List.cons.injEq, Bool.and_eq_true,
      FromItem.beq_iff_eq a, FromItem.beqList_iff_eq b, reduceCtorEq, Bool.false_eq_true]
termination_by structural left => left

/-- The walk over two options of values decides equality. -/
theorem Expr.beqOption_iff_eq : ∀ left right : Option Expr,
    Expr.beqOption left right = true ↔ left = right
  | none, right => by
    cases right <;> simp only [Expr.beqOption, reduceCtorEq, Bool.false_eq_true]
  | some a, right => by
    cases right <;> simp only [Expr.beqOption, Option.some.injEq, Expr.beq_iff_eq a, reduceCtorEq,
      Bool.false_eq_true]
termination_by structural left => left

/-- The walk over two options of windows decides equality. -/
theorem Window.beqOption_iff_eq : ∀ left right : Option Window,
    Window.beqOption left right = true ↔ left = right
  | none, right => by
    cases right <;> simp only [Window.beqOption, reduceCtorEq, Bool.false_eq_true]
  | some a, right => by
    cases right <;> simp only [Window.beqOption, Option.some.injEq, Window.beq_iff_eq a,
      reduceCtorEq, Bool.false_eq_true]
termination_by structural left => left

/-- The walk over two options of conditions decides equality. -/
theorem Condition.beqOption_iff_eq : ∀ left right : Option Condition,
    Condition.beqOption left right = true ↔ left = right
  | none, right => by
    cases right <;> simp only [Condition.beqOption, reduceCtorEq, Bool.false_eq_true]
  | some a, right => by
    cases right <;> simp only [Condition.beqOption, Option.some.injEq, Condition.beq_iff_eq a,
      reduceCtorEq, Bool.false_eq_true]
termination_by structural left => left

/-- The walk over two options of row limits decides equality. -/
theorem Top.beqOption_iff_eq : ∀ left right : Option Top,
    Top.beqOption left right = true ↔ left = right
  | none, right => by
    cases right <;> simp only [Top.beqOption, reduceCtorEq, Bool.false_eq_true]
  | some a, right => by
    cases right <;> simp only [Top.beqOption, Option.some.injEq, Top.beq_iff_eq a, reduceCtorEq,
      Bool.false_eq_true]
termination_by structural left => left

end

instance : DecidableEq Expr := fun left right =>
  decidable_of_iff _ (Expr.beq_iff_eq left right)

instance : DecidableEq MatchCase := fun left right =>
  decidable_of_iff _ (MatchCase.beq_iff_eq left right)

instance : DecidableEq MatchBranch := fun left right =>
  decidable_of_iff _ (MatchBranch.beq_iff_eq left right)

instance : DecidableEq ConditionalCase := fun left right =>
  decidable_of_iff _ (ConditionalCase.beq_iff_eq left right)

instance : DecidableEq ConditionalBranch := fun left right =>
  decidable_of_iff _ (ConditionalBranch.beq_iff_eq left right)

instance : DecidableEq Call := fun left right =>
  decidable_of_iff _ (Call.beq_iff_eq left right)

instance : DecidableEq Window := fun left right =>
  decidable_of_iff _ (Window.beq_iff_eq left right)

instance : DecidableEq SortKey := fun left right =>
  decidable_of_iff _ (SortKey.beq_iff_eq left right)

instance : DecidableEq Condition := fun left right =>
  decidable_of_iff _ (Condition.beq_iff_eq left right)

instance : DecidableEq Predicate := fun left right =>
  decidable_of_iff _ (Predicate.beq_iff_eq left right)

instance : DecidableEq ConditionGroup := fun left right =>
  decidable_of_iff _ (ConditionGroup.beq_iff_eq left right)

instance : DecidableEq Values := fun left right =>
  decidable_of_iff _ (Values.beq_iff_eq left right)

instance : DecidableEq Origin := fun left right =>
  decidable_of_iff _ (Origin.beq_iff_eq left right)

instance : DecidableEq Source := fun left right =>
  decidable_of_iff _ (Source.beq_iff_eq left right)

instance : DecidableEq FromItem := fun left right =>
  decidable_of_iff _ (FromItem.beq_iff_eq left right)

instance : DecidableEq Join := fun left right =>
  decidable_of_iff _ (Join.beq_iff_eq left right)

instance : DecidableEq Scope := fun left right =>
  decidable_of_iff _ (Scope.beq_iff_eq left right)

instance : DecidableEq Query := fun left right =>
  decidable_of_iff _ (Query.beq_iff_eq left right)

instance : DecidableEq SetOperation := fun left right =>
  decidable_of_iff _ (SetOperation.beq_iff_eq left right)

instance : DecidableEq Select := fun left right =>
  decidable_of_iff _ (Select.beq_iff_eq left right)

instance : DecidableEq Projection := fun left right =>
  decidable_of_iff _ (Projection.beq_iff_eq left right)

instance : DecidableEq Top := fun left right =>
  decidable_of_iff _ (Top.beq_iff_eq left right)

end SqlTree
