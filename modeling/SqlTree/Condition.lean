import SqlTree.Collection
import SqlTree.Tree.Equality

/-!
# Conditions

Building conditions: predicates with the parentheses that the caller asks for,
and groups of conditions under one connective. Parentheses are never added on
their own account.
-/

namespace SqlTree

namespace Condition

/-- A predicate without parentheses. -/
def ofPredicate (predicate : Predicate) : Condition :=
  ⟨predicate, false⟩

/-- The condition with or without parentheses. -/
def setWrapped (condition : Condition) (wrapped : Bool) : Condition :=
  { condition with wrapped := wrapped }

end Condition

namespace ConditionGroup

/-- A group without conditions. -/
def ofConnective (connective : Connective) : ConditionGroup :=
  ⟨connective, []⟩

/-- Adds a condition. -/
def addCondition (group : ConditionGroup) (condition : Condition) : ConditionGroup :=
  { group with conditions := addLast group.conditions condition }

/-- Takes back the first condition that equals the given one. -/
def removeCondition (group : ConditionGroup) (condition : Condition) : Bool × ConditionGroup :=
  let (found, conditions) := removeValue group.conditions condition
  (found, { group with conditions := conditions })

/-- The group as a condition without parentheses. -/
def toCondition (group : ConditionGroup) : Condition :=
  .ofPredicate (.group group)

end ConditionGroup

end SqlTree
