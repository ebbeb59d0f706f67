/-!
# Collections of parts

The lists that a statement is built from grow at their end and shrink by
value: the element that was added first goes first.
-/

namespace SqlTree

/-- Adds an element at the end. -/
def addLast {α : Type} (elements : List α) (element : α) : List α :=
  elements ++ [element]

/-- Takes out the first element that the test accepts. Tells whether there was
one, and what is left. -/
def removeFirst {α : Type} (test : α → Bool) (elements : List α) : Bool × List α :=
  (elements.any test, elements.eraseP test)

/-- Takes out the first element that equals the given one. -/
def removeValue {α : Type} [DecidableEq α] (elements : List α) (element : α) : Bool × List α :=
  removeFirst (· == element) elements

end SqlTree
