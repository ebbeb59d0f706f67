import SqlTree.Collection
import SqlTree.Tree.Equality

/-!
# Choices

Building the two forms of `CASE`: a choice by the value of a subject, and a
choice by the first condition that holds.
-/

namespace SqlTree

namespace MatchCase

/-- A choice by the value of a subject, without branches. -/
def ofSubject (subject : Expr) : MatchCase :=
  ⟨subject, [], none⟩

/-- Adds the result for a value. -/
def addBranch (choice : MatchCase) (value result : Expr) : MatchCase :=
  { choice with branches := addLast choice.branches ⟨value, result⟩ }

/-- Takes back the first branch with this value and this result. -/
def removeBranch (choice : MatchCase) (value result : Expr) : Bool × MatchCase :=
  let (found, branches) := removeValue choice.branches ⟨value, result⟩
  (found, { choice with branches := branches })

/-- Sets or clears the result for all other values. -/
def setOtherwise (choice : MatchCase) (otherwise : Option Expr) : MatchCase :=
  { choice with otherwise := otherwise }

end MatchCase

namespace ConditionalCase

/-- A choice without branches. -/
def empty : ConditionalCase :=
  ⟨[], none⟩

/-- Adds the result for a condition. -/
def addBranch (choice : ConditionalCase) (condition : Condition) (result : Expr) :
    ConditionalCase :=
  { choice with branches := addLast choice.branches ⟨condition, result⟩ }

/-- Takes back the first branch with this condition and this result. -/
def removeBranch (choice : ConditionalCase) (condition : Condition) (result : Expr) :
    Bool × ConditionalCase :=
  let (found, branches) := removeValue choice.branches ⟨condition, result⟩
  (found, { choice with branches := branches })

/-- Sets or clears the result for the rows that no condition holds for. -/
def setOtherwise (choice : ConditionalCase) (otherwise : Option Expr) : ConditionalCase :=
  { choice with otherwise := otherwise }

end ConditionalCase

end SqlTree
