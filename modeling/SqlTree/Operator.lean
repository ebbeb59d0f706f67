import SqlTree.Token.Keyword

/-!
# Operators and modifiers

The closed choices that a statement makes: its operators, quantifiers, sort
orders and kinds of joins, each with its spelling.
-/

namespace SqlTree

/-- An arithmetic operator. -/
inductive ArithmeticOperator where
  | add
  | subtract
  | multiply
  | divide
  | modulus
deriving DecidableEq

/-- The spelling of an arithmetic operator. -/
def ArithmeticOperator.text : ArithmeticOperator → String
  | add => "+"
  | subtract => "-"
  | multiply => "*"
  | divide => "/"
  | modulus => "%"

/-- An operator that compares two values. -/
inductive ComparisonOperator where
  | equal
  | notEqual
  | less
  | lessOrEqual
  | greater
  | greaterOrEqual
deriving DecidableEq

/-- The spelling of a comparison. -/
def ComparisonOperator.text : ComparisonOperator → String
  | equal => "="
  | notEqual => "<>"
  | less => "<"
  | lessOrEqual => "<="
  | greater => ">"
  | greaterOrEqual => ">="

/-- How many of the values on its right a comparison has to hold for. -/
inductive Quantifier where
  | all
  | any
  | some
deriving DecidableEq

/-- The keyword of a quantifier. -/
def Quantifier.keyword : Quantifier → Keyword
  | all => .all
  | any => .any
  | some => .some

/-- How the conditions of a group are connected. -/
inductive Connective where
  | and
  | or
deriving DecidableEq

/-- The keyword of a connective. -/
def Connective.keyword : Connective → Keyword
  | and => .and
  | or => .or

/-- Whether a query keeps the duplicates among its rows. -/
inductive SetQuantifier where
  | all
  | distinct
deriving DecidableEq

/-- The keyword of a set quantifier. -/
def SetQuantifier.keyword : SetQuantifier → Keyword
  | all => .all
  | distinct => .distinct

/-- An operator that combines the rows of two queries. -/
inductive SetOperator where
  | union
  | intersect
  | except
  | minus
deriving DecidableEq

/-- The keyword of a set operator. -/
def SetOperator.keyword : SetOperator → Keyword
  | union => .union
  | intersect => .intersect
  | except => .except
  | minus => .minus

/-- The direction of a sort. -/
inductive Direction where
  | ascending
  | descending
deriving DecidableEq

/-- The keyword of a direction. -/
def Direction.keyword : Direction → Keyword
  | ascending => .asc
  | descending => .desc

/-- Where a sort puts nulls. -/
inductive NullPlacement where
  | first
  | last
deriving DecidableEq

/-- The keyword of a placement of nulls. -/
def NullPlacement.keyword : NullPlacement → Keyword
  | first => .first
  | last => .last

/-- The kind of a join. -/
inductive JoinKind where
  | inner
  | leftOuter
  | rightOuter
  | fullOuter
  | cross
deriving DecidableEq

/-- What the frame of a window counts in. -/
inductive FrameUnit where
  | rows
  | range
deriving DecidableEq

/-- The keyword of a frame unit. -/
def FrameUnit.keyword : FrameUnit → Keyword
  | rows => .rows
  | range => .range

/-- One edge of the frame of a window. -/
inductive FrameBound where
  | currentRow
  | preceding (count : Nat)
  | following (count : Nat)
  | unboundedPreceding
  | unboundedFollowing
deriving DecidableEq

/-- The edges of the frame of a window. -/
inductive FrameExtent where
  | between (first last : FrameBound)
  | startingAt (first : FrameBound)
deriving DecidableEq

/-- The rows around the current one that a window function sees. -/
structure Frame where
  unit : FrameUnit
  extent : FrameExtent
deriving DecidableEq

end SqlTree
