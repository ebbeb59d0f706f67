import SqlTree.Statement

/-!
# The places of queries

Where a statement holds queries, at every depth: a query that is the statement itself, an
operand of a set operation, and the queries between parentheses, whose places put these
around them. A place knows the tree that holds it with any other query in its stead.

As with its other parts, a statement has the places that it writes. The sources that a
scope knows are not written by it.
-/

namespace SqlTree

/-- A place of a query in a tree. -/
structure Place (Tree : Type) where
  /-- The query that is there. -/
  query : Query
  /-- The tree with another query there. -/
  put : Query → Tree
  /-- Whether the place puts parentheses around every query. -/
  encloses : Bool

namespace Place

variable {Tree Whole : Type}

/-- The places of a part, as places of the whole that it is put into. -/
def within (put : Tree → Whole) (places : List (Place Tree)) : List (Place Whole) :=
  places.map fun place => ⟨place.query, fun query => put (place.put query), place.encloses⟩

/-- The place of a query between parentheses, and the places in it. -/
def enclosed (put : Query → Tree) (query : Query) (places : List (Place Query)) :
    List (Place Tree) :=
  ⟨query, put, true⟩ :: within put places

/-- The place of a query that gets the parentheses it asks for, and the places in it. -/
def asked (put : Query → Tree) (query : Query) (places : List (Place Query)) :
    List (Place Tree) :=
  ⟨query, put, false⟩ :: within put places

end Place

open Place

mutual

/-- The places in a value. -/
def Expr.places : Expr → List (Place Expr)
  | .number _ | .text _ | .null | .placeholder _ | .column _ | .allColumns _ => []
  | .call invocation => within .call invocation.places
  | .arithmetic operator left right =>
    within (fun left => .arithmetic operator left right) left.places ++
      within (fun right => .arithmetic operator left right) right.places
  | .negation operand => within .negation operand.places
  | .matchCase ⟨subject, branches, otherwise⟩ =>
    within (fun subject => .matchCase ⟨subject, branches, otherwise⟩) subject.places ++
      within (fun branches => .matchCase ⟨subject, branches, otherwise⟩)
        (MatchBranch.placesEach branches) ++
      within (fun otherwise => .matchCase ⟨subject, branches, otherwise⟩)
        (Expr.placesOption otherwise)
  | .conditionalCase ⟨branches, otherwise⟩ =>
    within (fun branches => .conditionalCase ⟨branches, otherwise⟩)
        (ConditionalBranch.placesEach branches) ++
      within (fun otherwise => .conditionalCase ⟨branches, otherwise⟩)
        (Expr.placesOption otherwise)
  | .subquery body => enclosed .subquery body body.places

/-- The places in several values. -/
def Expr.placesEach : List Expr → List (Place (List Expr))
  | [] => []
  | expr :: rest => within (· :: rest) expr.places ++ within (expr :: ·) (Expr.placesEach rest)

/-- The places in an optional value. -/
def Expr.placesOption : Option Expr → List (Place (Option Expr))
  | none => []
  | some expr => within some expr.places

/-- The places in a branch of a choice by value. -/
def MatchBranch.places : MatchBranch → List (Place MatchBranch)
  | ⟨value, result⟩ => within (⟨·, result⟩) value.places ++ within (⟨value, ·⟩) result.places

/-- The places in the branches of a choice by value. -/
def MatchBranch.placesEach : List MatchBranch → List (Place (List MatchBranch))
  | [] => []
  | branch :: rest =>
    within (· :: rest) branch.places ++ within (branch :: ·) (MatchBranch.placesEach rest)

/-- The places in a branch of a choice by condition. -/
def ConditionalBranch.places : ConditionalBranch → List (Place ConditionalBranch)
  | ⟨condition, result⟩ =>
    within (⟨·, result⟩) condition.places ++ within (⟨condition, ·⟩) result.places

/-- The places in the branches of a choice by condition. -/
def ConditionalBranch.placesEach : List ConditionalBranch → List (Place (List ConditionalBranch))
  | [] => []
  | branch :: rest =>
    within (· :: rest) branch.places ++ within (branch :: ·) (ConditionalBranch.placesEach rest)

/-- The places in a call. -/
def Call.places : Call → List (Place Call)
  | ⟨name, arguments, window⟩ =>
    within (⟨name, ·, window⟩) (Expr.placesEach arguments) ++
      within (⟨name, arguments, ·⟩) (Window.placesOption window)

/-- The places in an optional window. -/
def Window.placesOption : Option Window → List (Place (Option Window))
  | none => []
  | some window => within some window.places

/-- The places in a window. -/
def Window.places : Window → List (Place Window)
  | ⟨partitions, sortKeys, frame⟩ =>
    within (⟨·, sortKeys, frame⟩) (Expr.placesEach partitions) ++
      within (⟨partitions, ·, frame⟩) (SortKey.placesEach sortKeys)

/-- The places in a sort key. -/
def SortKey.places : SortKey → List (Place SortKey)
  | ⟨expr, direction, nulls⟩ => within (⟨·, direction, nulls⟩) expr.places

/-- The places in several sort keys. -/
def SortKey.placesEach : List SortKey → List (Place (List SortKey))
  | [] => []
  | key :: rest => within (· :: rest) key.places ++ within (key :: ·) (SortKey.placesEach rest)

/-- The places in a condition. -/
def Condition.places : Condition → List (Place Condition)
  | ⟨predicate, wrapped⟩ => within (⟨·, wrapped⟩) predicate.places

/-- The places in several conditions. -/
def Condition.placesEach : List Condition → List (Place (List Condition))
  | [] => []
  | condition :: rest =>
    within (· :: rest) condition.places ++ within (condition :: ·) (Condition.placesEach rest)

/-- The places in an optional condition. -/
def Condition.placesOption : Option Condition → List (Place (Option Condition))
  | none => []
  | some condition => within some condition.places

/-- The places in a predicate. -/
def Predicate.places : Predicate → List (Place Predicate)
  | .comparison left operator right =>
    within (.comparison · operator right) left.places ++
      within (.comparison left operator ·) right.places
  | .between subject low high negated =>
    within (.between · low high negated) subject.places ++
      within (.between subject · high negated) low.places ++
      within (.between subject low · negated) high.places
  | .like subject pattern negated =>
    within (.like · pattern negated) subject.places ++
      within (.like subject · negated) pattern.places
  | .isNull subject negated => within (.isNull · negated) subject.places
  | .isIn subject values negated =>
    within (.isIn · values negated) subject.places ++ within (.isIn subject · negated) values.places
  | .existence query => enclosed .existence query query.places
  | .quantified subject operator quantifier values =>
    within (.quantified · operator quantifier values) subject.places ++
      within (.quantified subject operator quantifier ·) values.places
  | .group ⟨connective, conditions⟩ =>
    within (fun conditions => .group ⟨connective, conditions⟩) (Condition.placesEach conditions)
  | .negation condition => within .negation condition.places

/-- The places in values to compare with. -/
def Values.places : Values → List (Place Values)
  | .list values => within .list (Expr.placesEach values)
  | .query body => enclosed .query body body.places
  | .call invocation => within .call invocation.places

/-- The places in a source. -/
def Source.places : Source → List (Place Source)
  | ⟨origin, aliasName⟩ => within (⟨·, aliasName⟩) origin.places

/-- The places in an origin of rows. -/
def Origin.places : Origin → List (Place Origin)
  | .table _ => []
  | .call invocation => within .call invocation.places
  | .query body => enclosed .query body body.places

/-- The places in an item of a `FROM` clause. -/
def FromItem.places : FromItem → List (Place FromItem)
  | .source single => within .source single.places
  | .join body => within .join body.places

/-- The places in several items of a `FROM` clause. -/
def FromItem.placesEach : List FromItem → List (Place (List FromItem))
  | [] => []
  | item :: rest => within (· :: rest) item.places ++ within (item :: ·) (FromItem.placesEach rest)

/-- The places in a join. -/
def Join.places : Join → List (Place Join)
  | ⟨left, right, kind, on, wrapped, scope⟩ =>
    within (⟨·, right, kind, on, wrapped, scope⟩) left.places ++
      within (⟨left, ·, kind, on, wrapped, scope⟩) right.places ++
      within (⟨left, right, kind, ·, wrapped, scope⟩) (Condition.placesOption on)

/-- The places in a query. -/
def Query.places : Query → List (Place Query)
  | .select body => within .select body.places
  | .setOperation ⟨operator, left, right, quantifier, wrapped⟩ =>
    asked (fun left => .setOperation ⟨operator, left, right, quantifier, wrapped⟩) left
        left.places ++
      asked (fun right => .setOperation ⟨operator, left, right, quantifier, wrapped⟩) right
        right.places

/-- The places in a `SELECT`. -/
def Select.places : Select → List (Place Select)
  | ⟨quantifier, top, projections, items, scope, conditions, groupKeys, groupConditions, sortKeys,
      wrapped⟩ =>
    within (⟨quantifier, ·, projections, items, scope, conditions, groupKeys, groupConditions,
        sortKeys, wrapped⟩) (Top.placesOption top) ++
      within (⟨quantifier, top, ·, items, scope, conditions, groupKeys, groupConditions,
        sortKeys, wrapped⟩) (Projection.placesEach projections) ++
      within (⟨quantifier, top, projections, ·, scope, conditions, groupKeys, groupConditions,
        sortKeys, wrapped⟩) (FromItem.placesEach items) ++
      within (⟨quantifier, top, projections, items, scope, ·, groupKeys, groupConditions,
        sortKeys, wrapped⟩) (Condition.placesEach conditions) ++
      within (⟨quantifier, top, projections, items, scope, conditions, ·, groupConditions,
        sortKeys, wrapped⟩) (Expr.placesEach groupKeys) ++
      within (⟨quantifier, top, projections, items, scope, conditions, groupKeys, ·,
        sortKeys, wrapped⟩) (Condition.placesEach groupConditions) ++
      within (⟨quantifier, top, projections, items, scope, conditions, groupKeys, groupConditions,
        ·, wrapped⟩) (SortKey.placesEach sortKeys)

/-- The places in an entry of the list of a `SELECT`. -/
def Projection.places : Projection → List (Place Projection)
  | ⟨expr, aliasName⟩ => within (⟨·, aliasName⟩) expr.places

/-- The places in the entries of the list of a `SELECT`. -/
def Projection.placesEach : List Projection → List (Place (List Projection))
  | [] => []
  | projection :: rest =>
    within (· :: rest) projection.places ++ within (projection :: ·) (Projection.placesEach rest)

/-- The places in an optional limit on the number of rows. -/
def Top.placesOption : Option Top → List (Place (Option Top))
  | none => []
  | some ⟨count, percent, withTies⟩ => within (some ⟨·, percent, withTies⟩) count.places

end

/-- The places in the rows of an `INSERT`. -/
def InsertRows.places : InsertRows → List (Place InsertRows)
  | .list values => within .list (Expr.placesEach values)
  | .query body => enclosed .query body body.places

/-- The places in the setting of a column. -/
def Setter.places (setter : Setter) : List (Place Setter) :=
  within (⟨setter.column, ·⟩) setter.value.places

/-- The places in the settings of several columns. -/
def Setter.placesEach : List Setter → List (Place (List Setter))
  | [] => []
  | setter :: rest =>
    within (· :: rest) setter.places ++ within (setter :: ·) (Setter.placesEach rest)

/-- The places in a statement. A query is the statement itself at one of them. -/
def Statement.places : Statement → List (Place Statement)
  | .query body => asked .query body body.places
  | .insert body => within (fun rows => .insert { body with rows := rows }) body.rows.places
  | .update body =>
    within (fun setters => .update { body with setters := setters })
        (Setter.placesEach body.setters) ++
      within (fun conditions => .update { body with conditions := conditions })
        (Condition.placesEach body.conditions)
  | .delete body =>
    within (fun conditions => .delete { body with conditions := conditions })
      (Condition.placesEach body.conditions)

end SqlTree
