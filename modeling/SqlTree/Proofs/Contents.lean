import SqlTree.Statement

/-!
# The contents of a statement

The names and values that a statement has been given, at every depth and in the order in
which they are written: the values of its strings, its numbers, the markers of its
parameters, and the names of its columns, tables, functions and aliases. All else in the
text of a statement is its own.

The contents are read off the tree. A column that hides its source does not write the
name of it, so they depend on whether columns show their source, and on nothing else that
a dialect decides.
-/

namespace SqlTree

/-- A name or a value that a statement has been given. -/
inductive Content where
  | string (value : String)
  | number (numeral : Numeral)
  | parameter (placeholder : Placeholder)
  | name (identifier : Identifier)

/-- The text of a segment that is quoted. -/
def Segment.quoted? : Segment → Option String
  | plain _ => none
  | quoted text => some text

/-- The texts of the quoted segments of a name. -/
def Identifier.quotedTexts (identifier : Identifier) : List String :=
  identifier.segments.filterMap Segment.quoted?

/-- The value of a content that is a string. -/
def Content.string? : Content → Option String
  | string value => some value
  | _ => none

/-- The texts of the quoted segments of a content, if it is a name. -/
def Content.quotedTexts : Content → List String
  | name identifier => identifier.quotedTexts
  | _ => []

/-- The contents of an optional name. -/
def Content.ofName? (name : Option Identifier) : List Content :=
  name.toList.map .name

/-- The contents of a column: the name of its source if it is shown, and its own name. -/
def Column.contents (shown : Bool) (column : Column) : List Content :=
  Content.ofName? (if column.override.getD shown then column.qualifier else none) ++
    [.name column.name]

/-- The contents of an edge of a frame. -/
def FrameBound.contents : FrameBound → List Content
  | preceding count | following count => [.number (.ofNat count)]
  | currentRow | unboundedPreceding | unboundedFollowing => []

/-- The contents of the edges of a frame. -/
def FrameExtent.contents : FrameExtent → List Content
  | between first last => first.contents ++ last.contents
  | startingAt first => first.contents

/-- The contents of an optional frame. -/
def Frame.contentsOption : Option Frame → List Content
  | none => []
  | some frame => frame.extent.contents

mutual

/-- The contents of a value. -/
def Expr.contents (shown : Bool) : Expr → List Content
  | .number numeral => [.number numeral]
  | .text value => [.string value]
  | .null => []
  | .placeholder parameter => [.parameter parameter]
  | .column reference => reference.contents shown
  | .allColumns qualifier => Content.ofName? qualifier
  | .call invocation => invocation.contents shown
  | .arithmetic _ left right => left.contents shown ++ right.contents shown
  | .negation operand => operand.contents shown
  | .matchCase ⟨subject, branches, otherwise⟩ =>
    subject.contents shown ++ MatchBranch.contentsEach shown branches ++
      Expr.contentsOption shown otherwise
  | .conditionalCase ⟨branches, otherwise⟩ =>
    ConditionalBranch.contentsEach shown branches ++ Expr.contentsOption shown otherwise
  | .subquery body => body.contents

/-- The contents of several values. -/
def Expr.contentsEach (shown : Bool) : List Expr → List Content
  | [] => []
  | expr :: rest => expr.contents shown ++ Expr.contentsEach shown rest

/-- The contents of an optional value. -/
def Expr.contentsOption (shown : Bool) : Option Expr → List Content
  | none => []
  | some expr => expr.contents shown

/-- The contents of the branches of a choice by value. -/
def MatchBranch.contentsEach (shown : Bool) : List MatchBranch → List Content
  | [] => []
  | ⟨value, result⟩ :: rest =>
    value.contents shown ++ result.contents shown ++ MatchBranch.contentsEach shown rest

/-- The contents of the branches of a choice by condition. -/
def ConditionalBranch.contentsEach (shown : Bool) : List ConditionalBranch → List Content
  | [] => []
  | ⟨condition, result⟩ :: rest =>
    condition.contents shown ++ result.contents shown ++
      ConditionalBranch.contentsEach shown rest

/-- The contents of a call. -/
def Call.contents (shown : Bool) : Call → List Content
  | ⟨name, arguments, window⟩ =>
    .name name :: Expr.contentsEach shown arguments ++ Window.contentsOption shown window

/-- The contents of an optional window. -/
def Window.contentsOption (shown : Bool) : Option Window → List Content
  | none => []
  | some window => window.contents shown

/-- The contents of a window. -/
def Window.contents (shown : Bool) : Window → List Content
  | ⟨partitions, sortKeys, frame⟩ =>
    Expr.contentsEach shown partitions ++ SortKey.contentsEach shown sortKeys ++
      Frame.contentsOption frame

/-- The contents of several sort keys. -/
def SortKey.contentsEach (shown : Bool) : List SortKey → List Content
  | [] => []
  | ⟨expr, _, _⟩ :: rest => expr.contents shown ++ SortKey.contentsEach shown rest

/-- The contents of a condition. -/
def Condition.contents (shown : Bool) : Condition → List Content
  | ⟨predicate, _⟩ => predicate.contents shown

/-- The contents of several conditions. -/
def Condition.contentsEach (shown : Bool) : List Condition → List Content
  | [] => []
  | condition :: rest => condition.contents shown ++ Condition.contentsEach shown rest

/-- The contents of an optional condition. -/
def Condition.contentsOption (shown : Bool) : Option Condition → List Content
  | none => []
  | some condition => condition.contents shown

/-- The contents of a predicate. -/
def Predicate.contents (shown : Bool) : Predicate → List Content
  | .comparison left _ right => left.contents shown ++ right.contents shown
  | .between subject low high _ =>
    subject.contents shown ++ low.contents shown ++ high.contents shown
  | .like subject pattern _ => subject.contents shown ++ pattern.contents shown
  | .isNull subject _ => subject.contents shown
  | .isIn subject values _ => subject.contents shown ++ values.contents shown
  | .existence query => query.contents
  | .quantified subject _ _ values => subject.contents shown ++ values.contents shown
  | .group ⟨_, conditions⟩ => Condition.contentsEach shown conditions
  | .negation condition => condition.contents shown

/-- The contents of values to compare with. -/
def Values.contents (shown : Bool) : Values → List Content
  | .list values => Expr.contentsEach shown values
  | .query body => body.contents
  | .call invocation => invocation.contents shown

/-- The contents of a source. -/
def Source.contents (shown : Bool) : Source → List Content
  | ⟨origin, aliasName⟩ => origin.contents shown ++ Content.ofName? aliasName

/-- The contents of an origin of rows. -/
def Origin.contents (shown : Bool) : Origin → List Content
  | .table name => [.name name]
  | .call invocation => invocation.contents shown
  | .query body => body.contents

/-- The contents of an item of a `FROM` clause. -/
def FromItem.contents (shown : Bool) : FromItem → List Content
  | .source single => single.contents shown
  | .join body => body.contents shown

/-- The contents of several items of a `FROM` clause. -/
def FromItem.contentsEach (shown : Bool) : List FromItem → List Content
  | [] => []
  | item :: rest => item.contents shown ++ FromItem.contentsEach shown rest

/-- The contents of a join. -/
def Join.contents (shown : Bool) : Join → List Content
  | ⟨left, right, _, on, _, _⟩ =>
    left.contents shown ++ right.contents shown ++ Condition.contentsOption shown on

/-- The contents of a query. -/
def Query.contents : Query → List Content
  | .select body => body.contents
  | .setOperation ⟨_, left, right, _, _⟩ => left.contents ++ right.contents

/-- The contents of a `SELECT`. Columns show their source in it, whatever they do around
it. -/
def Select.contents : Select → List Content
  | ⟨_, top, projections, items, _, conditions, groupKeys, groupConditions, sortKeys, _⟩ =>
    Top.contentsOption true top ++ Projection.contentsEach true projections ++
      FromItem.contentsEach true items ++ Condition.contentsEach true conditions ++
      Expr.contentsEach true groupKeys ++ Condition.contentsEach true groupConditions ++
      SortKey.contentsEach true sortKeys

/-- The contents of the entries of the list of a `SELECT`. -/
def Projection.contentsEach (shown : Bool) : List Projection → List Content
  | [] => []
  | ⟨expr, aliasName⟩ :: rest =>
    expr.contents shown ++ Content.ofName? aliasName ++ Projection.contentsEach shown rest

/-- The contents of an optional limit on the number of rows. -/
def Top.contentsOption (shown : Bool) : Option Top → List Content
  | none => []
  | some ⟨count, _, _⟩ => count.contents shown

end

/-- The contents of the rows of an `INSERT`. -/
def InsertRows.contents (shown : Bool) : InsertRows → List Content
  | .list values => Expr.contentsEach shown values
  | .query body => body.contents

/-- The contents of an `INSERT`. -/
def Insert.contents (shown : Bool) (insert : Insert) : List Content :=
  insert.target.source.contents shown ++ insert.columns.flatMap (Column.contents shown) ++
    insert.rows.contents shown

/-- The contents of the setting of a column. -/
def Setter.contents (shown : Bool) (setter : Setter) : List Content :=
  setter.column.contents shown ++ setter.value.contents shown

/-- The contents of an `UPDATE`. -/
def Update.contents (shown : Bool) (update : Update) : List Content :=
  update.target.source.contents shown ++ update.setters.flatMap (Setter.contents shown) ++
    Condition.contentsEach shown update.conditions

/-- The contents of a `DELETE`. -/
def Delete.contents (shown : Bool) (delete : Delete) : List Content :=
  delete.target.source.contents shown ++ Condition.contentsEach shown delete.conditions

/-- The contents of a statement in a dialect. -/
def Statement.contents (dialect : Dialect) : Statement → List Content
  | .query body => body.contents
  | .insert body => body.contents dialect.qualifyInsertColumns
  | .update body => body.contents dialect.qualifyUpdateColumns
  | .delete body => body.contents dialect.qualifyDeleteColumns

end SqlTree
