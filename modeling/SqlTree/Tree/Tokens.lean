import SqlTree.Dialect
import SqlTree.Token
import SqlTree.Tree

/-!
# The tokens of a tree

Every part of a query is rendered as a sequence of tokens, and the tokens of a
whole are put together from the tokens of its parts. Rendering a list or an
option renders its elements (`tokensEach_eq_map` and its kin), so the clauses
below are stated on the parts alone.

Rendering follows a `Context`: the dialect, and whether columns show their
source at this place. A `SELECT` shows it throughout; a statement that changes
rows decides by its switch, and the queries inside it are not affected.
Conditions that hold nothing leave nothing behind: neither their connective,
nor their parentheses, nor the keyword of their clause.
-/

namespace SqlTree

/-- What rendering a part depends on besides the part. -/
structure Context where
  dialect : Dialect
  /-- Whether columns show their source unless they decide it themselves. -/
  qualify : Bool

/-- The context in which columns show their source or not. -/
def Context.qualified (context : Context) (qualify : Bool) : Context :=
  { context with qualify := qualify }

/-- The name of a source and the dot that binds a column to it. -/
def qualifierTokens : Option Identifier → List Token
  | none => []
  | some qualifier => [.identifier qualifier.sql, .dot]

/-- The tokens of a column. -/
def Column.tokens (context : Context) (column : Column) : List Token :=
  qualifierTokens (if column.override.getD context.qualify then column.qualifier else none) ++
    [.identifier column.name.sql]

/-- The tokens of an alias, after `AS` if the dialect wants it. -/
def aliasTokens (usingAs : Bool) : Option Identifier → List Token
  | none => []
  | some aliasName => keywordIf usingAs .as ++ [.identifier aliasName.sql]

/-- Whether a text starts with a minus sign. -/
def startsWithMinus (text : String) : Bool :=
  text.toList.head? = some '-'

/-- The minus sign before an operand. An operand that starts with a minus sign
itself goes between parentheses, for two of them in a row open a comment. -/
def negatedTokens (operand : List Token) : List Token :=
  .minus :: parenthesizedIf (operand.head?.any fun token => startsWithMinus token.text) operand

/-- The tokens of an optional part after a keyword. -/
def optionTokens (word : Keyword) : Option (List Token) → List Token
  | none => []
  | some tokens => .keyword word :: tokens

/-- A clause that lists parts after its words; no clause for no parts. -/
def listClause (words : List Keyword) (parts : List (List Token)) : List Token :=
  if parts = [] then [] else words.map Token.keyword ++ commaSeparated parts

/-- The tokens of a choice: its subject if it has one, its branches, and the
result that is left. -/
def caseTokens (subject : List Token) (branches : List (List Token))
    (otherwise : Option (List Token)) : List Token :=
  .keyword .case :: subject ++ branches.flatten ++ optionTokens .else otherwise ++ [.keyword .end]

/-- The tokens of a branch of a choice. -/
def branchTokens (condition result : List Token) : List Token :=
  .keyword .when :: condition ++ .keyword .then :: result

/-- The tokens of one edge of a frame. -/
def FrameBound.tokens : FrameBound → List Token
  | currentRow => [.keyword .current, .keyword .row]
  | preceding count => [.literal (Numeral.ofNat count).text, .keyword .preceding]
  | following count => [.literal (Numeral.ofNat count).text, .keyword .following]
  | unboundedPreceding => [.keyword .unbounded, .keyword .preceding]
  | unboundedFollowing => [.keyword .unbounded, .keyword .following]

/-- The tokens of the edges of a frame. -/
def FrameExtent.tokens : FrameExtent → List Token
  | between first last => .keyword .between :: first.tokens ++ .keyword .and :: last.tokens
  | startingAt first => first.tokens

/-- The tokens of the frame of a window, if there is one. -/
def frameTokens : Option Frame → List Token
  | none => []
  | some frame => .keyword frame.unit.keyword :: frame.extent.tokens

/-- The keywords after a sort key. -/
def sortTokens (direction : Option Direction) (nulls : Option NullPlacement) : List Token :=
  (direction.map fun direction => Token.keyword direction.keyword).toList ++
    match nulls with
    | none => []
    | some placement => [.keyword .nulls, .keyword placement.keyword]

/-- The keyword of an optional set quantifier. -/
def setQuantifierTokens (quantifier : Option SetQuantifier) : List Token :=
  (quantifier.map fun quantifier => Token.keyword quantifier.keyword).toList

/-- The keywords of a join. -/
def JoinKind.tokens (dialect : Dialect) : JoinKind → List Token
  | inner => keywordIf dialect.verboseInnerJoin .inner ++ [.keyword .join]
  | leftOuter => .keyword .left :: keywordIf dialect.verboseOuterJoin .outer ++ [.keyword .join]
  | rightOuter => .keyword .right :: keywordIf dialect.verboseOuterJoin .outer ++ [.keyword .join]
  | fullOuter => .keyword .full :: keywordIf dialect.verboseOuterJoin .outer ++ [.keyword .join]
  | cross => [.keyword .cross, .keyword .join]

/-- Whether a query asks for parentheses where it is a statement or an
operand. -/
def Query.wrapped : Query → Bool
  | .select body => body.wrapped
  | .setOperation body => body.wrapped

mutual

/-- The tokens of a value. -/
def Expr.tokens (context : Context) : Expr → List Token
  | .number numeral => [.literal numeral.text]
  | .text value => [.literal (Text.enclose '\'' value)]
  | .null => [.keyword .null]
  | .placeholder parameter => [.literal parameter.marker]
  | .column reference => reference.tokens context
  | .allColumns qualifier => qualifierTokens qualifier ++ [.identifier "*"]
  | .call invocation => invocation.tokens context
  | .arithmetic operator left right =>
    parenthesized (left.tokens context ++ .operator operator.text :: right.tokens context)
  | .negation operand => negatedTokens (operand.tokens context)
  | .matchCase ⟨subject, branches, otherwise⟩ =>
    caseTokens (subject.tokens context) (MatchBranch.tokensEach context branches)
      (Expr.tokensOption context otherwise)
  | .conditionalCase ⟨branches, otherwise⟩ =>
    caseTokens [] (ConditionalBranch.tokensEach context branches)
      (Expr.tokensOption context otherwise)
  | .subquery body => parenthesized (body.tokens context)

/-- The tokens of each of some values. -/
def Expr.tokensEach (context : Context) : List Expr → List (List Token)
  | [] => []
  | expr :: rest => expr.tokens context :: Expr.tokensEach context rest

/-- The tokens of an optional value. -/
def Expr.tokensOption (context : Context) : Option Expr → Option (List Token)
  | none => none
  | some expr => some (expr.tokens context)

/-- The tokens of each branch of a choice by value. -/
def MatchBranch.tokensEach (context : Context) : List MatchBranch → List (List Token)
  | [] => []
  | ⟨value, result⟩ :: rest =>
    branchTokens (value.tokens context) (result.tokens context) ::
      MatchBranch.tokensEach context rest

/-- The tokens of each branch of a choice by condition. -/
def ConditionalBranch.tokensEach (context : Context) :
    List ConditionalBranch → List (List Token)
  | [] => []
  | ⟨condition, result⟩ :: rest =>
    branchTokens (condition.tokens context) (result.tokens context) ::
      ConditionalBranch.tokensEach context rest

/-- The tokens of a call. -/
def Call.tokens (context : Context) : Call → List Token
  | ⟨name, arguments, window⟩ =>
    .callee name.sql :: parenthesized (commaSeparated (Expr.tokensEach context arguments)) ++
      optionTokens .over ((Window.tokensOption context window).map parenthesized)

/-- The tokens of an optional window. -/
def Window.tokensOption (context : Context) : Option Window → Option (List Token)
  | none => none
  | some window => some (window.tokens context)

/-- The tokens of a window. -/
def Window.tokens (context : Context) : Window → List Token
  | ⟨partitions, sortKeys, frame⟩ =>
    listClause [.partition, .by] (Expr.tokensEach context partitions) ++
      listClause [.order, .by] (SortKey.tokensEach context sortKeys) ++ frameTokens frame

/-- The tokens of each of some sort keys. -/
def SortKey.tokensEach (context : Context) : List SortKey → List (List Token)
  | [] => []
  | key :: rest => key.tokens context :: SortKey.tokensEach context rest

/-- The tokens of a sort key. -/
def SortKey.tokens (context : Context) : SortKey → List Token
  | ⟨expr, direction, nulls⟩ => expr.tokens context ++ sortTokens direction nulls

/-- The tokens of a condition; none if its predicate has none. -/
def Condition.tokens (context : Context) : Condition → List Token
  | ⟨predicate, wrapped⟩ =>
    match predicate.tokens context with
    | [] => []
    | tokens => parenthesizedIf wrapped tokens

/-- The tokens of each of some conditions. -/
def Condition.tokensEach (context : Context) : List Condition → List (List Token)
  | [] => []
  | condition :: rest => condition.tokens context :: Condition.tokensEach context rest

/-- The tokens of an optional condition; none if there is no condition. -/
def Condition.tokensOption (context : Context) : Option Condition → List Token
  | none => []
  | some condition => condition.tokens context

/-- The tokens of a predicate. -/
def Predicate.tokens (context : Context) : Predicate → List Token
  | .comparison left operator right =>
    left.tokens context ++ .operator operator.text :: right.tokens context
  | .between subject low high negated =>
    subject.tokens context ++ keywordIf negated .not ++
      .keyword .between :: low.tokens context ++ .keyword .and :: high.tokens context
  | .like subject pattern negated =>
    subject.tokens context ++ keywordIf negated .not ++ .keyword .like :: pattern.tokens context
  | .isNull subject negated =>
    subject.tokens context ++ .keyword .is :: keywordIf negated .not ++ [.keyword .null]
  | .isIn subject values negated =>
    subject.tokens context ++ keywordIf negated .not ++ .keyword .in :: values.tokens context
  | .existence query => .callee Keyword.exists.text :: parenthesized (query.tokens context)
  | .quantified subject operator quantifier values =>
    subject.tokens context ++
      .operator operator.text :: .keyword quantifier.keyword :: values.tokens context
  | .group ⟨connective, conditions⟩ =>
    joinedBy connective.keyword (Condition.tokensEach context conditions)
  | .negation condition => introducedBy [.not] (condition.tokens context)

/-- The tokens of values to compare with. -/
def Values.tokens (context : Context) : Values → List Token
  | .list values => parenthesized (commaSeparated (Expr.tokensEach context values))
  | .query body => parenthesized (body.tokens context)
  | .call invocation => invocation.tokens context

/-- The tokens of a source. -/
def Source.tokens (context : Context) : Source → List Token
  | ⟨origin, aliasName⟩ =>
    origin.tokens context ++ aliasTokens context.dialect.aliasSourcesUsingAs aliasName

/-- The tokens of an origin of rows. -/
def Origin.tokens (context : Context) : Origin → List Token
  | .table name => [.identifier name.sql]
  | .call invocation => invocation.tokens context
  | .query body => parenthesized (body.tokens context)

/-- The tokens of an item of a `FROM` clause. -/
def FromItem.tokens (context : Context) : FromItem → List Token
  | .source single => single.tokens context
  | .join body => body.tokens context

/-- The tokens of each of some items of a `FROM` clause. -/
def FromItem.tokensEach (context : Context) : List FromItem → List (List Token)
  | [] => []
  | item :: rest => item.tokens context :: FromItem.tokensEach context rest

/-- The tokens of a join. -/
def Join.tokens (context : Context) : Join → List Token
  | ⟨left, right, kind, on, wrapped, _⟩ =>
    parenthesizedIf wrapped
      (left.tokens context ++ kind.tokens context.dialect ++ right.tokens context ++
        introducedBy [.on] (Condition.tokensOption context on))

/-- The tokens of a query, without the parentheses it may ask for. -/
def Query.tokens (context : Context) : Query → List Token
  | .select body => body.tokens context
  | .setOperation ⟨operator, left, right, quantifier, _⟩ =>
    parenthesizedIf left.wrapped (left.tokens context) ++
      .keyword operator.keyword :: setQuantifierTokens quantifier ++
      parenthesizedIf right.wrapped (right.tokens context)

/-- The tokens of a `SELECT`, without the parentheses it may ask for. -/
def Select.tokens (context : Context) : Select → List Token
  | ⟨quantifier, top, projections, items, _, conditions, groupKeys, groupConditions, sortKeys,
      _⟩ =>
    let inside := context.qualified true
    .keyword .select :: setQuantifierTokens quantifier ++ Top.tokensOption inside top ++
      commaSeparated (Projection.tokensEach inside projections) ++
      listClause [.from] (FromItem.tokensEach inside items) ++
      introducedBy [.where] (joinedBy .and (Condition.tokensEach inside conditions)) ++
      listClause [.group, .by] (Expr.tokensEach inside groupKeys) ++
      introducedBy [.having] (joinedBy .and (Condition.tokensEach inside groupConditions)) ++
      listClause [.order, .by] (SortKey.tokensEach inside sortKeys)

/-- The tokens of each entry of the list of a `SELECT`. -/
def Projection.tokensEach (context : Context) : List Projection → List (List Token)
  | [] => []
  | ⟨expr, aliasName⟩ :: rest =>
    (expr.tokens context ++ aliasTokens context.dialect.aliasProjectionsUsingAs aliasName) ::
      Projection.tokensEach context rest

/-- The tokens of an optional limit on the number of rows. -/
def Top.tokensOption (context : Context) : Option Top → List Token
  | none => []
  | some ⟨count, percent, withTies⟩ =>
    .keyword .top :: count.tokens context ++ keywordIf percent .percent ++
      if withTies then [.keyword .with, .keyword .ties] else []

end

/-- Rendering each of some values is rendering one value, for each of them. -/
@[simp] theorem Expr.tokensEach_eq_map (context : Context) (exprs : List Expr) :
    Expr.tokensEach context exprs = exprs.map (Expr.tokens context) := by
  induction exprs with
  | nil => rfl
  | cons expr rest inductionHypothesis => simp [Expr.tokensEach, inductionHypothesis]

@[simp] theorem SortKey.tokensEach_eq_map (context : Context) (keys : List SortKey) :
    SortKey.tokensEach context keys = keys.map (SortKey.tokens context) := by
  induction keys with
  | nil => rfl
  | cons key rest inductionHypothesis => simp [SortKey.tokensEach, inductionHypothesis]

@[simp] theorem Condition.tokensEach_eq_map (context : Context) (conditions : List Condition) :
    Condition.tokensEach context conditions = conditions.map (Condition.tokens context) := by
  induction conditions with
  | nil => rfl
  | cons condition rest inductionHypothesis =>
    simp [Condition.tokensEach, inductionHypothesis]

@[simp] theorem FromItem.tokensEach_eq_map (context : Context) (items : List FromItem) :
    FromItem.tokensEach context items = items.map (FromItem.tokens context) := by
  induction items with
  | nil => rfl
  | cons item rest inductionHypothesis => simp [FromItem.tokensEach, inductionHypothesis]

@[simp] theorem MatchBranch.tokensEach_eq_map (context : Context) (branches : List MatchBranch) :
    MatchBranch.tokensEach context branches = branches.map fun branch =>
      branchTokens (branch.value.tokens context) (branch.result.tokens context) := by
  induction branches with
  | nil => rfl
  | cons branch rest inductionHypothesis =>
    obtain ⟨value, result⟩ := branch
    simp [MatchBranch.tokensEach, inductionHypothesis]

@[simp] theorem ConditionalBranch.tokensEach_eq_map (context : Context)
    (branches : List ConditionalBranch) :
    ConditionalBranch.tokensEach context branches = branches.map fun branch =>
      branchTokens (branch.condition.tokens context) (branch.result.tokens context) := by
  induction branches with
  | nil => rfl
  | cons branch rest inductionHypothesis =>
    obtain ⟨condition, result⟩ := branch
    simp [ConditionalBranch.tokensEach, inductionHypothesis]

@[simp] theorem Projection.tokensEach_eq_map (context : Context)
    (projections : List Projection) :
    Projection.tokensEach context projections = projections.map fun projection =>
      projection.expr.tokens context ++
        aliasTokens context.dialect.aliasProjectionsUsingAs projection.aliasName := by
  induction projections with
  | nil => rfl
  | cons projection rest inductionHypothesis =>
    obtain ⟨expr, aliasName⟩ := projection
    simp [Projection.tokensEach, inductionHypothesis]

/-- Rendering an optional value is rendering the value if there is one. -/
@[simp] theorem Expr.tokensOption_eq_map (context : Context) (expr : Option Expr) :
    Expr.tokensOption context expr = expr.map (Expr.tokens context) := by
  cases expr <;> rfl

@[simp] theorem Window.tokensOption_eq_map (context : Context) (window : Option Window) :
    Window.tokensOption context window = window.map (Window.tokens context) := by
  cases window <;> rfl

end SqlTree
