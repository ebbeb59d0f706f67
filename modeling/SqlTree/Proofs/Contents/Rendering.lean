import SqlTree.Proofs.Contents.Carrying

/-!
# Rendered contents

The tokens of every tree carry its contents (`Expr.carries` and its kin), and so do those of
every statement (`Statement.carries`). The proof follows the rendering, one case for each
form of the tree.
-/

namespace SqlTree

/-- The words after a sort key have no content. -/
theorem content_sortTokens (direction : Option Direction) (nulls : Option NullPlacement) :
    ∀ token ∈ sortTokens direction nulls, token.content = [] := by
  cases direction <;> cases nulls <;> simp [sortTokens]

/-- The word of a set quantifier has no content. -/
theorem content_setQuantifierTokens (quantifier : Option SetQuantifier) :
    ∀ token ∈ setQuantifierTokens quantifier, token.content = [] := by
  cases quantifier <;> simp [setQuantifierTokens]

/-- The words of a join have no content. -/
theorem JoinKind.content_tokens (dialect : Dialect) (kind : JoinKind) :
    ∀ token ∈ kind.tokens dialect, token.content = [] := by
  have joining : ∀ (present : Bool) (word : Keyword),
      ∀ token ∈ keywordIf present word ++ [.keyword .join], token.content = [] := by
    intro present word
    simpa [or_imp, forall_and] using content_keywordIf present word
  cases kind with
  | inner => exact joining _ _
  | leftOuter | rightOuter | fullOuter =>
    exact List.forall_mem_cons.2 ⟨Token.content_keyword _, joining _ _⟩
  | cross => simp [JoinKind.tokens]

/-- The tokens of a column carry its name, and that of its source where it is shown. -/
theorem Column.carries (context : Context) (column : Column) :
    Carries (column.contents context.qualify) (column.tokens context) :=
  (Carries.qualifier _).append (.single (.name column.name))

/-- The tokens of an edge of a frame carry its number of rows. -/
theorem FrameBound.carries (bound : FrameBound) : Carries bound.contents bound.tokens := by
  cases bound with
  | currentRow | unboundedPreceding | unboundedFollowing => exact .blank (by simp [tokens])
  | preceding count | following count => exact (Carries.single (.number _)).concat (by simp)

/-- The tokens of a frame carry the numbers of rows at its edges. -/
theorem Frame.carriesOption (frame : Option Frame) :
    Carries (Frame.contentsOption frame) (frameTokens frame) := by
  cases frame with
  | none => exact .nil
  | some frame =>
    obtain ⟨unit, extent⟩ := frame
    cases extent with
    | between first last =>
      have edges := (first.carries.keyword .between).append (last.carries.keyword .and)
      exact edges.keyword unit.keyword
    | startingAt first => exact first.carries.keyword unit.keyword

mutual

/-- The tokens of a value carry its contents. -/
theorem Expr.carries (context : Context) : (expr : Expr) →
    Carries (expr.contents context.qualify) (expr.tokens context)
  | .number numeral => .single (.number numeral)
  | .text value => .single (.text value)
  | .null => Carries.nil.keyword .null
  | .placeholder parameter => .single (.placeholder parameter)
  | .column reference => reference.carries context
  | .allColumns qualifier => (Carries.qualifier qualifier).concat (by simp)
  | .call invocation => invocation.carries context
  | .arithmetic operator left right =>
    ((left.carries context).append
      ((right.carries context).cons (Token.content_arithmetic operator))).parenthesized
  | .negation operand => (operand.carries context).negated
  | .matchCase ⟨subject, branches, otherwise⟩ =>
    .choice (subject.carries context) (MatchBranch.carriesEach context branches)
      (Expr.carriesOption context otherwise)
  | .conditionalCase ⟨branches, otherwise⟩ =>
    .choice .nil (ConditionalBranch.carriesEach context branches)
      (Expr.carriesOption context otherwise)
  | .subquery body => (body.carries context).parenthesized
termination_by structural expr => expr

theorem Expr.carriesEach (context : Context) : (exprs : List Expr) →
    Carries (Expr.contentsEach context.qualify exprs) (Expr.tokensEach context exprs).flatten
  | [] => .nil
  | expr :: rest => (expr.carries context).append (Expr.carriesEach context rest)
termination_by structural exprs => exprs

theorem Expr.carriesOption (context : Context) : (expr : Option Expr) →
    Carries (Expr.contentsOption context.qualify expr)
      (optionTokens .else (Expr.tokensOption context expr))
  | none => .nil
  | some expr => (expr.carries context).keyword .else
termination_by structural expr => expr

theorem MatchBranch.carriesEach (context : Context) : (branches : List MatchBranch) →
    Carries (MatchBranch.contentsEach context.qualify branches)
      (MatchBranch.tokensEach context branches).flatten
  | [] => .nil
  | ⟨value, result⟩ :: rest =>
    (Carries.branch (value.carries context) (result.carries context)).append
      (MatchBranch.carriesEach context rest)
termination_by structural branches => branches

theorem ConditionalBranch.carriesEach (context : Context) : (branches : List ConditionalBranch) →
    Carries (ConditionalBranch.contentsEach context.qualify branches)
      (ConditionalBranch.tokensEach context branches).flatten
  | [] => .nil
  | ⟨condition, result⟩ :: rest =>
    (Carries.branch (condition.carries context) (result.carries context)).append
      (ConditionalBranch.carriesEach context rest)
termination_by structural branches => branches

/-- The tokens of a call carry its contents. -/
theorem Call.carries (context : Context) : (call : Call) →
    Carries (call.contents context.qualify) (call.tokens context)
  | ⟨name, arguments, window⟩ =>
    ((Carries.single (.callee name)).append
      (Expr.carriesEach context arguments).commaSeparated.parenthesized).append
        (Window.carriesOption context window)
termination_by structural call => call

theorem Window.carriesOption (context : Context) : (window : Option Window) →
    Carries (Window.contentsOption context.qualify window)
      (optionTokens .over ((Window.tokensOption context window).map parenthesized))
  | none => .nil
  | some window => (window.carries context).parenthesized.keyword .over
termination_by structural window => window

theorem Window.carries (context : Context) : (window : Window) →
    Carries (window.contents context.qualify) (window.tokens context)
  | ⟨partitions, sortKeys, frame⟩ =>
    (((Expr.carriesEach context partitions).listClause [.partition, .by]).append
      ((SortKey.carriesEach context sortKeys).listClause [.order, .by])).append
        (Frame.carriesOption frame)
termination_by structural window => window

theorem SortKey.carriesEach (context : Context) : (keys : List SortKey) →
    Carries (SortKey.contentsEach context.qualify keys) (SortKey.tokensEach context keys).flatten
  | [] => .nil
  | ⟨expr, direction, nulls⟩ :: rest =>
    ((expr.carries context).concat (content_sortTokens direction nulls)).append
      (SortKey.carriesEach context rest)
termination_by structural keys => keys

/-- The tokens of a condition carry its contents. -/
theorem Condition.carries (context : Context) : (condition : Condition) →
    Carries (condition.contents context.qualify) (condition.tokens context)
  | ⟨predicate, wrapped⟩ => by
    have inside := predicate.carries context
    rw [Condition.tokens]
    split
    -- No parentheses are put around nothing, so there is no content to lose either.
    · rename_i empty
      rwa [empty] at inside
    · exact inside.parenthesizedIf wrapped
termination_by structural condition => condition

theorem Condition.carriesEach (context : Context) : (conditions : List Condition) →
    Carries (Condition.contentsEach context.qualify conditions)
      (Condition.tokensEach context conditions).flatten
  | [] => .nil
  | condition :: rest => (condition.carries context).append (Condition.carriesEach context rest)
termination_by structural conditions => conditions

theorem Condition.carriesOption (context : Context) : (condition : Option Condition) →
    Carries (Condition.contentsOption context.qualify condition)
      (Condition.tokensOption context condition)
  | none => .nil
  | some condition => condition.carries context
termination_by structural condition => condition

/-- The tokens of a predicate carry its contents. -/
theorem Predicate.carries (context : Context) : (predicate : Predicate) →
    Carries (predicate.contents context.qualify) (predicate.tokens context)
  | .comparison left operator right =>
    (left.carries context).append
      ((right.carries context).cons (Token.content_comparison operator))
  | .between subject low high negated =>
    (((subject.carries context).keywordIf negated .not).append
      ((low.carries context).keyword .between)).append ((high.carries context).keyword .and)
  | .like subject pattern negated =>
    ((subject.carries context).keywordIf negated .not).append
      ((pattern.carries context).keyword .like)
  | .isNull subject negated => by
    have isOrIsNot : ∀ token ∈ Token.keyword .is :: keywordIf negated .not, token.content = [] :=
      List.forall_mem_cons.2 ⟨Token.content_keyword .is, content_keywordIf negated .not⟩
    exact ((subject.carries context).concat isOrIsNot).concat (by simp)
  | .isIn subject values negated =>
    ((subject.carries context).keywordIf negated .not).append
      ((values.carries context).keyword .in)
  | .existence query =>
    (query.carries context).parenthesized.cons (Token.content_wordCallee .exists)
  | .quantified subject operator quantifier values =>
    (subject.carries context).append
      (((values.carries context).keyword quantifier.keyword).cons
        (Token.content_comparison operator))
  | .group ⟨connective, conditions⟩ =>
    (Condition.carriesEach context conditions).joinedBy connective.keyword
  | .negation condition => (condition.carries context).introducedBy [.not]
termination_by structural predicate => predicate

theorem Values.carries (context : Context) : (values : Values) →
    Carries (values.contents context.qualify) (values.tokens context)
  | .list values => (Expr.carriesEach context values).commaSeparated.parenthesized
  | .query body => (body.carries context).parenthesized
  | .call invocation => invocation.carries context
termination_by structural values => values

/-- The tokens of a source carry its contents. -/
theorem Source.carries (context : Context) : (source : Source) →
    Carries (source.contents context.qualify) (source.tokens context)
  | ⟨origin, aliasName⟩ => (origin.carries context).append (.named _ aliasName)
termination_by structural source => source

theorem Origin.carries (context : Context) : (origin : Origin) →
    Carries (origin.contents context.qualify) (origin.tokens context)
  | .table name => .single (.name name)
  | .call invocation => invocation.carries context
  | .query body => (body.carries context).parenthesized
termination_by structural origin => origin

theorem FromItem.carries (context : Context) : (item : FromItem) →
    Carries (item.contents context.qualify) (item.tokens context)
  | .source single => single.carries context
  | .join body => body.carries context
termination_by structural item => item

theorem FromItem.carriesEach (context : Context) : (items : List FromItem) →
    Carries (FromItem.contentsEach context.qualify items)
      (FromItem.tokensEach context items).flatten
  | [] => .nil
  | item :: rest => (item.carries context).append (FromItem.carriesEach context rest)
termination_by structural items => items

/-- The tokens of a join carry its contents. -/
theorem Join.carries (context : Context) : (join : Join) →
    Carries (join.contents context.qualify) (join.tokens context)
  | ⟨left, right, kind, on, wrapped, _⟩ =>
    ((((left.carries context).concat (kind.content_tokens context.dialect)).append
      (right.carries context)).append
        ((Condition.carriesOption context on).introducedBy [.on])).parenthesizedIf wrapped
termination_by structural join => join

/-- The tokens of a query carry its contents. -/
theorem Query.carries (context : Context) : (query : Query) →
    Carries query.contents (query.tokens context)
  | .select body => body.carries context
  | .setOperation ⟨operator, left, right, quantifier, _⟩ => by
    have between : ∀ token ∈ Token.keyword operator.keyword :: setQuantifierTokens quantifier,
        token.content = [] :=
      List.forall_mem_cons.2 ⟨Token.content_keyword operator.keyword,
        content_setQuantifierTokens quantifier⟩
    exact (((left.carries context).parenthesizedIf left.wrapped).concat between).append
      ((right.carries context).parenthesizedIf right.wrapped)
termination_by structural query => query

/-- The tokens of a `SELECT` carry its contents. -/
theorem Select.carries (context : Context) : (select : Select) →
    Carries select.contents (select.tokens context)
  | ⟨quantifier, top, projections, items, _, conditions, groupKeys, groupConditions, sortKeys,
      _⟩ => by
    -- Columns show their source in here, whatever the context says.
    let inside := context.qualified true
    have start : ∀ token ∈ Token.keyword .select :: setQuantifierTokens quantifier,
        token.content = [] :=
      List.forall_mem_cons.2 ⟨Token.content_keyword .select,
        content_setQuantifierTokens quantifier⟩
    have limit := (Top.carriesOption inside top).prepend start
    have list := (Projection.carriesEach inside projections).commaSeparated
    have fromClause := (FromItem.carriesEach inside items).listClause [.from]
    have whereClause :=
      ((Condition.carriesEach inside conditions).joinedBy .and).introducedBy [.where]
    have groupClause := (Expr.carriesEach inside groupKeys).listClause [.group, .by]
    have havingClause :=
      ((Condition.carriesEach inside groupConditions).joinedBy .and).introducedBy [.having]
    have orderClause := (SortKey.carriesEach inside sortKeys).listClause [.order, .by]
    exact (((((limit.append list).append fromClause).append whereClause).append
      groupClause).append havingClause).append orderClause
termination_by structural select => select

theorem Projection.carriesEach (context : Context) : (projections : List Projection) →
    Carries (Projection.contentsEach context.qualify projections)
      (Projection.tokensEach context projections).flatten
  | [] => .nil
  | ⟨expr, aliasName⟩ :: rest =>
    ((expr.carries context).append (.named _ aliasName)).append
      (Projection.carriesEach context rest)
termination_by structural projections => projections

theorem Top.carriesOption (context : Context) : (top : Option Top) →
    Carries (Top.contentsOption context.qualify top) (Top.tokensOption context top)
  | none => .nil
  | some ⟨count, percent, withTies⟩ => by
    have ties : ∀ token ∈ (if withTies then [Token.keyword .with, .keyword .ties] else []),
        token.content = [] := by
      cases withTies <;> simp
    exact (((count.carries context).keyword .top).keywordIf percent .percent).concat ties
termination_by structural top => top

end

/-- The tokens of the rows of an `INSERT` carry their contents. -/
theorem InsertRows.carries (context : Context) (rows : InsertRows) :
    Carries (rows.contents context.qualify) (rows.tokens context) := by
  cases rows with
  | list values =>
    exact (Expr.carriesEach context values).commaSeparated.parenthesized.cons
      (Token.content_wordCallee .values)
  | query body => exact (body.carries context).parenthesized

/-- The list of columns of an `INSERT` carries the contents of the columns. -/
theorem columnListTokens_carries (context : Context) (columns : List Column) :
    Carries (columns.flatMap (Column.contents context.qualify))
      (columnListTokens context columns) := by
  rw [columnListTokens]
  split
  · rename_i empty
    rw [empty]
    exact .nil
  · exact (Carries.flatten (Column.carries context) columns).commaSeparated.parenthesized

/-- A clause of conditions carries the contents of the conditions. -/
theorem whereClause_carries (context : Context) (conditions : List Condition) :
    Carries (Condition.contentsEach context.qualify conditions) (whereClause context conditions) :=
  ((Condition.carriesEach context conditions).joinedBy .and).introducedBy [.where]

/-- The tokens of the setting of a column carry its contents. -/
theorem Setter.carries (context : Context) (setter : Setter) :
    Carries (setter.contents context.qualify) (setter.tokens context) :=
  (setter.column.carries context).append
    ((setter.value.carries context).cons (Token.content_comparison .equal))

/-- The tokens of every statement carry its contents. -/
theorem Statement.carries (dialect : Dialect) (statement : Statement) :
    Carries (statement.contents dialect) (statement.tokens dialect) := by
  cases statement with
  | query body => exact (body.carries _).parenthesizedIf _
  | insert body =>
    let context : Context := ⟨dialect, dialect.qualifyInsertColumns⟩
    have start : ∀ token ∈ [Token.keyword .insert, .keyword .into], token.content = [] := by simp
    have target := (body.target.source.carries context).prepend start
    exact (target.append (columnListTokens_carries context body.columns)).append
      (body.rows.carries context)
  | update body =>
    let context : Context := ⟨dialect, dialect.qualifyUpdateColumns⟩
    have target := (body.target.source.carries context).keyword .update
    have list := (Carries.flatten (Setter.carries context) body.setters).commaSeparated
    have setters := target.append (list.keyword .set)
    exact setters.append (whereClause_carries context body.conditions)
  | delete body =>
    let context : Context := ⟨dialect, dialect.qualifyDeleteColumns⟩
    have start : ∀ token ∈ [Token.keyword .delete, .keyword .from], token.content = [] := by simp
    have target := (body.target.source.carries context).prepend start
    exact target.append (whereClause_carries context body.conditions)

end SqlTree
