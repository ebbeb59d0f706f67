import SqlTree.Proofs.Rewriting

/-!
# Faithful rewritings

A rewriting that keeps the tokens of each thing that it changes keeps the tokens
of the whole (`Statement.tokens_rewrite`). What it changes may be rendered in
another dialect afterwards, and under another flag for the columns, as long as
the rest of the text does not depend on the difference.

The proof follows the recursion of the rewriting. Its only steps are those at
the changed parts; everything between them is rendered as before.
-/

namespace SqlTree

/-- Two dialects that differ at most in the switches for the columns of
statements that change rows. -/
structure Dialect.SameWording (left right : Dialect) : Prop where
  aliasSources : left.aliasSourcesUsingAs = right.aliasSourcesUsingAs
  aliasProjections : left.aliasProjectionsUsingAs = right.aliasProjectionsUsingAs
  innerJoin : left.verboseInnerJoin = right.verboseInnerJoin
  outerJoin : left.verboseOuterJoin = right.verboseOuterJoin

/-- A dialect has the wording of its own. -/
theorem Dialect.SameWording.refl (dialect : Dialect) : dialect.SameWording dialect :=
  ⟨rfl, rfl, rfl, rfl⟩

/-- A rewriting whose changes do not show: not in `other` after it, compared to
`dialect` before it. The relation says which flags for the columns may be in
force before and after it. -/
structure Rewriting.Faithful (rewriting : Rewriting) (flags : Bool → Bool → Prop)
    (dialect other : Dialect) : Prop where
  wording : dialect.SameWording other
  select : flags true true
  column : ∀ {shown after : Bool}, flags shown after → ∀ column : Column,
    (rewriting.column shown column).tokens ⟨other, after⟩ = column.tokens ⟨dialect, shown⟩
  conditions : ∀ (context : Context) (word : Keyword) (conditions : List Condition),
    joinedBy word (Condition.tokensEach context (rewriting.conditions conditions)) =
      joinedBy word (Condition.tokensEach context conditions)
  on : ∀ (context : Context) (condition : Option Condition),
    Condition.tokensOption context (rewriting.on condition) =
      Condition.tokensOption context condition
  nested : ∀ (context : Context) (query : Query),
    (rewriting.nested query).tokens context = query.tokens context

variable {rewriting : Rewriting} {flags : Bool → Bool → Prop} {dialect other : Dialect}

/-- The keywords of a join do not depend on the switches for columns. -/
theorem Dialect.SameWording.joinTokens (wording : dialect.SameWording other)
    (kind : JoinKind) : kind.tokens other = kind.tokens dialect := by
  cases kind <;> simp [JoinKind.tokens, wording.innerJoin, wording.outerJoin]

/-- A rewriting keeps the wrapping that a query asks for. -/
theorem Query.wrapped_rewrite : (query : Query) →
    (query.rewrite rewriting).wrapped = query.wrapped
  | .select ⟨_, _, _, _, ⟨_⟩, _, _, _, _, _⟩ => by
    simp only [Query.rewrite, Select.rewrite, Query.wrapped]
  | .setOperation ⟨_, _, _, _, _⟩ => by
    simp only [Query.rewrite, Query.wrapped]

mutual

/-- A faithful rewriting keeps the tokens of a value. -/
theorem Expr.tokens_rewrite {shown after : Bool}
    (faithful : rewriting.Faithful flags dialect other) (related : flags shown after) :
    (expr : Expr) →
    (expr.rewrite rewriting shown).tokens ⟨other, after⟩ = expr.tokens ⟨dialect, shown⟩
  | .number _ | .text _ | .null | .placeholder _ | .allColumns _ => rfl
  | .column reference => faithful.column related reference
  | .call invocation => Call.tokens_rewrite faithful related invocation
  | .arithmetic operator left right => by
    simp only [Expr.rewrite, Expr.tokens, Expr.tokens_rewrite faithful related left,
      Expr.tokens_rewrite faithful related right]
  | .negation operand => by
    simp only [Expr.rewrite, Expr.tokens, Expr.tokens_rewrite faithful related operand]
  | .matchCase ⟨subject, branches, otherwise⟩ => by
    simp only [Expr.rewrite, Expr.tokens, Expr.tokens_rewrite faithful related subject,
      MatchBranch.tokensEach_rewrite faithful related branches,
      Expr.tokensOption_rewrite faithful related otherwise]
  | .conditionalCase ⟨branches, otherwise⟩ => by
    simp only [Expr.rewrite, Expr.tokens,
      ConditionalBranch.tokensEach_rewrite faithful related branches,
      Expr.tokensOption_rewrite faithful related otherwise]
  | .subquery body => by
    simp only [Expr.rewrite, Expr.tokens, faithful.nested,
      Query.tokens_rewrite faithful after shown body]
termination_by structural expr => expr

theorem Expr.tokensEach_rewrite {shown after : Bool}
    (faithful : rewriting.Faithful flags dialect other) (related : flags shown after) :
    (exprs : List Expr) →
    Expr.tokensEach ⟨other, after⟩ (Expr.rewriteEach rewriting shown exprs) =
      Expr.tokensEach ⟨dialect, shown⟩ exprs
  | [] => rfl
  | expr :: rest => by
    simp only [Expr.rewriteEach, Expr.tokensEach, Expr.tokens_rewrite faithful related expr,
      Expr.tokensEach_rewrite faithful related rest]
termination_by structural exprs => exprs

theorem Expr.tokensOption_rewrite {shown after : Bool}
    (faithful : rewriting.Faithful flags dialect other) (related : flags shown after) :
    (expr : Option Expr) →
    Expr.tokensOption ⟨other, after⟩ (Expr.rewriteOption rewriting shown expr) =
      Expr.tokensOption ⟨dialect, shown⟩ expr
  | none => rfl
  | some expr => by
    simp only [Expr.rewriteOption, Expr.tokensOption,
      Expr.tokens_rewrite faithful related expr]
termination_by structural expr => expr

theorem MatchBranch.tokensEach_rewrite {shown after : Bool}
    (faithful : rewriting.Faithful flags dialect other) (related : flags shown after) :
    (branches : List MatchBranch) →
    MatchBranch.tokensEach ⟨other, after⟩ (MatchBranch.rewriteEach rewriting shown branches) =
      MatchBranch.tokensEach ⟨dialect, shown⟩ branches
  | [] => rfl
  | ⟨value, result⟩ :: rest => by
    simp only [MatchBranch.rewriteEach, MatchBranch.tokensEach,
      Expr.tokens_rewrite faithful related value, Expr.tokens_rewrite faithful related result,
      MatchBranch.tokensEach_rewrite faithful related rest]
termination_by structural branches => branches

theorem ConditionalBranch.tokensEach_rewrite {shown after : Bool}
    (faithful : rewriting.Faithful flags dialect other) (related : flags shown after) :
    (branches : List ConditionalBranch) →
    ConditionalBranch.tokensEach ⟨other, after⟩
        (ConditionalBranch.rewriteEach rewriting shown branches) =
      ConditionalBranch.tokensEach ⟨dialect, shown⟩ branches
  | [] => rfl
  | ⟨condition, result⟩ :: rest => by
    simp only [ConditionalBranch.rewriteEach, ConditionalBranch.tokensEach,
      Condition.tokens_rewrite faithful related condition,
      Expr.tokens_rewrite faithful related result,
      ConditionalBranch.tokensEach_rewrite faithful related rest]
termination_by structural branches => branches

theorem Call.tokens_rewrite {shown after : Bool}
    (faithful : rewriting.Faithful flags dialect other) (related : flags shown after) :
    (call : Call) →
    (call.rewrite rewriting shown).tokens ⟨other, after⟩ = call.tokens ⟨dialect, shown⟩
  | ⟨name, arguments, window⟩ => by
    simp only [Call.rewrite, Call.tokens, Expr.tokensEach_rewrite faithful related arguments,
      Window.tokensOption_rewrite faithful related window]
termination_by structural call => call

theorem Window.tokensOption_rewrite {shown after : Bool}
    (faithful : rewriting.Faithful flags dialect other) (related : flags shown after) :
    (window : Option Window) →
    Window.tokensOption ⟨other, after⟩ (Window.rewriteOption rewriting shown window) =
      Window.tokensOption ⟨dialect, shown⟩ window
  | none => rfl
  | some window => by
    simp only [Window.rewriteOption, Window.tokensOption,
      Window.tokens_rewrite faithful related window]
termination_by structural window => window

theorem Window.tokens_rewrite {shown after : Bool}
    (faithful : rewriting.Faithful flags dialect other) (related : flags shown after) :
    (window : Window) →
    (window.rewrite rewriting shown).tokens ⟨other, after⟩ = window.tokens ⟨dialect, shown⟩
  | ⟨partitions, sortKeys, frame⟩ => by
    simp only [Window.rewrite, Window.tokens,
      Expr.tokensEach_rewrite faithful related partitions,
      SortKey.tokensEach_rewrite faithful related sortKeys]
termination_by structural window => window

theorem SortKey.tokensEach_rewrite {shown after : Bool}
    (faithful : rewriting.Faithful flags dialect other) (related : flags shown after) :
    (keys : List SortKey) →
    SortKey.tokensEach ⟨other, after⟩ (SortKey.rewriteEach rewriting shown keys) =
      SortKey.tokensEach ⟨dialect, shown⟩ keys
  | [] => rfl
  | ⟨expr, direction, nulls⟩ :: rest => by
    simp only [SortKey.rewriteEach, SortKey.tokensEach, SortKey.tokens,
      Expr.tokens_rewrite faithful related expr, SortKey.tokensEach_rewrite faithful related rest]
termination_by structural keys => keys

/-- A faithful rewriting keeps the tokens of a condition. -/
theorem Condition.tokens_rewrite {shown after : Bool}
    (faithful : rewriting.Faithful flags dialect other) (related : flags shown after) :
    (condition : Condition) →
    (condition.rewrite rewriting shown).tokens ⟨other, after⟩ =
      condition.tokens ⟨dialect, shown⟩
  | ⟨predicate, wrapped⟩ => by
    simp only [Condition.rewrite, Condition.tokens,
      Predicate.tokens_rewrite faithful related predicate]
termination_by structural condition => condition

theorem Condition.tokensEach_rewrite {shown after : Bool}
    (faithful : rewriting.Faithful flags dialect other) (related : flags shown after) :
    (conditions : List Condition) →
    Condition.tokensEach ⟨other, after⟩ (Condition.rewriteEach rewriting shown conditions) =
      Condition.tokensEach ⟨dialect, shown⟩ conditions
  | [] => rfl
  | condition :: rest => by
    simp only [Condition.rewriteEach, Condition.tokensEach,
      Condition.tokens_rewrite faithful related condition,
      Condition.tokensEach_rewrite faithful related rest]
termination_by structural conditions => conditions

theorem Condition.tokensOption_rewrite {shown after : Bool}
    (faithful : rewriting.Faithful flags dialect other) (related : flags shown after) :
    (condition : Option Condition) →
    Condition.tokensOption ⟨other, after⟩
        (Condition.rewriteOption rewriting shown condition) =
      Condition.tokensOption ⟨dialect, shown⟩ condition
  | none => rfl
  | some condition => by
    simp only [Condition.rewriteOption, Condition.tokensOption,
      Condition.tokens_rewrite faithful related condition]
termination_by structural condition => condition

theorem Predicate.tokens_rewrite {shown after : Bool}
    (faithful : rewriting.Faithful flags dialect other) (related : flags shown after) :
    (predicate : Predicate) →
    (predicate.rewrite rewriting shown).tokens ⟨other, after⟩ =
      predicate.tokens ⟨dialect, shown⟩
  | .comparison left operator right => by
    simp only [Predicate.rewrite, Predicate.tokens, Expr.tokens_rewrite faithful related left,
      Expr.tokens_rewrite faithful related right]
  | .between subject low high negated => by
    simp only [Predicate.rewrite, Predicate.tokens,
      Expr.tokens_rewrite faithful related subject, Expr.tokens_rewrite faithful related low,
      Expr.tokens_rewrite faithful related high]
  | .like subject pattern negated => by
    simp only [Predicate.rewrite, Predicate.tokens,
      Expr.tokens_rewrite faithful related subject,
      Expr.tokens_rewrite faithful related pattern]
  | .isNull subject negated => by
    simp only [Predicate.rewrite, Predicate.tokens,
      Expr.tokens_rewrite faithful related subject]
  | .isIn subject values negated => by
    simp only [Predicate.rewrite, Predicate.tokens,
      Expr.tokens_rewrite faithful related subject,
      Values.tokens_rewrite faithful related values]
  | .existence query => by
    simp only [Predicate.rewrite, Predicate.tokens, faithful.nested,
      Query.tokens_rewrite faithful after shown query]
  | .quantified subject operator quantifier values => by
    simp only [Predicate.rewrite, Predicate.tokens,
      Expr.tokens_rewrite faithful related subject,
      Values.tokens_rewrite faithful related values]
  | .group ⟨connective, conditions⟩ => by
    simp only [Predicate.rewrite, Predicate.tokens, faithful.conditions,
      Condition.tokensEach_rewrite faithful related conditions]
  | .negation condition => by
    simp only [Predicate.rewrite, Predicate.tokens,
      Condition.tokens_rewrite faithful related condition]
termination_by structural predicate => predicate

theorem Values.tokens_rewrite {shown after : Bool}
    (faithful : rewriting.Faithful flags dialect other) (related : flags shown after) :
    (values : Values) →
    (values.rewrite rewriting shown).tokens ⟨other, after⟩ = values.tokens ⟨dialect, shown⟩
  | .list values => by
    simp only [Values.rewrite, Values.tokens, Expr.tokensEach_rewrite faithful related values]
  | .query body => by
    simp only [Values.rewrite, Values.tokens, faithful.nested,
      Query.tokens_rewrite faithful after shown body]
  | .call invocation => Call.tokens_rewrite faithful related invocation
termination_by structural values => values

theorem Source.tokens_rewrite {shown after : Bool}
    (faithful : rewriting.Faithful flags dialect other) (related : flags shown after) :
    (source : Source) →
    (source.rewrite rewriting shown).tokens ⟨other, after⟩ = source.tokens ⟨dialect, shown⟩
  | ⟨origin, aliasName⟩ => by
    simp only [Source.rewrite, Source.tokens, faithful.wording.aliasSources,
      Origin.tokens_rewrite faithful related origin]
termination_by structural source => source

theorem Origin.tokens_rewrite {shown after : Bool}
    (faithful : rewriting.Faithful flags dialect other) (related : flags shown after) :
    (origin : Origin) →
    (origin.rewrite rewriting shown).tokens ⟨other, after⟩ = origin.tokens ⟨dialect, shown⟩
  | .table name => rfl
  | .call invocation => Call.tokens_rewrite faithful related invocation
  | .query body => by
    simp only [Origin.rewrite, Origin.tokens, faithful.nested,
      Query.tokens_rewrite faithful after shown body]
termination_by structural origin => origin

theorem FromItem.tokens_rewrite {shown after : Bool}
    (faithful : rewriting.Faithful flags dialect other) (related : flags shown after) :
    (item : FromItem) →
    (item.rewrite rewriting shown).tokens ⟨other, after⟩ = item.tokens ⟨dialect, shown⟩
  | .source single => Source.tokens_rewrite faithful related single
  | .join body => Join.tokens_rewrite faithful related body
termination_by structural item => item

theorem FromItem.tokensEach_rewrite {shown after : Bool}
    (faithful : rewriting.Faithful flags dialect other) (related : flags shown after) :
    (items : List FromItem) →
    FromItem.tokensEach ⟨other, after⟩ (FromItem.rewriteEach rewriting shown items) =
      FromItem.tokensEach ⟨dialect, shown⟩ items
  | [] => rfl
  | item :: rest => by
    simp only [FromItem.rewriteEach, FromItem.tokensEach,
      FromItem.tokens_rewrite faithful related item,
      FromItem.tokensEach_rewrite faithful related rest]
termination_by structural items => items

theorem Join.tokens_rewrite {shown after : Bool}
    (faithful : rewriting.Faithful flags dialect other) (related : flags shown after) :
    (join : Join) →
    (join.rewrite rewriting shown).tokens ⟨other, after⟩ = join.tokens ⟨dialect, shown⟩
  | ⟨left, right, kind, on, wrapped, ⟨sources⟩⟩ => by
    simp only [Join.rewrite, Join.tokens, faithful.wording.joinTokens, faithful.on,
      FromItem.tokens_rewrite faithful related left,
      Source.tokens_rewrite faithful related right,
      Condition.tokensOption_rewrite faithful related on]
termination_by structural join => join

/-- A faithful rewriting keeps the tokens of a query, wherever the query stands. -/
theorem Query.tokens_rewrite (faithful : rewriting.Faithful flags dialect other)
    (after shown : Bool) : (query : Query) →
    (query.rewrite rewriting).tokens ⟨other, after⟩ = query.tokens ⟨dialect, shown⟩
  | .select body => Select.tokens_rewrite faithful after shown body
  | .setOperation ⟨operator, left, right, quantifier, wrapped⟩ => by
    simp only [Query.rewrite, Query.tokens, Query.wrapped_rewrite,
      Query.tokens_rewrite faithful after shown left,
      Query.tokens_rewrite faithful after shown right]
termination_by structural query => query

theorem Select.tokens_rewrite (faithful : rewriting.Faithful flags dialect other)
    (after shown : Bool) : (select : Select) →
    (select.rewrite rewriting).tokens ⟨other, after⟩ = select.tokens ⟨dialect, shown⟩
  | ⟨quantifier, top, projections, items, ⟨sources⟩, conditions, groupKeys, groupConditions,
      sortKeys, wrapped⟩ => by
    simp only [Select.rewrite, Select.tokens, Context.qualified, faithful.conditions,
      Top.tokensOption_rewrite faithful faithful.select top,
      Projection.tokensEach_rewrite faithful faithful.select projections,
      FromItem.tokensEach_rewrite faithful faithful.select items,
      Condition.tokensEach_rewrite faithful faithful.select conditions,
      Expr.tokensEach_rewrite faithful faithful.select groupKeys,
      Condition.tokensEach_rewrite faithful faithful.select groupConditions,
      SortKey.tokensEach_rewrite faithful faithful.select sortKeys]
termination_by structural select => select

theorem Projection.tokensEach_rewrite {shown after : Bool}
    (faithful : rewriting.Faithful flags dialect other) (related : flags shown after) :
    (projections : List Projection) →
    Projection.tokensEach ⟨other, after⟩
        (Projection.rewriteEach rewriting shown projections) =
      Projection.tokensEach ⟨dialect, shown⟩ projections
  | [] => rfl
  | ⟨expr, aliasName⟩ :: rest => by
    simp only [Projection.rewriteEach, Projection.tokensEach,
      faithful.wording.aliasProjections, Expr.tokens_rewrite faithful related expr,
      Projection.tokensEach_rewrite faithful related rest]
termination_by structural projections => projections

theorem Top.tokensOption_rewrite {shown after : Bool}
    (faithful : rewriting.Faithful flags dialect other) (related : flags shown after) :
    (top : Option Top) →
    Top.tokensOption ⟨other, after⟩ (Top.rewriteOption rewriting shown top) =
      Top.tokensOption ⟨dialect, shown⟩ top
  | none => rfl
  | some ⟨count, percent, withTies⟩ => by
    simp only [Top.rewriteOption, Top.tokensOption, Expr.tokens_rewrite faithful related count]
termination_by structural top => top

end

/-- A faithful rewriting keeps the tokens of the rows of an `INSERT`. -/
theorem InsertRows.tokens_rewrite {shown after : Bool}
    (faithful : rewriting.Faithful flags dialect other) (related : flags shown after)
    (rows : InsertRows) :
    (rows.rewrite rewriting shown).tokens ⟨other, after⟩ = rows.tokens ⟨dialect, shown⟩ := by
  cases rows with
  | list values =>
    simp only [InsertRows.rewrite, InsertRows.tokens,
      Expr.tokensEach_rewrite faithful related values]
  | query body =>
    simp only [InsertRows.rewrite, InsertRows.tokens, faithful.nested,
      Query.tokens_rewrite faithful after shown body]

/-- The target of a statement shows no columns. -/
theorem Target.tokens_source (wording : dialect.SameWording other) (shown after : Bool)
    (target : Target) :
    target.source.tokens ⟨other, after⟩ = target.source.tokens ⟨dialect, shown⟩ := by
  simp only [Target.source, Source.tokens, Origin.tokens, wording.aliasSources]

/-- A faithful rewriting keeps the tokens of a clause of conditions. -/
theorem whereClause_rewrite {shown after : Bool}
    (faithful : rewriting.Faithful flags dialect other) (related : flags shown after)
    (conditions : List Condition) :
    whereClause ⟨other, after⟩
        (rewriting.conditions (Condition.rewriteEach rewriting shown conditions)) =
      whereClause ⟨dialect, shown⟩ conditions := by
  rw [whereClause, faithful.conditions, Condition.tokensEach_rewrite faithful related,
    whereClause]

/-- A faithful rewriting keeps the tokens of a statement, if the flags that the two
dialects set for the statement are related. -/
theorem Statement.tokens_rewrite (faithful : rewriting.Faithful flags dialect other)
    (insert : flags dialect.qualifyInsertColumns other.qualifyInsertColumns)
    (update : flags dialect.qualifyUpdateColumns other.qualifyUpdateColumns)
    (delete : flags dialect.qualifyDeleteColumns other.qualifyDeleteColumns)
    (statement : Statement) :
    (statement.rewrite rewriting dialect).tokens other = statement.tokens dialect := by
  cases statement with
  | query body =>
    simp only [Statement.rewrite, Statement.tokens, Query.wrapped_rewrite,
      Query.tokens_rewrite faithful true true body]
  | insert body =>
    have columns : columnListTokens ⟨other, other.qualifyInsertColumns⟩
        (body.columns.map (rewriting.column dialect.qualifyInsertColumns)) =
        columnListTokens ⟨dialect, dialect.qualifyInsertColumns⟩ body.columns := by
      simp only [columnListTokens, List.map_eq_nil_iff, List.map_map, Function.comp_def,
        faithful.column insert]
    simp only [Statement.rewrite, Statement.tokens, Insert.tokens, columns,
      Target.tokens_source faithful.wording dialect.qualifyInsertColumns,
      InsertRows.tokens_rewrite faithful insert]
  | update body =>
    have setters : (body.setters.map fun setter : Setter => (⟨rewriting.column
          dialect.qualifyUpdateColumns setter.column,
          setter.value.rewrite rewriting dialect.qualifyUpdateColumns⟩ : Setter)).map
          (Setter.tokens ⟨other, other.qualifyUpdateColumns⟩) =
        body.setters.map (Setter.tokens ⟨dialect, dialect.qualifyUpdateColumns⟩) := by
      rw [List.map_map]
      refine List.map_congr_left fun setter _ => ?_
      simp only [Function.comp_apply, Setter.tokens, faithful.column update,
        Expr.tokens_rewrite faithful update]
    simp only [Statement.rewrite, Statement.tokens, Update.tokens, setters,
      Target.tokens_source faithful.wording dialect.qualifyUpdateColumns,
      whereClause_rewrite faithful update]
  | delete body =>
    simp only [Statement.rewrite, Statement.tokens, Delete.tokens,
      Target.tokens_source faithful.wording dialect.qualifyDeleteColumns,
      whereClause_rewrite faithful delete]

end SqlTree
