import SqlTree.Proofs.Phrase

/-!
# Rendered phrases

Every part of a statement is rendered as a phrase (`Expr.phrase` and its kin),
or as nothing at all where a part may vanish, in every context. What holds of
all phrases, by an induction over their few shapes, therefore holds of all
statements (`Statement.phrase`).

The breadths are as narrow as they can be: values show no operator, connective
or comma outside their parentheses and choices, and conditions, sort keys,
sources, joins and projections show no comma and no start of a clause.
-/

namespace SqlTree

mutual

/-- Every value is a phrase with no comma, operator or connective outside its
parentheses. -/
theorem Expr.phrase (context : Context) : ∀ expr : Expr, Phrase .value (expr.tokens context)
  | .number numeral => .number numeral
  | .text value => .text value
  | .null => .keyword .null rfl
  | .placeholder parameter => .placeholder parameter
  | .column reference => reference.phrase context
  | .allColumns qualifier => .qualified qualifier .star
  | .call invocation => invocation.phrase context
  | .arithmetic operator left right =>
    have inside := Phrase.operation (by decide) (.inl ⟨operator, rfl⟩)
      (left.phrase context).toClause (right.phrase context).toClause
    .parentheses inside
  | .negation operand => (operand.phrase context).negated
  | .matchCase ⟨subject, branches, otherwise⟩ =>
    .caseTokens (.inr (subject.phrase context).ofValue) (MatchBranch.phraseEach context branches)
      fun tokens member => (Expr.phraseOption context otherwise tokens member).ofValue
  | .conditionalCase ⟨branches, otherwise⟩ =>
    .caseTokens .nil (ConditionalBranch.phraseEach context branches)
      fun tokens member => (Expr.phraseOption context otherwise tokens member).ofValue
  | .subquery body => .parentheses (body.phrase context)
termination_by structural expr => expr

theorem Expr.phraseEach (context : Context) :
    ∀ exprs : List Expr, ∀ part ∈ Expr.tokensEach context exprs, Phrase .value part
  | [] => by simp [Expr.tokensEach]
  | expr :: rest => by
    rw [Expr.tokensEach, List.forall_mem_cons]
    exact ⟨expr.phrase context, Expr.phraseEach context rest⟩
termination_by structural exprs => exprs

theorem Expr.phraseOption (context : Context) :
    ∀ expr : Option Expr, ∀ part ∈ Expr.tokensOption context expr, Phrase .value part
  | none => by simp [Expr.tokensOption]
  | some expr => by
    rintro part ⟨⟩
    exact expr.phrase context
termination_by structural expr => expr

/-- A branch by value is an element. -/
theorem MatchBranch.phraseEach (context : Context) :
    ∀ branches : List MatchBranch,
      ∀ part ∈ MatchBranch.tokensEach context branches, Phrase .element part
  | [] => by simp [MatchBranch.tokensEach]
  | ⟨value, result⟩ :: rest => by
    rw [MatchBranch.tokensEach, List.forall_mem_cons]
    have following : Phrase .element (.keyword .then :: result.tokens context) :=
      .cons rfl (result.phrase context).ofValue
    exact ⟨.append (.cons rfl (value.phrase context).ofValue) following,
      MatchBranch.phraseEach context rest⟩
termination_by structural branches => branches

/-- A branch by condition is an element, even if its condition is missing. -/
theorem ConditionalBranch.phraseEach (context : Context) :
    ∀ branches : List ConditionalBranch,
      ∀ part ∈ ConditionalBranch.tokensEach context branches, Phrase .element part
  | [] => by simp [ConditionalBranch.tokensEach]
  | ⟨condition, result⟩ :: rest => by
    rw [ConditionalBranch.tokensEach, List.forall_mem_cons]
    have following : Phrase .element (.keyword .then :: result.tokens context) :=
      .cons rfl (result.phrase context).ofValue
    exact ⟨.append (.consOptional rfl (condition.phrase context)) following,
      ConditionalBranch.phraseEach context rest⟩
termination_by structural branches => branches

/-- A call is a value, over a window or not. -/
theorem Call.phrase (context : Context) : ∀ call : Call, Phrase .value (call.tokens context)
  | ⟨name, arguments, window⟩ => by
    have argumentList : OptionalPhrase .clause
        (commaSeparated (Expr.tokensEach context arguments)) :=
      .commaSeparated fun part member => (Expr.phraseEach context arguments part member).ofValue
    have suffix : OptionalPhrase .value
        (optionTokens .over ((Window.tokensOption context window).map parenthesized)) := by
      refine .optionTokens rfl fun tokens member => ?_
      obtain ⟨inside, found, rfl⟩ := Option.map_eq_some_iff.1 member
      exact (Window.phraseOption context window inside found).parenthesized
    exact (Phrase.call name argumentList.parenthesized).appendOptional suffix
termination_by structural call => call

theorem Window.phraseOption (context : Context) :
    ∀ window : Option Window,
      ∀ part ∈ Window.tokensOption context window, OptionalPhrase .clause part
  | none => by simp [Window.tokensOption]
  | some window => by
    rintro part ⟨⟩
    exact window.phrase context
termination_by structural window => window

/-- A window may say nothing. -/
theorem Window.phrase (context : Context) :
    ∀ window : Window, OptionalPhrase .clause (window.tokens context)
  | ⟨partitions, sortKeys, frame⟩ => by
    have partitionClause := OptionalPhrase.listClause [.partition, .by] (by decide)
      fun part member => (Expr.phraseEach context partitions part member).toClause
    have sortClause := OptionalPhrase.listClause [.order, .by] (by decide)
      fun part member => (SortKey.phraseEach context sortKeys part member).toClause
    exact (partitionClause.append sortClause).append (.frameTokens frame)
termination_by structural window => window

theorem SortKey.phraseEach (context : Context) :
    ∀ keys : List SortKey, ∀ part ∈ SortKey.tokensEach context keys, Phrase .element part
  | [] => by simp [SortKey.tokensEach]
  | key :: rest => by
    rw [SortKey.tokensEach, List.forall_mem_cons]
    exact ⟨key.phrase context, SortKey.phraseEach context rest⟩
termination_by structural keys => keys

theorem SortKey.phrase (context : Context) :
    ∀ key : SortKey, Phrase .element (key.tokens context)
  | ⟨expr, direction, nulls⟩ =>
    (expr.phrase context).ofValue.appendOptional (.sortTokens direction nulls)
termination_by structural key => key

/-- A condition is an element, or nothing. -/
theorem Condition.phrase (context : Context) :
    ∀ condition : Condition, OptionalPhrase .element (condition.tokens context)
  | ⟨predicate, wrapped⟩ => by
    rw [Condition.tokens]
    split
    · exact .nil
    · rename_i tokens notNil
      exact .inr (((predicate.phrase context).resolve_left notNil).parenthesizedIf wrapped)
termination_by structural condition => condition

theorem Condition.phraseEach (context : Context) :
    ∀ conditions : List Condition,
      ∀ part ∈ Condition.tokensEach context conditions, OptionalPhrase .element part
  | [] => by simp [Condition.tokensEach]
  | condition :: rest => by
    rw [Condition.tokensEach, List.forall_mem_cons]
    exact ⟨condition.phrase context, Condition.phraseEach context rest⟩
termination_by structural conditions => conditions

theorem Condition.phraseOption (context : Context) :
    ∀ condition : Option Condition,
      OptionalPhrase .element (Condition.tokensOption context condition)
  | none => .nil
  | some condition => condition.phrase context
termination_by structural condition => condition

/-- A predicate is an element; a group or its negation may be nothing. -/
theorem Predicate.phrase (context : Context) :
    ∀ predicate : Predicate, OptionalPhrase .element (predicate.tokens context)
  | .comparison left operator right => by
    exact .inr (.operation (by decide) (.inr ⟨operator, rfl⟩) (left.phrase context).ofValue
      (right.phrase context).ofValue)
  | .between subject low high negated => by
    have subjectPart : Phrase .element (subject.tokens context ++ keywordIf negated .not) :=
      (subject.phrase context).ofValue.appendOptional (.keywordIf negated rfl)
    have lowPart : Phrase .element (.keyword .between :: low.tokens context) :=
      .cons rfl (low.phrase context).ofValue
    have highPart : Phrase .element (.keyword .and :: high.tokens context) :=
      .cons rfl (high.phrase context).ofValue
    exact .inr ((subjectPart.append lowPart).append highPart)
  | .like subject pattern negated => by
    have subjectPart : Phrase .element (subject.tokens context ++ keywordIf negated .not) :=
      (subject.phrase context).ofValue.appendOptional (.keywordIf negated rfl)
    exact .inr (subjectPart.append (.cons rfl (pattern.phrase context).ofValue))
  | .isNull subject negated => by
    have isPart : Phrase .element (.keyword .is :: keywordIf negated .not) :=
      .consOptional rfl (.keywordIf negated rfl)
    exact .inr (((subject.phrase context).ofValue.append isPart).append (.keyword .null rfl))
  | .isIn subject values negated => by
    have subjectPart : Phrase .element (subject.tokens context ++ keywordIf negated .not) :=
      (subject.phrase context).ofValue.appendOptional (.keywordIf negated rfl)
    exact .inr (subjectPart.append (.cons rfl (values.phrase context).ofValue))
  | .existence query => .inr (.wordCall .exists (.parentheses (query.phrase context)))
  | .quantified subject operator quantifier values => by
    have admitted : Breadth.element.admits quantifier.keyword = true := by
      cases quantifier <;> rfl
    exact .inr (.operation (by decide) (.inr ⟨operator, rfl⟩) (subject.phrase context).ofValue
      (.cons admitted (values.phrase context).ofValue))
  | .group ⟨connective, conditions⟩ =>
    .joinedBy (by cases connective <;> rfl) (Condition.phraseEach context conditions)
  | .negation condition => .introducedBy [.not] (by decide) (condition.phrase context)
termination_by structural predicate => predicate

theorem Values.phrase (context : Context) :
    ∀ values : Values, Phrase .value (values.tokens context)
  | .list values => by
    have list : OptionalPhrase .clause (commaSeparated (Expr.tokensEach context values)) :=
      .commaSeparated fun part member => (Expr.phraseEach context values part member).ofValue
    exact list.parenthesized
  | .query body => .parentheses (body.phrase context)
  | .call invocation => invocation.phrase context
termination_by structural values => values

/-- A source is an element of a `FROM` clause. -/
theorem Source.phrase (context : Context) :
    ∀ source : Source, Phrase .element (source.tokens context)
  | ⟨origin, aliasName⟩ =>
    (origin.phrase context).ofValue.appendOptional (.aliasTokens _ aliasName)
termination_by structural source => source

theorem Origin.phrase (context : Context) :
    ∀ origin : Origin, Phrase .value (origin.tokens context)
  | .table name => .name name
  | .call invocation => invocation.phrase context
  | .query body => .parentheses (body.phrase context)
termination_by structural origin => origin

theorem FromItem.phrase (context : Context) :
    ∀ item : FromItem, Phrase .element (item.tokens context)
  | .source single => single.phrase context
  | .join body => body.phrase context
termination_by structural item => item

theorem FromItem.phraseEach (context : Context) :
    ∀ items : List FromItem, ∀ part ∈ FromItem.tokensEach context items, Phrase .element part
  | [] => by simp [FromItem.tokensEach]
  | item :: rest => by
    rw [FromItem.tokensEach, List.forall_mem_cons]
    exact ⟨item.phrase context, FromItem.phraseEach context rest⟩
termination_by structural items => items

theorem Join.phrase (context : Context) : ∀ join : Join, Phrase .element (join.tokens context)
  | ⟨left, right, kind, on, wrapped, _⟩ => by
    have sides : Phrase .element
        (left.tokens context ++ kind.tokens context.dialect ++ right.tokens context) :=
      .append (.append (left.phrase context) (kind.phrase context.dialect))
        (right.phrase context)
    have onClause := OptionalPhrase.introducedBy [.on] (by decide)
      (Condition.phraseOption context on)
    exact (sides.appendOptional onClause).parenthesizedIf wrapped
termination_by structural join => join

/-- A query is a phrase that holds whole clauses. -/
theorem Query.phrase (context : Context) : ∀ query : Query, Phrase .clause (query.tokens context)
  | .select body => body.phrase context
  | .setOperation ⟨operator, left, right, quantifier, _⟩ => by
    have operatorPart : Phrase .clause
        (.keyword operator.keyword :: setQuantifierTokens quantifier) :=
      .consOptional (by cases operator <;> rfl)
        (OptionalPhrase.setQuantifierTokens quantifier).toClause
    exact .append (.append ((left.phrase context).parenthesizedIf _) operatorPart)
      ((right.phrase context).parenthesizedIf _)
termination_by structural query => query

theorem Select.phrase (context : Context) :
    ∀ select : Select, Phrase .clause (select.tokens context)
  | ⟨quantifier, top, projections, items, _, conditions, groupKeys, groupConditions, sortKeys,
      _⟩ => by
    let inside := context.qualified true
    have selectPart : Phrase .clause (.keyword .select :: setQuantifierTokens quantifier) :=
      .consOptional rfl (OptionalPhrase.setQuantifierTokens quantifier).toClause
    have topPart := (Top.phraseOption inside top).toClause
    have projectionList : OptionalPhrase .clause
        (commaSeparated (Projection.tokensEach inside projections)) :=
      .commaSeparated fun part member =>
        (Projection.phraseEach inside projections part member).toClause
    have fromClause := OptionalPhrase.listClause [.from] (by decide)
      fun part member => (FromItem.phraseEach inside items part member).toClause
    have whereClause := OptionalPhrase.conditionClause .where rfl
      (Condition.phraseEach inside conditions)
    have groupClause := OptionalPhrase.listClause [.group, .by] (by decide)
      fun part member => (Expr.phraseEach inside groupKeys part member).toClause
    have havingClause := OptionalPhrase.conditionClause .having rfl
      (Condition.phraseEach inside groupConditions)
    have orderClause := OptionalPhrase.listClause [.order, .by] (by decide)
      fun part member => (SortKey.phraseEach inside sortKeys part member).toClause
    exact ((((((selectPart.appendOptional topPart).appendOptional
      projectionList).appendOptional fromClause).appendOptional whereClause).appendOptional
      groupClause).appendOptional havingClause).appendOptional orderClause
termination_by structural select => select

theorem Projection.phraseEach (context : Context) :
    ∀ projections : List Projection,
      ∀ part ∈ Projection.tokensEach context projections, Phrase .element part
  | [] => by simp [Projection.tokensEach]
  | ⟨expr, aliasName⟩ :: rest => by
    rw [Projection.tokensEach, List.forall_mem_cons]
    exact ⟨(expr.phrase context).ofValue.appendOptional (.aliasTokens _ aliasName),
      Projection.phraseEach context rest⟩
termination_by structural projections => projections

theorem Top.phraseOption (context : Context) :
    ∀ top : Option Top, OptionalPhrase .element (Top.tokensOption context top)
  | none => .nil
  | some ⟨count, percent, withTies⟩ => by
    have countPart : Phrase .element
        (.keyword .top :: count.tokens context ++ keywordIf percent .percent) :=
      (Phrase.cons rfl (count.phrase context).ofValue).appendOptional (.keywordIf percent rfl)
    have tiesPart : OptionalPhrase .element
        (if withTies then [.keyword .with, .keyword .ties] else []) := by
      cases withTies with
      | false => exact .nil
      | true => exact .inr (.cons rfl (.keyword .ties rfl))
    exact .inr (countPart.appendOptional tiesPart)
termination_by structural top => top

end

/-- The rows of an `INSERT` are a call of `VALUES` or a query between parentheses. -/
theorem InsertRows.phrase (context : Context) (rows : InsertRows) :
    Phrase .clause (rows.tokens context) := by
  cases rows with
  | list values =>
    have list : OptionalPhrase .clause (commaSeparated (Expr.tokensEach context values)) :=
      .commaSeparated fun part member => (Expr.phraseEach context values part member).ofValue
    exact .wordCall .values list.parenthesized
  | query body => exact .parentheses (body.phrase context)

/-- The columns of an `INSERT` are a list between parentheses, or nothing. -/
theorem columnListTokens_phrase (context : Context) (columns : List Column) :
    OptionalPhrase .clause (columnListTokens context columns) := by
  rw [columnListTokens]
  split
  · exact .nil
  · have phrases : ∀ part ∈ columns.map (Column.tokens context), Phrase .clause part := by
      intro part member
      obtain ⟨column, _, rfl⟩ := List.mem_map.1 member
      exact (column.phrase context).ofValue
    exact .inr (OptionalPhrase.commaSeparated phrases).parenthesized

/-- The setting of a column is an element of the list of an `UPDATE`. -/
theorem Setter.phrase (context : Context) (setter : Setter) :
    Phrase .element (setter.tokens context) :=
  .operation (by decide) (.inr ⟨.equal, rfl⟩) (setter.column.phrase context).ofValue
    (setter.value.phrase context).ofValue

/-- An `INSERT` is a phrase. -/
theorem Insert.phrase (context : Context) (insert : Insert) :
    Phrase .clause (insert.tokens context) := by
  have target : Phrase .clause
      ([.keyword .insert, .keyword .into] ++ insert.target.source.tokens context) :=
    .append (.cons rfl (.keyword .into rfl)) (insert.target.source.phrase context).toClause
  exact (target.appendOptional (columnListTokens_phrase context insert.columns)).append
    (insert.rows.phrase context)

/-- An `UPDATE` is a phrase, even if it sets nothing. -/
theorem Update.phrase (context : Context) (update : Update) :
    Phrase .clause (update.tokens context) := by
  have target : Phrase .clause (.keyword .update :: update.target.source.tokens context) :=
    .cons rfl (update.target.source.phrase context).toClause
  have setters : OptionalPhrase .clause
      (commaSeparated (update.setters.map (Setter.tokens context))) := by
    refine .commaSeparated fun part member => ?_
    obtain ⟨setter, _, rfl⟩ := List.mem_map.1 member
    exact (setter.phrase context).toClause
  have whereClause := OptionalPhrase.conditionClause .where rfl
    (Condition.phraseEach context update.conditions)
  exact (target.append (.consOptional rfl setters)).appendOptional whereClause

/-- A `DELETE` is a phrase. -/
theorem Delete.phrase (context : Context) (delete : Delete) :
    Phrase .clause (delete.tokens context) := by
  have target : Phrase .clause
      ([.keyword .delete, .keyword .from] ++ delete.target.source.tokens context) :=
    .append (.cons rfl (.keyword .from rfl)) (delete.target.source.phrase context).toClause
  have whereClause := OptionalPhrase.conditionClause .where rfl
    (Condition.phraseEach context delete.conditions)
  exact target.appendOptional whereClause

/-- Every statement is a phrase. -/
theorem Statement.phrase (dialect : Dialect) (statement : Statement) :
    Phrase .clause (statement.tokens dialect) := by
  cases statement with
  | query body => exact (body.phrase _).parenthesizedIf body.wrapped
  | insert body => exact body.phrase _
  | update body => exact body.phrase _
  | delete body => exact body.phrase _

end SqlTree
