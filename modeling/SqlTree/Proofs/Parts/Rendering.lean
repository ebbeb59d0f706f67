import SqlTree.Proofs.Parts.Wording

/-!
# Rendered parts

Every part of a tree is worded (`Expr.worded` and its kin): its tokens in a dialect and in
the terse one differ by the words of the parts in it, and these stand where `Worded` says
that they stand. The proof follows the rendering, one case for each form of the tree.
-/

namespace SqlTree

variable {dialect : Dialect}

/-- A value starts with the same token in every dialect. -/
theorem Expr.head?_tokens (dialect other : Dialect) (shown : Bool) (expr : Expr) :
    (expr.tokens ⟨dialect, shown⟩).head? = (expr.tokens ⟨other, shown⟩).head? := by
  cases expr with
  | number | text | null | placeholder | column | allColumns | arithmetic | negation | subquery =>
    rfl
  | call invocation =>
    obtain ⟨name, arguments, window⟩ := invocation
    rfl
  | matchCase choice =>
    obtain ⟨subject, branches, otherwise⟩ := choice
    rfl
  | conditionalCase choice =>
    obtain ⟨branches, otherwise⟩ := choice
    rfl

/-- A name with its qualifier holds no word of a part. -/
theorem isFixed_qualified (qualifier : Option Identifier) (text : String) :
    ∀ token ∈ qualifierTokens qualifier ++ [.identifier text], token.IsFixed := by
  have plain : ∀ text, (Token.identifier text).IsFixed :=
    fun _ => Token.isFixed_of_kind (by simp [Token.identifier])
  have dot : Token.dot.IsFixed := Token.isFixed_of_kind (by decide)
  cases qualifier <;> simp [qualifierTokens, plain, dot]

/-- A column holds no word of a part. -/
theorem Column.worded (dialect : Dialect) (shown : Bool) (column : Column) :
    Worded dialect [] (column.tokens ⟨dialect, shown⟩) (column.tokens ⟨dialect.terse, shown⟩) :=
  .same _ (isFixed_qualified _ _)

/-- The frame of a window holds no word of a part. -/
theorem isFixed_frameTokens (frame : Option Frame) :
    ∀ token ∈ frameTokens frame, token.IsFixed := by
  have word : ∀ {word : Keyword}, word ∉ partWords → (Token.keyword word).IsFixed :=
    Token.isFixed_keyword
  have number : ∀ text, (Token.literal text).IsFixed :=
    fun _ => Token.isFixed_of_kind (by simp [Token.literal])
  have bound : ∀ bound : FrameBound, ∀ token ∈ bound.tokens, token.IsFixed := by
    intro bound
    cases bound <;> simp [FrameBound.tokens, number, word, partWords]
  cases frame with
  | none => simp [frameTokens]
  | some frame =>
    obtain ⟨unit, extent⟩ := frame
    have unitFixed : (Token.keyword unit.keyword).IsFixed := word (by cases unit <;> decide)
    cases extent with
    | between first last =>
      simp only [frameTokens, FrameExtent.tokens, List.forall_mem_cons, List.forall_mem_append,
        List.cons_append]
      exact ⟨unitFixed, word (by decide), bound first, word (by decide), bound last⟩
    | startingAt first =>
      simp only [frameTokens, FrameExtent.tokens, List.forall_mem_cons]
      exact ⟨unitFixed, bound first⟩

/-- The words of a sort key hold no word of a part. -/
theorem isFixed_sortTokens (direction : Option Direction) (nulls : Option NullPlacement) :
    ∀ token ∈ sortTokens direction nulls, token.IsFixed := by
  have words : ∀ token ∈ sortTokens direction nulls,
      ∃ word : Keyword, word ∉ partWords ∧ token = .keyword word := by
    rcases direction with _ | _ | _ <;> rcases nulls with _ | _ | _ <;>
      simp [sortTokens, Direction.keyword, NullPlacement.keyword, partWords]
  intro token member
  obtain ⟨word, isOther, rfl⟩ := words token member
  exact Token.isFixed_keyword isOther

/-- The word of a set quantifier is no word of a part. -/
theorem isFixed_setQuantifierTokens (quantifier : Option SetQuantifier) :
    ∀ token ∈ setQuantifierTokens quantifier, token.IsFixed := by
  rcases quantifier with _ | _ | _ <;>
    simp [setQuantifierTokens, SetQuantifier.keyword, Token.isFixed_keyword, partWords]

/-- Another keyword on demand is no word of a part. -/
theorem isFixed_keywordIf (present : Bool) {word : Keyword} (isOther : word ∉ partWords) :
    ∀ token ∈ keywordIf present word, token.IsFixed := by
  cases present <;> simp [keywordIf, Token.isFixed_keyword isOther]

/-- An operator is no word of a part. -/
theorem isFixed_operator (text : String) : (Token.operator text).IsFixed :=
  Token.isFixed_of_kind (by simp [Token.operator])

/-- A callee is no word of a part. -/
theorem isFixed_callee (name : String) : (Token.callee name).IsFixed :=
  Token.isFixed_of_kind (by simp [Token.callee])

/-- A literal is no word of a part. -/
theorem isFixed_literal (text : String) : (Token.literal text).IsFixed :=
  Token.isFixed_of_kind (by simp [Token.literal])

section Lists

variable {shown : Bool} {exprs : List Expr} {keys : List SortKey} {conditions : List Condition}

/-- Values with commas between them are worded as each of them is. -/
theorem Worded.exprList
    (each : ∀ expr ∈ exprs, Worded dialect expr.parts (expr.tokens ⟨dialect, shown⟩)
      (expr.tokens ⟨dialect.terse, shown⟩)) :
    Worded dialect (Expr.partsEach exprs)
      (SqlTree.commaSeparated (Expr.tokensEach ⟨dialect, shown⟩ exprs))
      (SqlTree.commaSeparated (Expr.tokensEach ⟨dialect.terse, shown⟩ exprs)) := by
  rw [Expr.partsEach_eq_flatMap, Expr.tokensEach_eq_map, Expr.tokensEach_eq_map]
  exact .commaSeparated each

/-- A clause that lists values is worded as each of them is. -/
theorem Worded.exprClause {words : List Keyword} (others : ∀ word ∈ words, word ∉ partWords)
    (each : ∀ expr ∈ exprs, Worded dialect expr.parts (expr.tokens ⟨dialect, shown⟩)
      (expr.tokens ⟨dialect.terse, shown⟩)) :
    Worded dialect (Expr.partsEach exprs)
      (SqlTree.listClause words (Expr.tokensEach ⟨dialect, shown⟩ exprs))
      (SqlTree.listClause words (Expr.tokensEach ⟨dialect.terse, shown⟩ exprs)) := by
  rw [Expr.partsEach_eq_flatMap, Expr.tokensEach_eq_map, Expr.tokensEach_eq_map]
  exact .listClause others each

/-- A clause of sort keys is worded as each of them is. -/
theorem Worded.orderClause
    (each : ∀ key ∈ keys, Worded dialect key.expr.parts (key.tokens ⟨dialect, shown⟩)
      (key.tokens ⟨dialect.terse, shown⟩)) :
    Worded dialect (SortKey.partsEach keys)
      (SqlTree.listClause [.order, .by] (SortKey.tokensEach ⟨dialect, shown⟩ keys))
      (SqlTree.listClause [.order, .by] (SortKey.tokensEach ⟨dialect.terse, shown⟩ keys)) := by
  rw [SortKey.partsEach_eq_flatMap, SortKey.tokensEach_eq_map, SortKey.tokensEach_eq_map]
  exact .listClause (by decide) each

/-- Conditions under a connective are worded as each of them is. -/
theorem Worded.conditionList {word : Keyword} (isOther : word ∉ partWords)
    (each : ∀ condition ∈ conditions, Worded dialect condition.parts
      (condition.tokens ⟨dialect, shown⟩) (condition.tokens ⟨dialect.terse, shown⟩)) :
    Worded dialect (Condition.partsEach conditions)
      (SqlTree.joinedBy word (Condition.tokensEach ⟨dialect, shown⟩ conditions))
      (SqlTree.joinedBy word (Condition.tokensEach ⟨dialect.terse, shown⟩ conditions)) := by
  rw [Condition.partsEach_eq_flatMap, Condition.tokensEach_eq_map, Condition.tokensEach_eq_map]
  exact .joinedBy isOther each

end Lists

mutual

/-- A value is worded as its parts are. -/
theorem Expr.worded (dialect : Dialect) (shown : Bool) : (expr : Expr) →
    Worded dialect expr.parts (expr.tokens ⟨dialect, shown⟩) (expr.tokens ⟨dialect.terse, shown⟩)
  | .number _ | .text _ | .placeholder _ => .single (isFixed_literal _)
  | .null => .single (Token.isFixed_keyword (by decide))
  | .column reference => reference.worded dialect shown
  | .allColumns qualifier => .same _ (isFixed_qualified qualifier "*")
  | .call invocation => invocation.worded dialect shown
  | .arithmetic operator left right =>
    ((left.worded dialect shown).append
      ((right.worded dialect shown).cons (isFixed_operator operator.text))).parenthesized
  | .negation operand =>
    (operand.worded dialect shown).negated (operand.head?_tokens dialect dialect.terse shown)
  | .matchCase ⟨subject, branches, otherwise⟩ =>
    .choice (subject.worded dialect shown) (MatchBranch.wordedEach dialect shown branches)
      (Expr.wordedOption dialect shown otherwise)
  | .conditionalCase ⟨branches, otherwise⟩ =>
    .choice .nil (ConditionalBranch.wordedEach dialect shown branches)
      (Expr.wordedOption dialect shown otherwise)
  | .subquery body => (body.worded dialect shown).parenthesized
termination_by structural expr => expr

theorem Expr.wordedEach (dialect : Dialect) (shown : Bool) : (exprs : List Expr) →
    ∀ expr ∈ exprs, Worded dialect expr.parts (expr.tokens ⟨dialect, shown⟩)
      (expr.tokens ⟨dialect.terse, shown⟩)
  | [] => by simp
  | expr :: rest => by
    rw [List.forall_mem_cons]
    exact ⟨expr.worded dialect shown, Expr.wordedEach dialect shown rest⟩
termination_by structural exprs => exprs

theorem Expr.wordedOption (dialect : Dialect) (shown : Bool) : (expr : Option Expr) →
    Worded dialect (Expr.partsOption expr)
      (optionTokens .else (Expr.tokensOption ⟨dialect, shown⟩ expr))
      (optionTokens .else (Expr.tokensOption ⟨dialect.terse, shown⟩ expr))
  | none => .nil
  | some expr => (expr.worded dialect shown).keyword (by decide)
termination_by structural expr => expr

theorem MatchBranch.wordedEach (dialect : Dialect) (shown : Bool) :
    (branches : List MatchBranch) → Worded dialect (MatchBranch.partsEach branches)
      (MatchBranch.tokensEach ⟨dialect, shown⟩ branches).flatten
      (MatchBranch.tokensEach ⟨dialect.terse, shown⟩ branches).flatten
  | [] => .nil
  | ⟨value, result⟩ :: rest =>
    (Worded.matchBranch (value.phrase _).ne_nil (value.worded dialect shown)
      (result.worded dialect shown)).append (MatchBranch.wordedEach dialect shown rest)
termination_by structural branches => branches

theorem ConditionalBranch.wordedEach (dialect : Dialect) (shown : Bool) :
    (branches : List ConditionalBranch) → Worded dialect (ConditionalBranch.partsEach branches)
      (ConditionalBranch.tokensEach ⟨dialect, shown⟩ branches).flatten
      (ConditionalBranch.tokensEach ⟨dialect.terse, shown⟩ branches).flatten
  | [] => .nil
  | ⟨condition, result⟩ :: rest =>
    (Worded.branch ⟨condition, result⟩ (condition.tokens_eq_nil_iff _)
      (condition.worded dialect shown) (result.worded dialect shown)).append
      (ConditionalBranch.wordedEach dialect shown rest)
termination_by structural branches => branches

theorem Call.worded (dialect : Dialect) (shown : Bool) : (call : Call) →
    Worded dialect call.parts (call.tokens ⟨dialect, shown⟩) (call.tokens ⟨dialect.terse, shown⟩)
  | ⟨name, arguments, window⟩ =>
    ((Worded.exprList (Expr.wordedEach dialect shown arguments)).parenthesized.cons
      (isFixed_callee name.sql)).append (Window.wordedOption dialect shown window)
termination_by structural call => call

theorem Window.wordedOption (dialect : Dialect) (shown : Bool) : (window : Option Window) →
    Worded dialect (Window.partsOption window)
      (optionTokens .over ((Window.tokensOption ⟨dialect, shown⟩ window).map parenthesized))
      (optionTokens .over ((Window.tokensOption ⟨dialect.terse, shown⟩ window).map parenthesized))
  | none => .nil
  | some window => (window.worded dialect shown).parenthesized.keyword (by decide)
termination_by structural window => window

theorem Window.worded (dialect : Dialect) (shown : Bool) : (window : Window) →
    Worded dialect window.parts (window.tokens ⟨dialect, shown⟩)
      (window.tokens ⟨dialect.terse, shown⟩)
  | ⟨partitions, sortKeys, frame⟩ =>
    ((Worded.exprClause (by decide) (Expr.wordedEach dialect shown partitions)).append
      (Worded.orderClause (SortKey.wordedEach dialect shown sortKeys))).concat
        (isFixed_frameTokens frame)
termination_by structural window => window

theorem SortKey.wordedEach (dialect : Dialect) (shown : Bool) : (keys : List SortKey) →
    ∀ key ∈ keys, Worded dialect key.expr.parts (key.tokens ⟨dialect, shown⟩)
      (key.tokens ⟨dialect.terse, shown⟩)
  | [] => by simp
  | ⟨expr, direction, nulls⟩ :: rest => by
    rw [List.forall_mem_cons]
    exact ⟨(expr.worded dialect shown).concat (isFixed_sortTokens direction nulls),
      SortKey.wordedEach dialect shown rest⟩
termination_by structural keys => keys

/-- A condition is worded as its parts are. -/
theorem Condition.worded (dialect : Dialect) (shown : Bool) : (condition : Condition) →
    Worded dialect condition.parts (condition.tokens ⟨dialect, shown⟩)
      (condition.tokens ⟨dialect.terse, shown⟩)
  | ⟨predicate, wrapped⟩ => by
    have inside := predicate.worded dialect shown
    rw [Condition.tokens, Condition.tokens]
    cases first : predicate.tokens ⟨dialect, shown⟩ with
    | nil =>
      have alsoNil := inside.nil_iff.1 first
      rw [first, alsoNil] at inside
      rw [alsoNil]
      exact inside
    | cons token rest =>
      have notNil : predicate.tokens ⟨dialect.terse, shown⟩ ≠ [] := by
        rw [Ne, ← inside.nil_iff, first]
        simp
      obtain ⟨other, others, second⟩ := List.exists_cons_of_ne_nil notNil
      rw [first, second] at inside
      rw [second]
      exact inside.parenthesizedIf wrapped
termination_by structural condition => condition

theorem Condition.wordedEach (dialect : Dialect) (shown : Bool) :
    (conditions : List Condition) → ∀ condition ∈ conditions,
      Worded dialect condition.parts (condition.tokens ⟨dialect, shown⟩)
        (condition.tokens ⟨dialect.terse, shown⟩)
  | [] => by simp
  | condition :: rest => by
    rw [List.forall_mem_cons]
    exact ⟨condition.worded dialect shown, Condition.wordedEach dialect shown rest⟩
termination_by structural conditions => conditions

theorem Condition.wordedOption (dialect : Dialect) (shown : Bool) :
    (condition : Option Condition) → Worded dialect (Condition.partsOption condition)
      (Condition.tokensOption ⟨dialect, shown⟩ condition)
      (Condition.tokensOption ⟨dialect.terse, shown⟩ condition)
  | none => .nil
  | some condition => condition.worded dialect shown
termination_by structural condition => condition

theorem Predicate.worded (dialect : Dialect) (shown : Bool) : (predicate : Predicate) →
    Worded dialect predicate.parts (predicate.tokens ⟨dialect, shown⟩)
      (predicate.tokens ⟨dialect.terse, shown⟩)
  | .comparison left operator right =>
    (left.worded dialect shown).append
      ((right.worded dialect shown).cons (isFixed_operator operator.text))
  | .between subject low high negated =>
    (((subject.worded dialect shown).concat (isFixed_keywordIf negated (by decide))).append
      ((low.worded dialect shown).keyword (by decide))).append
        ((high.worded dialect shown).keyword (by decide))
  | .like subject pattern negated =>
    ((subject.worded dialect shown).concat (isFixed_keywordIf negated (by decide))).append
      ((pattern.worded dialect shown).keyword (by decide))
  | .isNull subject negated => by
    have isFixed : ∀ token ∈ Token.keyword .is :: keywordIf negated .not, token.IsFixed :=
      List.forall_mem_cons.2 ⟨Token.isFixed_keyword (by decide),
        isFixed_keywordIf negated (by decide)⟩
    exact ((subject.worded dialect shown).concat isFixed).concat
      (by simpa using Token.isFixed_keyword (by decide))
  | .isIn subject values negated =>
    ((subject.worded dialect shown).concat (isFixed_keywordIf negated (by decide))).append
      ((values.worded dialect shown).keyword (by decide))
  | .existence query => (query.worded dialect shown).parenthesized.cons (isFixed_callee _)
  | .quantified subject operator quantifier values =>
    (subject.worded dialect shown).append
      (((values.worded dialect shown).keyword (by cases quantifier <;> decide)).cons
        (isFixed_operator operator.text))
  | .group ⟨connective, conditions⟩ =>
    .conditionList (by cases connective <;> decide) (Condition.wordedEach dialect shown conditions)
  | .negation condition => (condition.worded dialect shown).introducedBy (by decide)
termination_by structural predicate => predicate

theorem Values.worded (dialect : Dialect) (shown : Bool) : (values : Values) →
    Worded dialect values.parts (values.tokens ⟨dialect, shown⟩)
      (values.tokens ⟨dialect.terse, shown⟩)
  | .list values => (Worded.exprList (Expr.wordedEach dialect shown values)).parenthesized
  | .query body => (body.worded dialect shown).parenthesized
  | .call invocation => invocation.worded dialect shown
termination_by structural values => values

theorem Source.worded (dialect : Dialect) (shown : Bool) : (source : Source) →
    Worded dialect source.parts (source.tokens ⟨dialect, shown⟩)
      (source.tokens ⟨dialect.terse, shown⟩)
  | ⟨origin, aliasName⟩ => (origin.worded dialect shown).append (.source ⟨origin, aliasName⟩)
termination_by structural source => source

theorem Origin.worded (dialect : Dialect) (shown : Bool) : (origin : Origin) →
    Worded dialect origin.parts (origin.tokens ⟨dialect, shown⟩)
      (origin.tokens ⟨dialect.terse, shown⟩)
  | .table name => .same _ (isFixed_qualified none name.sql)
  | .call invocation => invocation.worded dialect shown
  | .query body => (body.worded dialect shown).parenthesized
termination_by structural origin => origin

theorem FromItem.worded (dialect : Dialect) (shown : Bool) : (item : FromItem) →
    Worded dialect item.parts (item.tokens ⟨dialect, shown⟩) (item.tokens ⟨dialect.terse, shown⟩)
  | .source single => single.worded dialect shown
  | .join body => body.worded dialect shown
termination_by structural item => item

theorem FromItem.wordedEach (dialect : Dialect) (shown : Bool) : (items : List FromItem) →
    ∀ item ∈ items, Worded dialect item.parts (item.tokens ⟨dialect, shown⟩)
      (item.tokens ⟨dialect.terse, shown⟩)
  | [] => by simp
  | item :: rest => by
    rw [List.forall_mem_cons]
    exact ⟨item.worded dialect shown, FromItem.wordedEach dialect shown rest⟩
termination_by structural items => items

theorem Join.worded (dialect : Dialect) (shown : Bool) : (join : Join) →
    Worded dialect join.parts (join.tokens ⟨dialect, shown⟩) (join.tokens ⟨dialect.terse, shown⟩)
  | ⟨left, right, kind, on, wrapped, scope⟩ =>
    ((((left.worded dialect shown).append (.join ⟨left, right, kind, on, wrapped, scope⟩)).append
      (right.worded dialect shown)).append
        ((Condition.wordedOption dialect shown on).introducedBy (by decide))).parenthesizedIf
          wrapped
termination_by structural join => join

/-- A query is worded as its parts are. -/
theorem Query.worded (dialect : Dialect) (shown : Bool) : (query : Query) →
    Worded dialect query.parts (query.tokens ⟨dialect, shown⟩)
      (query.tokens ⟨dialect.terse, shown⟩)
  | .select body => body.worded dialect shown
  | .setOperation ⟨operator, left, right, quantifier, _⟩ => by
    have operatorFixed : ∀ token ∈ Token.keyword operator.keyword ::
        setQuantifierTokens quantifier, token.IsFixed :=
      List.forall_mem_cons.2 ⟨Token.isFixed_keyword (by cases operator <;> decide),
        isFixed_setQuantifierTokens quantifier⟩
    exact (((left.worded dialect shown).parenthesizedIf _).concat operatorFixed).append
      ((right.worded dialect shown).parenthesizedIf _)
termination_by structural query => query

theorem Select.worded (dialect : Dialect) (shown : Bool) : (select : Select) →
    Worded dialect select.parts (select.tokens ⟨dialect, shown⟩)
      (select.tokens ⟨dialect.terse, shown⟩)
  | ⟨quantifier, top, projections, items, _, conditions, groupKeys, groupConditions, sortKeys,
      _⟩ => by
    have start : ∀ token ∈ Token.keyword .select :: setQuantifierTokens quantifier,
        token.IsFixed :=
      List.forall_mem_cons.2 ⟨Token.isFixed_keyword (by decide),
        isFixed_setQuantifierTokens quantifier⟩
    have limit := (Top.wordedOption dialect true top).prepend start
    have list : Worded dialect (Projection.partsEach projections)
        (commaSeparated (Projection.tokensEach ⟨dialect, true⟩ projections))
        (commaSeparated (Projection.tokensEach ⟨dialect.terse, true⟩ projections)) := by
      rw [Projection.partsEach_eq_flatMap, Projection.tokensEach_eq_map,
        Projection.tokensEach_eq_map]
      exact .commaSeparated (Projection.wordedEach dialect true projections)
    have fromClause : Worded dialect (FromItem.partsEach items)
        (SqlTree.listClause [.from] (FromItem.tokensEach ⟨dialect, true⟩ items))
        (SqlTree.listClause [.from] (FromItem.tokensEach ⟨dialect.terse, true⟩ items)) := by
      rw [FromItem.partsEach_eq_flatMap, FromItem.tokensEach_eq_map, FromItem.tokensEach_eq_map]
      exact .listClause (by decide) (FromItem.wordedEach dialect true items)
    have isWhere : ∀ word ∈ [Keyword.where], word ∉ partWords := by decide
    have isGroup : ∀ word ∈ [Keyword.group, .by], word ∉ partWords := by decide
    have isHaving : ∀ word ∈ [Keyword.having], word ∉ partWords := by decide
    have isAnd : Keyword.and ∉ partWords := by decide
    have whereClause := (Worded.conditionList isAnd
      (Condition.wordedEach dialect true conditions)).introducedBy isWhere
    have groupClause := Worded.exprClause isGroup (Expr.wordedEach dialect true groupKeys)
    have havingClause := (Worded.conditionList isAnd
      (Condition.wordedEach dialect true groupConditions)).introducedBy isHaving
    have orderClause := Worded.orderClause (SortKey.wordedEach dialect true sortKeys)
    exact (((((limit.append list).append fromClause).append whereClause).append
      groupClause).append havingClause).append orderClause
termination_by structural select => select

theorem Projection.wordedEach (dialect : Dialect) (shown : Bool) :
    (projections : List Projection) → ∀ projection ∈ projections,
      Worded dialect (projection.expr.parts ++ [.projection projection])
        (projection.expr.tokens ⟨dialect, shown⟩ ++
          aliasTokens dialect.aliasProjectionsUsingAs projection.aliasName)
        (projection.expr.tokens ⟨dialect.terse, shown⟩ ++ aliasTokens false projection.aliasName)
  | [] => by simp
  | ⟨expr, aliasName⟩ :: rest => by
    rw [List.forall_mem_cons]
    exact ⟨(expr.worded dialect shown).append (.projection ⟨expr, aliasName⟩),
      Projection.wordedEach dialect shown rest⟩
termination_by structural projections => projections

theorem Top.wordedOption (dialect : Dialect) (shown : Bool) : (top : Option Top) →
    Worded dialect (Top.partsOption top) (Top.tokensOption ⟨dialect, shown⟩ top)
      (Top.tokensOption ⟨dialect.terse, shown⟩ top)
  | none => .nil
  | some ⟨count, percent, withTies⟩ => by
    have ties : ∀ token ∈ (if withTies then [Token.keyword .with, .keyword .ties] else []),
        token.IsFixed := by
      cases withTies <;> simp [Token.isFixed_keyword, partWords]
    exact (((count.worded dialect shown).keyword (by decide)).concat
      (isFixed_keywordIf percent (by decide))).concat ties
termination_by structural top => top

end

/-- The rows of an `INSERT` are worded as their parts are. -/
theorem InsertRows.worded (dialect : Dialect) (shown : Bool) (rows : InsertRows) :
    Worded dialect rows.parts (rows.tokens ⟨dialect, shown⟩)
      (rows.tokens ⟨dialect.terse, shown⟩) := by
  cases rows with
  | list values =>
    exact (Worded.exprList (Expr.wordedEach dialect shown values)).parenthesized.cons
      (isFixed_callee _)
  | query body => exact (body.worded dialect shown).parenthesized

/-- A list of columns holds no word of a part. -/
theorem columnListTokens_worded (dialect : Dialect) (shown : Bool) (columns : List Column) :
    Worded dialect [] (columnListTokens ⟨dialect, shown⟩ columns)
      (columnListTokens ⟨dialect.terse, shown⟩ columns) := by
  rw [columnListTokens, columnListTokens]
  split
  · exact .nil
  · have each : ∀ column ∈ columns, Worded dialect [] (column.tokens ⟨dialect, shown⟩)
        (column.tokens ⟨dialect.terse, shown⟩) :=
      fun column _ => column.worded dialect shown
    have list := Worded.commaSeparated each
    rw [List.flatMap_eq_nil_iff.2 (by simp)] at list
    exact list.parenthesized

/-- A clause of conditions is worded as their parts are. -/
theorem whereClause_worded (dialect : Dialect) (shown : Bool) (conditions : List Condition) :
    Worded dialect (Condition.partsEach conditions) (whereClause ⟨dialect, shown⟩ conditions)
      (whereClause ⟨dialect.terse, shown⟩ conditions) :=
  (Worded.conditionList (by decide) (Condition.wordedEach dialect shown conditions)).introducedBy
    (by decide)

/-- Every statement is worded as its parts are. -/
theorem Statement.worded (dialect : Dialect) (statement : Statement) :
    Worded dialect statement.parts (statement.tokens dialect)
      (statement.tokens dialect.terse) := by
  cases statement with
  | query body => exact (body.worded dialect true).parenthesizedIf _
  | insert body =>
    let shown := dialect.qualifyInsertColumns
    have start : ∀ token ∈ [Token.keyword .insert, .keyword .into], token.IsFixed := by
      simp [Token.isFixed_keyword, partWords]
    have target := (body.target.source.worded dialect shown).prepend start
    have columns := target.append (columnListTokens_worded dialect shown body.columns)
    rw [List.append_nil] at columns
    exact columns.append (body.rows.worded dialect shown)
  | update body =>
    let shown := dialect.qualifyUpdateColumns
    have isUpdate : Keyword.update ∉ partWords := by decide
    have isSet : Keyword.set ∉ partWords := by decide
    have target := (body.target.source.worded dialect shown).keyword isUpdate
    have setter : ∀ setter ∈ body.setters, Worded dialect setter.value.parts
        (setter.tokens ⟨dialect, shown⟩) (setter.tokens ⟨dialect.terse, shown⟩) :=
      fun setter _ => (setter.column.worded dialect shown).append
        ((setter.value.worded dialect shown).cons (isFixed_operator "="))
    have setters := (Worded.commaSeparated setter).keyword isSet
    have values : body.setters.flatMap (fun setter => setter.value.parts) =
        Expr.partsEach (body.setters.map Setter.value) := by
      rw [Expr.partsEach_eq_flatMap, List.flatMap_map]
    rw [values] at setters
    exact (target.append setters).append (whereClause_worded dialect shown body.conditions)
  | delete body =>
    let shown := dialect.qualifyDeleteColumns
    have start : ∀ token ∈ [Token.keyword .delete, .keyword .from], token.IsFixed := by
      simp [Token.isFixed_keyword, partWords]
    have target := (body.target.source.worded dialect shown).prepend start
    exact target.append (whereClause_worded dialect shown body.conditions)

end SqlTree
