import SqlTree.Proofs.OperatorChain
import SqlTree.Proofs.Places
import SqlTree.Proofs.Qualification

/-!
# Rendered places

What is rendered around the place of a query does not depend on the query that is there
(`Statement.independent`). This is not obvious where rendering looks at what it is given:
at whether there are tokens at all, or at how they start. But a query always has tokens,
and they start with `SELECT` or with a parenthesis.
-/

namespace SqlTree

open Place

/-- The parenthesis in front of tokens that are put between parentheses on demand. -/
def openingIf (wrapped : Bool) : List Token :=
  if wrapped then [.opening] else []

/-- The parenthesis behind tokens that are put between parentheses on demand. -/
def closingIf (wrapped : Bool) : List Token :=
  if wrapped then [.closing] else []

/-- Parentheses on demand stand around the tokens. -/
theorem parenthesizedIf_eq (wrapped : Bool) (tokens : List Token) :
    parenthesizedIf wrapped tokens = openingIf wrapped ++ tokens ++ closingIf wrapped := by
  cases wrapped <;> simp [parenthesizedIf, parenthesized, openingIf, closingIf]

/-- Whether a part with tokens stands between others that do not depend on it, if parts are
put together like this. -/
def Surrounds (whole : List (List Token) → List Token) : Prop :=
  ∀ fronts backs, ∃ left right, ∀ part ≠ [],
    whole (fronts ++ part :: backs) = left ++ part ++ right

namespace Surrounds

variable {whole : List (List Token) → List Token}

/-- Another part in front of the others. -/
theorem behind (surrounds : Surrounds whole) (front : List Token) :
    Surrounds fun parts => whole (front :: parts) :=
  fun fronts backs => surrounds (front :: fronts) backs

/-- Words in front of all parts. -/
theorem introducedBy (surrounds : Surrounds whole) (words : List Keyword) :
    Surrounds fun parts => introducedBy words (whole parts) := by
  intro fronts backs
  obtain ⟨left, right, same⟩ := surrounds fronts backs
  refine ⟨words.map Token.keyword ++ left, right, fun part notNil => ?_⟩
  simp [SqlTree.introducedBy, same part notNil, notNil]

/-- Parts, one after the other. -/
theorem flatten : Surrounds List.flatten :=
  fun fronts backs => ⟨fronts.flatten, backs.flatten, fun part _ => by simp⟩

/-- Parts with a token between two of them. -/
theorem intercalate (separator : Token) : Surrounds [separator].intercalate := by
  intro fronts backs
  induction fronts with
  | nil =>
    cases backs with
    | nil => exact ⟨[], [], fun part _ => by simp⟩
    | cons next rest =>
      exact ⟨[], separator :: [separator].intercalate (next :: rest), fun part _ => by simp⟩
  | cons front rest inductionHypothesis =>
    obtain ⟨left, right, same⟩ := inductionHypothesis
    refine ⟨front ++ separator :: left, right, fun part notNil => ?_⟩
    obtain ⟨next, others, shape⟩ : ∃ next others, rest ++ part :: backs = next :: others :=
      List.exists_cons_of_ne_nil (by simp)
    rw [List.cons_append, shape, List.intercalate_cons_cons, ← shape, same part notNil]
    simp

/-- Parts with commas between them. -/
theorem commaSeparated : Surrounds commaSeparated :=
  intercalate .comma

/-- Parts with commas between them, after the words of a clause. -/
theorem listClause (words : List Keyword) : Surrounds (listClause words) := by
  intro fronts backs
  obtain ⟨left, right, same⟩ := commaSeparated fronts backs
  refine ⟨words.map Token.keyword ++ left, right, fun part notNil => ?_⟩
  simp [SqlTree.listClause, same part notNil]

/-- Parts that are not empty, with a word between two of them. -/
theorem joinedBy (word : Keyword) : Surrounds (joinedBy word) := by
  intro fronts backs
  obtain ⟨left, right, same⟩ :=
    intercalate (.keyword word) (fronts.filter (· ≠ [])) (backs.filter (· ≠ []))
  refine ⟨left, right, fun part notNil => ?_⟩
  rw [SqlTree.joinedBy, List.filter_append, List.filter_cons_of_pos (by simpa using notNil)]
  exact same part notNil

end Surrounds

/-- The tokens of a query at a place. -/
def Place.tokens {Tree : Type} (dialect : Dialect) (place : Place Tree) (query : Query) :
    List Token :=
  parenthesizedIf (place.encloses || query.wrapped) (query.tokens ⟨dialect, true⟩)

/-- The places are in the tree, and what is rendered around each of them does not depend
on the query that is put there. -/
def Independent {Tree : Type} (dialect : Dialect) (places : List (Place Tree))
    (render : Tree → List Token) (tree : Tree) : Prop :=
  ∀ place ∈ places, place.put place.query = tree ∧
    ∃ before after, ∀ query,
      render (place.put query) = before ++ place.tokens dialect query ++ after

variable {Tree Whole : Type} {dialect : Dialect}

/-- A query at a place starts with `SELECT` or with a parenthesis. -/
theorem Place.head?_tokens (dialect : Dialect) (place : Place Tree) (query : Query) :
    (place.tokens dialect query).head? = some (.keyword .select) ∨
      (place.tokens dialect query).head? = some .opening := by
  cases encloses : place.encloses with
  | false =>
    rw [tokens, encloses, Bool.false_or]
    exact query.head?_operandTokens ⟨dialect, true⟩
  | true => exact .inr (by simp [tokens, encloses, parenthesizedIf, parenthesized])

/-- A query at a place has tokens. -/
theorem Place.tokens_ne_nil (dialect : Dialect) (place : Place Tree) (query : Query) :
    place.tokens dialect query ≠ [] := by
  intro empty
  simpa [empty] using place.head?_tokens dialect query

namespace Independent

variable {render : Tree → List Token} {renderWhole : Whole → List Token} {tree : Tree}
  {put : Tree → Whole} {places more : List (Place Tree)}

/-- There are no places. -/
theorem nil : Independent dialect [] render tree := by
  simp [Independent]

/-- Places of two parts of a tree. -/
theorem append (first : Independent dialect places render tree)
    (second : Independent dialect more render tree) :
    Independent dialect (places ++ more) render tree :=
  List.forall_mem_append.2 ⟨first, second⟩

/-- More tokens around those of a tree are not any that depend on a query. -/
theorem around {more : Tree → List Token} (part : Independent dialect places render tree)
    (left right : List Token)
    (same : ∀ tree, render tree ≠ [] → more tree = left ++ render tree ++ right) :
    Independent dialect places more tree := by
  intro place member
  obtain ⟨here, before, after, around⟩ := part place member
  refine ⟨here, left ++ before, after ++ right, fun query => ?_⟩
  have notNil : render (place.put query) ≠ [] := by
    simp [around, place.tokens_ne_nil dialect]
  rw [same _ notNil, around]
  simp only [List.append_assoc]

/-- The places of a part are places of the whole if this has the tokens of the part
between others. -/
theorem within (part : Independent dialect places render tree) (left right : List Token)
    (same : ∀ tree, render tree ≠ [] → renderWhole (put tree) = left ++ render tree ++ right) :
    Independent dialect (within put places) renderWhole (put tree) := by
  intro place member
  obtain ⟨inner, isPlace, rfl⟩ := List.mem_map.1 member
  obtain ⟨here, independent⟩ := part.around left right same inner isPlace
  exact ⟨congrArg put here, independent⟩

/-- Words in front of tokens do not depend on what the tokens are. -/
theorem introducedBy (part : Independent dialect places render tree) (words : List Keyword) :
    Independent dialect places (fun tree => introducedBy words (render tree)) tree :=
  part.around (words.map Token.keyword) [] fun tree notNil => by
    simp [SqlTree.introducedBy, notNil]

/-- Whether an operand needs parentheses after a minus sign does not depend on the query
in it. -/
theorem negated (part : Independent dialect places render tree) :
    Independent dialect places (fun tree => negatedTokens (render tree)) tree := by
  intro place member
  obtain ⟨here, before, after, around⟩ := part place member
  let minus? (tokens : List Token) : Bool :=
    tokens.head?.any fun token => startsWithMinus token.text
  have sameHead : ∀ query, minus? (render (place.put query)) = minus? before := by
    intro query
    rw [around, List.append_assoc]
    cases before with
    | nil =>
      -- The operand starts with the query itself, which starts with no minus sign.
      have isPlain : startsWithMinus (Token.keyword .select).text = false ∧
          startsWithMinus Token.opening.text = false := by decide
      simp only [minus?, List.nil_append, List.head?_append]
      rcases place.head?_tokens dialect query with isHead | isHead <;>
        simp [isHead, isPlain]
    | cons token rest => rfl
  refine ⟨here, .minus :: openingIf (minus? before) ++ before,
    after ++ closingIf (minus? before), fun query => ?_⟩
  let operand := render (place.put query)
  calc negatedTokens operand
    _ = .minus :: SqlTree.parenthesizedIf (minus? operand) operand := rfl
    _ = .minus :: openingIf (minus? before) ++ before ++ place.tokens dialect query ++
        (after ++ closingIf (minus? before)) := by
      have rendered : operand = before ++ place.tokens dialect query ++ after := around query
      rw [parenthesizedIf_eq, sameHead query, rendered]
      simp only [List.append_assoc, List.cons_append]

/-- Parentheses on demand do not depend on what is between them. -/
theorem parenthesizedIf (part : Independent dialect places render tree) (wrapped : Bool) :
    Independent dialect places (fun tree => parenthesizedIf wrapped (render tree)) tree :=
  part.around (openingIf wrapped) (closingIf wrapped) fun _ _ => parenthesizedIf_eq ..

/-- The place of a query between parentheses, and the places in the query. -/
theorem enclosed {put : Query → Whole} {query : Query}
    (inside : Independent dialect query.places (Query.tokens ⟨dialect, true⟩) query)
    (left right : List Token) {shown : Bool}
    (same : ∀ query, renderWhole (put query) =
      left ++ parenthesized (query.tokens ⟨dialect, shown⟩) ++ right) :
    Independent dialect (enclosed put query query.places) renderWhole (put query) := by
  have alike : ∀ query : Query, query.tokens ⟨dialect, shown⟩ = query.tokens ⟨dialect, true⟩ :=
    Query.tokens_eq_of_sameWording (Dialect.SameWording.refl dialect) shown true
  refine List.forall_mem_cons.2 ⟨⟨rfl, left, right, fun query => ?_⟩, ?_⟩
  · rw [same, alike]
    rfl
  · exact (inside.parenthesizedIf true).within left right fun query _ => by
      rw [same, alike]
      rfl

end Independent

/-- What is put at the places in a `SELECT` does not decide whether it asks for
parentheses. -/
theorem Select.wrapped_put (select : Select) : ∀ place ∈ select.places, ∀ other,
    (place.put other).wrapped = select.wrapped := by
  obtain ⟨quantifier, top, projections, items, scope, conditions, groupKeys, groupConditions,
    sortKeys, wrapped⟩ := select
  simp only [Select.places, List.forall_mem_append]
  refine ⟨⟨⟨⟨⟨⟨?_, ?_⟩, ?_⟩, ?_⟩, ?_⟩, ?_⟩, ?_⟩
  all_goals
    intro place member other
    obtain ⟨inner, -, rfl⟩ := List.mem_map.1 member
    rfl

/-- What is put at the places in a query does not decide whether the query asks for
parentheses. -/
theorem Query.wrapped_put (query : Query) : ∀ place ∈ query.places, ∀ other,
    (place.put other).wrapped = query.wrapped := by
  cases query with
  | select body =>
    intro place member other
    obtain ⟨inner, isPlace, rfl⟩ := List.mem_map.1 member
    exact body.wrapped_put inner isPlace other
  | setOperation body =>
    obtain ⟨operator, left, right, quantifier, wrapped⟩ := body
    intro place member other
    simp only [Query.places, Place.asked, Place.within, List.mem_append, List.mem_cons,
      List.mem_map] at member
    rcases member with (rfl | ⟨inner, -, rfl⟩) | (rfl | ⟨inner, -, rfl⟩) <;> rfl

namespace Independent

variable {render : Tree → List Token} {renderWhole : Whole → List Token} {tree : Tree}
  {put : Tree → Whole} {places more : List (Place Tree)}

/-- The place of a query that gets the parentheses it asks for, and the places in the
query. -/
theorem asked {put : Query → Whole} {query : Query}
    (inside : Independent dialect query.places (Query.tokens ⟨dialect, true⟩) query)
    (left right : List Token)
    (same : ∀ query, renderWhole (put query) =
      left ++ query.operandTokens ⟨dialect, true⟩ ++ right) :
    Independent dialect (asked put query query.places) renderWhole (put query) := by
  refine List.forall_mem_cons.2 ⟨⟨rfl, left, right, same⟩, ?_⟩
  intro place member
  obtain ⟨inner, isPlace, rfl⟩ := List.mem_map.1 member
  obtain ⟨here, before, after, around⟩ := inside.parenthesizedIf query.wrapped inner isPlace
  refine ⟨congrArg put here, left ++ before, after ++ right, fun other => ?_⟩
  -- Whatever is put inside of it, the query asks for what it asked for before.
  have operand : (inner.put other).operandTokens ⟨dialect, true⟩ =
      before ++ inner.tokens dialect other ++ after := by
    rw [Query.operandTokens, query.wrapped_put inner isPlace]
    exact around other
  rw [same, operand]
  simp only [List.append_assoc]
  rfl

/-- The places in the items of a list, of which each is rendered as a part. -/
theorem cons {Item : Type} {renderItem : Item → List Token}
    {renderEach : List Item → List (List Token)} {whole : List (List Token) → List Token}
    {item : Item} {rest : List Item} {first : List (Place Item)} {others : List (Place (List Item))}
    (surrounds : Surrounds whole)
    (split : ∀ item rest, renderEach (item :: rest) = renderItem item :: renderEach rest)
    (here : Independent dialect first renderItem item)
    (behind : Independent dialect others (fun rest => whole (renderItem item :: renderEach rest))
      rest) :
    Independent dialect (Place.within (· :: rest) first ++ Place.within (item :: ·) others)
      (fun items => whole (renderEach items)) (item :: rest) := by
  obtain ⟨left, right, same⟩ := surrounds [] (renderEach rest)
  refine append (here.within left right fun item notNil => ?_)
    (behind.within [] [] fun rest _ => ?_)
  · rw [split]
    exact same _ notNil
  · rw [split]
    simp

end Independent

mutual

/-- What is rendered around a place in a value does not depend on the query there. -/
theorem Expr.independent (dialect : Dialect) (shown : Bool) : (expr : Expr) →
    Independent dialect expr.places (Expr.tokens ⟨dialect, shown⟩) expr
  | .number _ | .text _ | .null | .placeholder _ | .column _ | .allColumns _ => .nil
  | .call invocation =>
    (invocation.independent dialect shown).within [] [] fun _ _ => by simp [Expr.tokens]
  | .arithmetic operator left right => by
    let context : Context := ⟨dialect, shown⟩
    refine .append
      ((left.independent dialect shown).within [.opening]
        (.operator operator.text :: right.tokens context ++ [.closing]) fun _ _ => ?_)
      ((right.independent dialect shown).within
        (.opening :: left.tokens context ++ [.operator operator.text]) [.closing] fun _ _ => ?_)
    all_goals simp [Expr.tokens, parenthesized, context]
  | .negation operand =>
    (operand.independent dialect shown).negated.within [] [] fun _ _ => by simp [Expr.tokens]
  | .matchCase ⟨subject, branches, otherwise⟩ => by
    let context : Context := ⟨dialect, shown⟩
    let parts := (MatchBranch.tokensEach context branches).flatten
    let last := optionTokens .else (Expr.tokensOption context otherwise) ++ [.keyword .end]
    refine .append (.append
      ((subject.independent dialect shown).within [.keyword .case] (parts ++ last) fun _ _ => ?_)
      ((MatchBranch.independentEach dialect shown branches _ .flatten).within
        (.keyword .case :: subject.tokens context) last fun _ _ => ?_))
      ((Expr.independentOption dialect shown otherwise).within
        (.keyword .case :: subject.tokens context ++ parts) [.keyword .end] fun _ _ => ?_)
    all_goals simp [Expr.tokens, caseTokens, context, parts, last]
  | .conditionalCase ⟨branches, otherwise⟩ => by
    let context : Context := ⟨dialect, shown⟩
    let parts := (ConditionalBranch.tokensEach context branches).flatten
    let last := optionTokens .else (Expr.tokensOption context otherwise) ++ [.keyword .end]
    refine .append
      ((ConditionalBranch.independentEach dialect shown branches _ .flatten).within
        [.keyword .case] last fun _ _ => ?_)
      ((Expr.independentOption dialect shown otherwise).within
        (.keyword .case :: parts) [.keyword .end] fun _ _ => ?_)
    all_goals simp [Expr.tokens, caseTokens, context, parts, last]
  | .subquery body => (body.independent dialect).enclosed [] [] fun _ => by
    rw [Expr.tokens, List.nil_append, List.append_nil]
termination_by structural expr => expr

theorem Expr.independentEach (dialect : Dialect) (shown : Bool) : (exprs : List Expr) →
    ∀ whole, Surrounds whole → Independent dialect (Expr.placesEach exprs)
      (fun exprs => whole (Expr.tokensEach ⟨dialect, shown⟩ exprs)) exprs
  | [], _, _ => .nil
  | expr :: rest, _, surrounds =>
    .cons surrounds (fun _ _ => rfl) (expr.independent dialect shown)
      (Expr.independentEach dialect shown rest _ (surrounds.behind _))
termination_by structural exprs => exprs

theorem Expr.independentOption (dialect : Dialect) (shown : Bool) : (expr : Option Expr) →
    Independent dialect (Expr.placesOption expr)
      (fun expr => optionTokens .else (Expr.tokensOption ⟨dialect, shown⟩ expr)) expr
  | none => .nil
  | some expr => (expr.independent dialect shown).within [.keyword .else] [] fun _ _ => by
    simp [optionTokens]
termination_by structural expr => expr

theorem MatchBranch.independent (dialect : Dialect) (shown : Bool) : (branch : MatchBranch) →
    Independent dialect branch.places (fun branch => branchTokens
      (branch.value.tokens ⟨dialect, shown⟩) (branch.result.tokens ⟨dialect, shown⟩)) branch
  | ⟨value, result⟩ => by
    let context : Context := ⟨dialect, shown⟩
    refine .append
      ((value.independent dialect shown).within [.keyword .when]
        (.keyword .then :: result.tokens context) fun _ _ => ?_)
      ((result.independent dialect shown).within
        (.keyword .when :: value.tokens context ++ [.keyword .then]) [] fun _ _ => ?_)
    all_goals simp [branchTokens, context]
termination_by structural branch => branch

theorem MatchBranch.independentEach (dialect : Dialect) (shown : Bool) :
    (branches : List MatchBranch) → ∀ whole, Surrounds whole →
    Independent dialect (MatchBranch.placesEach branches)
      (fun branches => whole (MatchBranch.tokensEach ⟨dialect, shown⟩ branches)) branches
  | [], _, _ => .nil
  | branch :: rest, _, surrounds =>
    .cons surrounds (fun ⟨_, _⟩ _ => rfl) (branch.independent dialect shown)
      (MatchBranch.independentEach dialect shown rest _ (surrounds.behind _))
termination_by structural branches => branches

theorem ConditionalBranch.independent (dialect : Dialect) (shown : Bool) :
    (branch : ConditionalBranch) →
    Independent dialect branch.places (fun branch => branchTokens
      (branch.condition.tokens ⟨dialect, shown⟩) (branch.result.tokens ⟨dialect, shown⟩)) branch
  | ⟨condition, result⟩ => by
    let context : Context := ⟨dialect, shown⟩
    refine .append
      ((condition.independent dialect shown).within [.keyword .when]
        (.keyword .then :: result.tokens context) fun _ _ => ?_)
      ((result.independent dialect shown).within
        (.keyword .when :: condition.tokens context ++ [.keyword .then]) [] fun _ _ => ?_)
    all_goals simp [branchTokens, context]
termination_by structural branch => branch

theorem ConditionalBranch.independentEach (dialect : Dialect) (shown : Bool) :
    (branches : List ConditionalBranch) → ∀ whole, Surrounds whole →
    Independent dialect (ConditionalBranch.placesEach branches)
      (fun branches => whole (ConditionalBranch.tokensEach ⟨dialect, shown⟩ branches)) branches
  | [], _, _ => .nil
  | branch :: rest, _, surrounds =>
    .cons surrounds (fun ⟨_, _⟩ _ => rfl) (branch.independent dialect shown)
      (ConditionalBranch.independentEach dialect shown rest _ (surrounds.behind _))
termination_by structural branches => branches

theorem Call.independent (dialect : Dialect) (shown : Bool) : (call : Call) →
    Independent dialect call.places (Call.tokens ⟨dialect, shown⟩) call
  | ⟨name, arguments, window⟩ => by
    let context : Context := ⟨dialect, shown⟩
    let clause := optionTokens .over ((Window.tokensOption context window).map parenthesized)
    refine .append
      ((Expr.independentEach dialect shown arguments _ .commaSeparated).within
        [.callee name.sql, .opening] (.closing :: clause) fun _ _ => ?_)
      ((Window.independentOption dialect shown window).within
        (.callee name.sql :: parenthesized (commaSeparated (Expr.tokensEach context arguments))) []
        fun _ _ => ?_)
    all_goals simp [Call.tokens, parenthesized, context, clause]
termination_by structural call => call

theorem Window.independentOption (dialect : Dialect) (shown : Bool) : (window : Option Window) →
    Independent dialect (Window.placesOption window) (fun window =>
      optionTokens .over ((Window.tokensOption ⟨dialect, shown⟩ window).map parenthesized)) window
  | none => .nil
  | some window =>
    (window.independent dialect shown).within [.keyword .over, .opening] [.closing] fun _ _ => by
      simp [optionTokens, parenthesized]
termination_by structural window => window

theorem Window.independent (dialect : Dialect) (shown : Bool) : (window : Window) →
    Independent dialect window.places (Window.tokens ⟨dialect, shown⟩) window
  | ⟨partitions, sortKeys, frame⟩ => by
    let context : Context := ⟨dialect, shown⟩
    refine .append
      ((Expr.independentEach dialect shown partitions _ (.listClause [.partition, .by])).within []
        (listClause [.order, .by] (SortKey.tokensEach context sortKeys) ++ frameTokens frame)
        fun _ _ => ?_)
      ((SortKey.independentEach dialect shown sortKeys _ (.listClause [.order, .by])).within
        (listClause [.partition, .by] (Expr.tokensEach context partitions)) (frameTokens frame)
        fun _ _ => ?_)
    all_goals simp [Window.tokens, context]
termination_by structural window => window

theorem SortKey.independent (dialect : Dialect) (shown : Bool) : (key : SortKey) →
    Independent dialect key.places (SortKey.tokens ⟨dialect, shown⟩) key
  | ⟨expr, direction, nulls⟩ => by
    rw [SortKey.places]
    exact (expr.independent dialect shown).within [] (sortTokens direction nulls) fun _ _ => by
      simp [SortKey.tokens]
termination_by structural key => key

theorem SortKey.independentEach (dialect : Dialect) (shown : Bool) : (keys : List SortKey) →
    ∀ whole, Surrounds whole → Independent dialect (SortKey.placesEach keys)
      (fun keys => whole (SortKey.tokensEach ⟨dialect, shown⟩ keys)) keys
  | [], _, _ => .nil
  | key :: rest, _, surrounds =>
    .cons surrounds (fun _ _ => rfl) (key.independent dialect shown)
      (SortKey.independentEach dialect shown rest _ (surrounds.behind _))
termination_by structural keys => keys

theorem Condition.independent (dialect : Dialect) (shown : Bool) : (condition : Condition) →
    Independent dialect condition.places (Condition.tokens ⟨dialect, shown⟩) condition
  | ⟨predicate, wrapped⟩ => by
    rw [Condition.places]
    refine (predicate.independent dialect shown).within (openingIf wrapped) (closingIf wrapped)
      fun predicate notNil => ?_
    rw [Condition.tokens, ← parenthesizedIf_eq]
    -- A predicate that holds a query is never left out.
    split
    · contradiction
    · rfl
termination_by structural condition => condition

theorem Condition.independentEach (dialect : Dialect) (shown : Bool) :
    (conditions : List Condition) → ∀ whole, Surrounds whole →
    Independent dialect (Condition.placesEach conditions)
      (fun conditions => whole (Condition.tokensEach ⟨dialect, shown⟩ conditions)) conditions
  | [], _, _ => .nil
  | condition :: rest, _, surrounds =>
    .cons surrounds (fun _ _ => rfl) (condition.independent dialect shown)
      (Condition.independentEach dialect shown rest _ (surrounds.behind _))
termination_by structural conditions => conditions

theorem Condition.independentOption (dialect : Dialect) (shown : Bool) :
    (condition : Option Condition) → Independent dialect (Condition.placesOption condition)
      (Condition.tokensOption ⟨dialect, shown⟩) condition
  | none => .nil
  | some condition => (condition.independent dialect shown).within [] [] fun _ _ => by
    simp [Condition.tokensOption]
termination_by structural condition => condition

theorem Predicate.independent (dialect : Dialect) (shown : Bool) : (predicate : Predicate) →
    Independent dialect predicate.places (Predicate.tokens ⟨dialect, shown⟩) predicate
  | .comparison left operator right => by
    let context : Context := ⟨dialect, shown⟩
    refine .append
      ((left.independent dialect shown).within []
        (.operator operator.text :: right.tokens context) fun _ _ => ?_)
      ((right.independent dialect shown).within
        (left.tokens context ++ [.operator operator.text]) [] fun _ _ => ?_)
    all_goals simp [Predicate.tokens, context]
  | .between subject low high negated => by
    let context : Context := ⟨dialect, shown⟩
    let words := keywordIf negated .not ++ [.keyword .between]
    refine .append (.append
      ((subject.independent dialect shown).within []
        (words ++ low.tokens context ++ .keyword .and :: high.tokens context) fun _ _ => ?_)
      ((low.independent dialect shown).within (subject.tokens context ++ words)
        (.keyword .and :: high.tokens context) fun _ _ => ?_))
      ((high.independent dialect shown).within
        (subject.tokens context ++ words ++ low.tokens context ++ [.keyword .and]) []
        fun _ _ => ?_)
    all_goals simp [Predicate.tokens, context, words]
  | .like subject pattern negated => by
    let context : Context := ⟨dialect, shown⟩
    let words := keywordIf negated .not ++ [.keyword .like]
    refine .append
      ((subject.independent dialect shown).within [] (words ++ pattern.tokens context)
        fun _ _ => ?_)
      ((pattern.independent dialect shown).within (subject.tokens context ++ words) []
        fun _ _ => ?_)
    all_goals simp [Predicate.tokens, context, words]
  | .isNull subject negated => by
    rw [Predicate.places]
    exact (subject.independent dialect shown).within []
      (.keyword .is :: keywordIf negated .not ++ [.keyword .null]) fun _ _ => by
        simp [Predicate.tokens]
  | .isIn subject values negated => by
    let context : Context := ⟨dialect, shown⟩
    let words := keywordIf negated .not ++ [.keyword .in]
    refine .append
      ((subject.independent dialect shown).within [] (words ++ values.tokens context)
        fun _ _ => ?_)
      ((values.independent dialect shown).within (subject.tokens context ++ words) []
        fun _ _ => ?_)
    all_goals simp [Predicate.tokens, context, words]
  | .existence query =>
    (query.independent dialect).enclosed [.callee Keyword.exists.text] [] fun _ => by
      rw [Predicate.tokens, List.append_nil, List.singleton_append]
  | .quantified subject operator quantifier values => by
    let context : Context := ⟨dialect, shown⟩
    let words := [Token.operator operator.text, .keyword quantifier.keyword]
    refine .append
      ((subject.independent dialect shown).within [] (words ++ values.tokens context)
        fun _ _ => ?_)
      ((values.independent dialect shown).within (subject.tokens context ++ words) []
        fun _ _ => ?_)
    all_goals simp [Predicate.tokens, context, words]
  | .group ⟨connective, conditions⟩ => by
    rw [Predicate.places]
    exact (Condition.independentEach dialect shown conditions _
      (.joinedBy connective.keyword)).within [] [] fun _ _ => by simp [Predicate.tokens]
  | .negation condition =>
    ((condition.independent dialect shown).introducedBy [.not]).within [] [] fun _ _ => by
      simp [Predicate.tokens]
termination_by structural predicate => predicate

theorem Values.independent (dialect : Dialect) (shown : Bool) : (values : Values) →
    Independent dialect values.places (Values.tokens ⟨dialect, shown⟩) values
  | .list values =>
    (Expr.independentEach dialect shown values _ .commaSeparated).within [.opening] [.closing]
      fun _ _ => by simp [Values.tokens, parenthesized]
  | .query body => (body.independent dialect).enclosed [] [] fun _ => by
    rw [Values.tokens, List.nil_append, List.append_nil]
  | .call invocation => (invocation.independent dialect shown).within [] [] fun _ _ => by
    simp [Values.tokens]
termination_by structural values => values

theorem Source.independent (dialect : Dialect) (shown : Bool) : (source : Source) →
    Independent dialect source.places (Source.tokens ⟨dialect, shown⟩) source
  | ⟨origin, aliasName⟩ => by
    rw [Source.places]
    exact (origin.independent dialect shown).within []
      (aliasTokens dialect.aliasSourcesUsingAs aliasName) fun _ _ => by simp [Source.tokens]
termination_by structural source => source

theorem Origin.independent (dialect : Dialect) (shown : Bool) : (origin : Origin) →
    Independent dialect origin.places (Origin.tokens ⟨dialect, shown⟩) origin
  | .table _ => .nil
  | .call invocation => (invocation.independent dialect shown).within [] [] fun _ _ => by
    simp [Origin.tokens]
  | .query body => (body.independent dialect).enclosed [] [] fun _ => by
    rw [Origin.tokens, List.nil_append, List.append_nil]
termination_by structural origin => origin

theorem FromItem.independent (dialect : Dialect) (shown : Bool) : (item : FromItem) →
    Independent dialect item.places (FromItem.tokens ⟨dialect, shown⟩) item
  | .source single => (single.independent dialect shown).within [] [] fun _ _ => by
    simp [FromItem.tokens]
  | .join body => (body.independent dialect shown).within [] [] fun _ _ => by
    simp [FromItem.tokens]
termination_by structural item => item

theorem FromItem.independentEach (dialect : Dialect) (shown : Bool) : (items : List FromItem) →
    ∀ whole, Surrounds whole → Independent dialect (FromItem.placesEach items)
      (fun items => whole (FromItem.tokensEach ⟨dialect, shown⟩ items)) items
  | [], _, _ => .nil
  | item :: rest, _, surrounds =>
    .cons surrounds (fun _ _ => rfl) (item.independent dialect shown)
      (FromItem.independentEach dialect shown rest _ (surrounds.behind _))
termination_by structural items => items

theorem Join.independent (dialect : Dialect) (shown : Bool) : (join : Join) →
    Independent dialect join.places (Join.tokens ⟨dialect, shown⟩) join
  | ⟨left, right, kind, on, wrapped, scope⟩ => by
    let context : Context := ⟨dialect, shown⟩
    let words := kind.tokens dialect
    let clause := introducedBy [.on] (Condition.tokensOption context on)
    refine .append (.append
      ((left.independent dialect shown).within (openingIf wrapped)
        (words ++ right.tokens context ++ clause ++ closingIf wrapped) fun _ _ => ?_)
      ((right.independent dialect shown).within (openingIf wrapped ++ left.tokens context ++ words)
        (clause ++ closingIf wrapped) fun _ _ => ?_))
      (((Condition.independentOption dialect shown on).introducedBy [.on]).within
        (openingIf wrapped ++ left.tokens context ++ words ++ right.tokens context)
        (closingIf wrapped) fun _ _ => ?_)
    all_goals simp [Join.tokens, parenthesizedIf_eq, context, words, clause]
termination_by structural join => join

theorem Query.independent (dialect : Dialect) : (query : Query) →
    Independent dialect query.places (Query.tokens ⟨dialect, true⟩) query
  | .select body => (body.independent dialect).within [] [] fun _ _ => by simp [Query.tokens]
  | .setOperation ⟨operator, left, right, quantifier, wrapped⟩ => by
    let context : Context := ⟨dialect, true⟩
    let words := .keyword operator.keyword :: setQuantifierTokens quantifier
    refine .append
      ((left.independent dialect).asked [] (words ++ right.operandTokens context) fun _ => ?_)
      ((right.independent dialect).asked (left.operandTokens context ++ words) [] fun _ => ?_)
    all_goals simp [SetOperation.tokens_eq, context, words]
termination_by structural query => query

theorem Select.independent (dialect : Dialect) : (select : Select) →
    Independent dialect select.places (Select.tokens ⟨dialect, true⟩) select
  | ⟨quantifier, top, projections, items, scope, conditions, groupKeys, groupConditions, sortKeys,
      wrapped⟩ => by
    let context : Context := ⟨dialect, true⟩
    let start := .keyword .select :: setQuantifierTokens quantifier
    let limit := Top.tokensOption context top
    let list := commaSeparated (Projection.tokensEach context projections)
    let fromClause := listClause [.from] (FromItem.tokensEach context items)
    let whereClause :=
      introducedBy [.where] (joinedBy .and (Condition.tokensEach context conditions))
    let groupClause := listClause [.group, .by] (Expr.tokensEach context groupKeys)
    let havingClause :=
      introducedBy [.having] (joinedBy .and (Condition.tokensEach context groupConditions))
    let orderClause := listClause [.order, .by] (SortKey.tokensEach context sortKeys)
    refine .append (.append (.append (.append (.append (.append
      ((Top.independentOption dialect true top).within start
        (list ++ fromClause ++ whereClause ++ groupClause ++ havingClause ++ orderClause)
        fun _ _ => ?_)
      ((Projection.independentEach dialect true projections _ .commaSeparated).within
        (start ++ limit) (fromClause ++ whereClause ++ groupClause ++ havingClause ++ orderClause)
        fun _ _ => ?_))
      ((FromItem.independentEach dialect true items _ (.listClause [.from])).within
        (start ++ limit ++ list) (whereClause ++ groupClause ++ havingClause ++ orderClause)
        fun _ _ => ?_))
      ((Condition.independentEach dialect true conditions _
          ((Surrounds.joinedBy .and).introducedBy [.where])).within
        (start ++ limit ++ list ++ fromClause) (groupClause ++ havingClause ++ orderClause)
        fun _ _ => ?_))
      ((Expr.independentEach dialect true groupKeys _ (.listClause [.group, .by])).within
        (start ++ limit ++ list ++ fromClause ++ whereClause) (havingClause ++ orderClause)
        fun _ _ => ?_))
      ((Condition.independentEach dialect true groupConditions _
          ((Surrounds.joinedBy .and).introducedBy [.having])).within
        (start ++ limit ++ list ++ fromClause ++ whereClause ++ groupClause) orderClause
        fun _ _ => ?_))
      ((SortKey.independentEach dialect true sortKeys _ (.listClause [.order, .by])).within
        (start ++ limit ++ list ++ fromClause ++ whereClause ++ groupClause ++ havingClause) []
        fun _ _ => ?_)
    all_goals simp [Select.tokens, Context.qualified, context, start, limit, list, fromClause,
      whereClause, groupClause, havingClause, orderClause]
termination_by structural select => select

theorem Projection.independent (dialect : Dialect) (shown : Bool) : (projection : Projection) →
    Independent dialect projection.places (fun projection =>
      projection.expr.tokens ⟨dialect, shown⟩ ++
        aliasTokens dialect.aliasProjectionsUsingAs projection.aliasName) projection
  | ⟨expr, aliasName⟩ => by
    rw [Projection.places]
    exact (expr.independent dialect shown).within []
      (aliasTokens dialect.aliasProjectionsUsingAs aliasName) fun _ _ => by simp
termination_by structural projection => projection

theorem Projection.independentEach (dialect : Dialect) (shown : Bool) :
    (projections : List Projection) → ∀ whole, Surrounds whole →
    Independent dialect (Projection.placesEach projections)
      (fun projections => whole (Projection.tokensEach ⟨dialect, shown⟩ projections)) projections
  | [], _, _ => .nil
  | projection :: rest, _, surrounds =>
    .cons surrounds (fun ⟨_, _⟩ _ => rfl) (projection.independent dialect shown)
      (Projection.independentEach dialect shown rest _ (surrounds.behind _))
termination_by structural projections => projections

theorem Top.independentOption (dialect : Dialect) (shown : Bool) : (top : Option Top) →
    Independent dialect (Top.placesOption top) (Top.tokensOption ⟨dialect, shown⟩) top
  | none => .nil
  | some ⟨count, percent, withTies⟩ => by
    rw [Top.placesOption]
    exact (count.independent dialect shown).within [.keyword .top] (keywordIf percent .percent ++
      if withTies then [.keyword .with, .keyword .ties] else []) fun _ _ => by
        simp [Top.tokensOption]
termination_by structural top => top

end

/-- What is rendered around a place in the rows of an `INSERT` does not depend on the query
there. -/
theorem InsertRows.independent (dialect : Dialect) (shown : Bool) (rows : InsertRows) :
    Independent dialect rows.places (InsertRows.tokens ⟨dialect, shown⟩) rows := by
  cases rows with
  | list values =>
    exact (Expr.independentEach dialect shown values _ .commaSeparated).within
      [.callee Keyword.values.text, .opening] [.closing] fun _ _ => by
        simp [InsertRows.tokens, parenthesized]
  | query body =>
    exact (body.independent dialect).enclosed [] [] fun _ => by
      rw [InsertRows.tokens, List.nil_append, List.append_nil]

theorem Setter.independentEach (dialect : Dialect) (shown : Bool) : (setters : List Setter) →
    ∀ whole, Surrounds whole → Independent dialect (Setter.placesEach setters)
      (fun setters => whole (setters.map (Setter.tokens ⟨dialect, shown⟩))) setters
  | [], _, _ => .nil
  | ⟨column, value⟩ :: rest, _, surrounds => by
    refine .cons surrounds (fun _ _ => rfl) ?_
      (Setter.independentEach dialect shown rest _ (surrounds.behind _))
    exact (value.independent dialect shown).within
      (column.tokens ⟨dialect, shown⟩ ++ [.operator "="]) [] fun _ _ => by simp [Setter.tokens]

/-- What is rendered around the place of a query in a statement does not depend on the
query there. -/
theorem Statement.independent (dialect : Dialect) (statement : Statement) :
    Independent dialect statement.places (Statement.tokens dialect) statement := by
  cases statement with
  | query body =>
    exact (body.independent dialect).asked [] [] fun _ => by
      rw [Statement.tokens, List.nil_append, List.append_nil, Query.operandTokens]
  | insert body =>
    let context : Context := ⟨dialect, dialect.qualifyInsertColumns⟩
    rw [Statement.places]
    exact (body.rows.independent dialect dialect.qualifyInsertColumns).within
      ([.keyword .insert, .keyword .into] ++ body.target.source.tokens context ++
        columnListTokens context body.columns) [] fun _ _ => by
          simp [Statement.tokens, Insert.tokens, context]
  | update body =>
    let shown := dialect.qualifyUpdateColumns
    let context : Context := ⟨dialect, shown⟩
    let start := .keyword .update :: body.target.source.tokens context ++ [.keyword .set]
    refine .append
      ((Setter.independentEach dialect shown body.setters _ .commaSeparated).within start
        (whereClause context body.conditions) fun _ _ => ?_)
      ((Condition.independentEach dialect shown body.conditions _
          ((Surrounds.joinedBy .and).introducedBy [.where])).within
        (start ++ commaSeparated (body.setters.map (Setter.tokens context))) [] fun _ _ => ?_)
    all_goals simp [Statement.tokens, Update.tokens, whereClause, shown, context, start]
  | delete body =>
    let context : Context := ⟨dialect, dialect.qualifyDeleteColumns⟩
    rw [Statement.places]
    exact (Condition.independentEach dialect dialect.qualifyDeleteColumns body.conditions _
        ((Surrounds.joinedBy .and).introducedBy [.where])).within
      ([.keyword .delete, .keyword .from] ++ body.target.source.tokens context) [] fun _ _ => by
        simp [Statement.tokens, Delete.tokens, whereClause, context]

end SqlTree
