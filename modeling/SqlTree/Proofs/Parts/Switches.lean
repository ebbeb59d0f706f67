import SqlTree.Proofs.Parts.Rendering

/-!
# What the switches of a dialect do

The switches for aliases and joins put words into a statement and change nothing else
(`Statement.switches_insert_words`). Without `AS`, `INNER` and `OUTER`, its tokens are
those of the terse dialect. `AS` stands before aliases only, and each of the three words
stands as often as there are parts that bring it, at all depths together.
-/

namespace SqlTree

/-- The words that a dialect may leave out. -/
def optionalWords : List Keyword :=
  [.as, .inner, .outer]

/-- Whether a token is a word that a dialect may leave out. -/
def Token.isOptional (token : Token) : Bool :=
  optionalWords.any fun word => token = .keyword word

/-- Whether a kind of join is outer on a side or on both. -/
def JoinKind.isOuter : JoinKind → Bool
  | leftOuter | rightOuter | fullOuter => true
  | inner | cross => false

namespace Part

/-- The alias of a part, if it has one. -/
def aliasName? : Part → Option Identifier
  | .source single => single.aliasName
  | .projection entry => entry.aliasName
  | .join _ | .branch _ => none

/-- Whether a part is a source with an alias. -/
def isAliasedSource : Part → Bool
  | .source single => single.aliasName.isSome
  | _ => false

/-- Whether a part is a projection with an alias. -/
def isAliasedProjection : Part → Bool
  | .projection entry => entry.aliasName.isSome
  | _ => false

/-- Whether a part is an inner join. -/
def isInnerJoin : Part → Bool
  | .join body => body.kind = .inner
  | _ => false

/-- Whether a part is an outer join. -/
def isOuterJoin : Part → Bool
  | .join body => body.kind.isOuter
  | _ => false

/-- Whether a part brings a word of those that a dialect may leave out. -/
def brings (dialect : Dialect) (word : Keyword) (part : Part) : Bool :=
  match word with
  | .as => dialect.aliasSourcesUsingAs && part.isAliasedSource ||
      dialect.aliasProjectionsUsingAs && part.isAliasedProjection
  | .inner => dialect.verboseInnerJoin && part.isInnerJoin
  | .outer => dialect.verboseOuterJoin && part.isOuterJoin
  | _ => false

variable {dialect : Dialect} {parts : List Part}

/-- The parts that bring `AS` are the sources and the projections with aliases, as far as
the dialect wants it before these. -/
theorem countP_brings_as :
    parts.countP (brings dialect .as) =
      (if dialect.aliasSourcesUsingAs then parts.countP isAliasedSource else 0) +
        if dialect.aliasProjectionsUsingAs then parts.countP isAliasedProjection else 0 := by
  induction parts with
  | nil => simp
  | cons part rest inductionHypothesis =>
    rw [List.countP_cons, List.countP_cons, List.countP_cons, inductionHypothesis]
    have exclusive : part.isAliasedSource = true → part.isAliasedProjection = false := by
      cases part <;> simp [isAliasedSource, isAliasedProjection]
    cases isSource : part.isAliasedSource <;> cases isProjection : part.isAliasedProjection <;>
      cases sources : dialect.aliasSourcesUsingAs <;>
      cases projections : dialect.aliasProjectionsUsingAs <;>
      simp_all [brings] <;> omega

/-- The parts that bring `INNER` are the inner joins, if the dialect wants it. -/
theorem countP_brings_inner :
    parts.countP (brings dialect .inner) =
      if dialect.verboseInnerJoin then parts.countP isInnerJoin else 0 := by
  have inner : brings dialect .inner = fun part => dialect.verboseInnerJoin && part.isInnerJoin :=
    rfl
  cases verbose : dialect.verboseInnerJoin <;> simp [inner, verbose]

/-- The parts that bring `OUTER` are the outer joins, if the dialect wants it. -/
theorem countP_brings_outer :
    parts.countP (brings dialect .outer) =
      if dialect.verboseOuterJoin then parts.countP isOuterJoin else 0 := by
  have outer : brings dialect .outer = fun part => dialect.verboseOuterJoin && part.isOuterJoin :=
    rfl
  cases verbose : dialect.verboseOuterJoin <;> simp [outer, verbose]

end Part

/-- Every `AS` among the tokens is followed by the alias of one of the parts. -/
def AliasesFollow (parts : List Part) (tokens : List Token) : Prop :=
  ∀ before after, tokens = before ++ .keyword .as :: after →
    ∃ part ∈ parts, ∃ aliasName ∈ part.aliasName?,
      after.head? = some (.identifier aliasName.sql)

section Words

variable {dialect : Dialect} {parts more : List Part} {word : Keyword}
  {tokens first second terse : List Token}

/-- Of the keywords, three are optional. -/
@[simp] theorem Token.isOptional_keyword (word : Keyword) :
    (Token.keyword word).isOptional = decide (word ∈ optionalWords) := by
  simp [isOptional, optionalWords]

/-- No name is an optional word. -/
@[simp] theorem Token.isOptional_identifier (name : String) :
    (Token.identifier name).isOptional = false := by
  simp [isOptional, optionalWords, Token.identifier, Token.keyword]

/-- A token that is no word of a part is no optional word. -/
theorem Token.IsFixed.isOptional_eq_false {token : Token} (fixed : token.IsFixed) :
    token.isOptional = false := by
  simp only [IsFixed, partWords, List.forall_mem_cons] at fixed
  simp [isOptional, optionalWords, fixed]

/-- Tokens without `AS` have no alias to follow it. -/
theorem AliasesFollow.of_notMem (lacks : .keyword .as ∉ tokens) : AliasesFollow parts tokens := by
  rintro before after rfl
  exact absurd (by simp) lacks

/-- Tokens in which aliases follow, one after the other. -/
theorem AliasesFollow.append (left : AliasesFollow parts first)
    (right : AliasesFollow more second) : AliasesFollow (parts ++ more) (first ++ second) := by
  intro before after same
  rcases List.append_eq_append_iff.1 same with ⟨between, _, inSecond⟩ | ⟨between, inFirst, rest⟩
  · obtain ⟨part, member, follows⟩ := right between after inSecond
    exact ⟨part, List.mem_append_right _ member, follows⟩
  · -- The word is the first of what is left of the first tokens, if anything is.
    cases between with
    | nil =>
      obtain ⟨part, member, follows⟩ := right [] after (by simpa using rest.symm)
      exact ⟨part, List.mem_append_right _ member, follows⟩
    | cons token others =>
      obtain ⟨rfl, rfl⟩ := List.cons.inj rest
      obtain ⟨part, member, aliasName, isAlias, isNext⟩ := left before others inFirst
      have stillNext : (others ++ second).head? = some (.identifier aliasName.sql) := by
        rw [List.head?_append, isNext]
        rfl
      exact ⟨part, List.mem_append_left _ member, aliasName, isAlias, stillNext⟩

/-- Aliases that follow are still there among more parts. -/
theorem AliasesFollow.mono (follow : AliasesFollow parts tokens) (subset : parts ⊆ more) :
    AliasesFollow more tokens := by
  intro before after same
  obtain ⟨part, member, follows⟩ := follow before after same
  exact ⟨part, subset member, follows⟩

/-- The words of a branch are followed by no alias. -/
theorem AliasesFollow.branchTokens {condition result : List Token}
    (left : AliasesFollow parts condition) (right : AliasesFollow more result) :
    AliasesFollow (parts ++ more) (branchTokens condition result) := by
  have start : AliasesFollow [] [.keyword .when] := .of_notMem (by decide)
  have middle : AliasesFollow [] [.keyword .then] := .of_notMem (by decide)
  have whole := (start.append left).append (middle.append right)
  simpa [SqlTree.branchTokens] using whole

/-- An alias follows the word that may stand before it. -/
theorem aliasesFollow_aliasTokens {part : Part} (usingAs : Bool) :
    AliasesFollow [part] (aliasTokens usingAs part.aliasName?) := by
  intro before after same
  cases isAlias : part.aliasName? with
  | none => simp [isAlias, aliasTokens] at same
  | some aliasName =>
    have notWord : Token.identifier aliasName.sql ≠ .keyword .as := by
      simp [Token.identifier, Token.keyword]
    cases usingAs with
    | false =>
      have member : Token.keyword .as ∈ aliasTokens false part.aliasName? := by simp [same]
      simp [isAlias, aliasTokens, keywordIf, notWord.symm] at member
    | true =>
      have written :
          [.keyword .as, .identifier aliasName.sql] = before ++ .keyword .as :: after := by
        simpa [isAlias, aliasTokens, keywordIf] using same
      cases before with
      | nil =>
        obtain ⟨-, rfl⟩ := List.cons.inj written
        exact ⟨part, List.mem_singleton_self part, aliasName, isAlias, rfl⟩
      | cons token rest =>
        have member : Token.keyword .as ∈ [Token.identifier aliasName.sql] := by
          simp [(List.cons.inj written).2]
        exact absurd (List.mem_singleton.1 member).symm notWord

/-- The only word before an alias is `AS`. -/
theorem count_aliasTokens (usingAs : Bool) (aliasName : Option Identifier) :
    (aliasTokens usingAs aliasName).count (.keyword word) =
      if word = .as ∧ usingAs ∧ aliasName.isSome then 1 else 0 := by
  have notName : ∀ name, Token.identifier name ≠ .keyword word := by
    simp [Token.identifier, Token.keyword]
  have swap : .as = word ↔ word = .as := eq_comm
  cases aliasName <;> cases usingAs <;>
    simp [aliasTokens, keywordIf, List.count_cons, notName, swap]

namespace Worded

/-- Without its optional words, a text is that of the terse dialect. -/
theorem filter_tokens (worded : Worded dialect parts first terse) :
    first.filter (fun token => !token.isOptional) = terse := by
  induction worded with
  | same tokens fixed =>
    exact List.filter_eq_self.2 fun token member => by
      simp [(fixed token member).isOptional_eq_false]
  | append _ _ left right => rw [List.filter_append, left, right]
  | source source =>
    cases source.aliasName <;> cases dialect.aliasSourcesUsingAs <;>
      simp [aliasTokens, keywordIf, optionalWords]
  | projection projection =>
    cases projection.aliasName <;> cases dialect.aliasProjectionsUsingAs <;>
      simp [aliasTokens, keywordIf, optionalWords]
  | join join =>
    cases join.kind <;> cases inner : dialect.verboseInnerJoin <;>
      cases outer : dialect.verboseOuterJoin <;>
      simp [JoinKind.tokens, keywordIf, optionalWords, Dialect.terse, inner, outer]
  | matchBranch _ _ _ left right | branch _ _ _ _ left right =>
    simp [branchTokens, left, right, optionalWords]

/-- An optional word stands as often as there are parts that bring it. -/
theorem count_keyword (worded : Worded dialect parts first terse)
    (isOptional : word ∈ optionalWords) :
    first.count (.keyword word) = parts.countP (Part.brings dialect word) := by
  have isAnyOptional : word = .as ∨ word = .inner ∨ word = .outer := by
    simpa [optionalWords] using isOptional
  have isPartWord : word ∈ partWords := by
    rcases isAnyOptional with rfl | rfl | rfl <;> decide
  have notAround : word ≠ .when ∧ word ≠ .then := by
    rcases isAnyOptional with rfl | rfl | rfl <;> decide
  have ofBranch : ∀ condition result : List Token,
      (branchTokens condition result).count (.keyword word) =
        condition.count (.keyword word) + result.count (.keyword word) := by
    intro condition result
    simp [branchTokens, notAround.1.symm, notAround.2.symm]
  induction worded with
  | same tokens fixed =>
    rw [List.countP_nil, List.count_eq_zero]
    exact fun member => fixed _ member word isPartWord rfl
  | append _ _ left right => rw [List.count_append, left, right, List.countP_append]
  | source | projection =>
    rw [count_aliasTokens, List.countP_singleton]
    rcases isAnyOptional with rfl | rfl | rfl <;>
      simp [Part.brings, Part.isAliasedSource, Part.isAliasedProjection, Part.isInnerJoin,
        Part.isOuterJoin]
  | join join =>
    rw [List.countP_singleton]
    rcases isAnyOptional with rfl | rfl | rfl <;> cases isKind : join.kind <;>
      cases inner : dialect.verboseInnerJoin <;> cases outer : dialect.verboseOuterJoin <;>
      simp [JoinKind.tokens, JoinKind.isOuter, keywordIf, Part.brings, Part.isAliasedSource,
        Part.isAliasedProjection, Part.isInnerJoin, Part.isOuterJoin, isKind, inner, outer]
  | matchBranch _ _ _ left right => rw [ofBranch, left, right, List.countP_append]
  | branch branch _ _ _ left right =>
    have bringsNothing : Part.brings dialect word (.branch branch) = false := by
      rcases isAnyOptional with rfl | rfl | rfl <;>
        simp [Part.brings, Part.isAliasedSource, Part.isAliasedProjection, Part.isInnerJoin,
          Part.isOuterJoin]
    rw [ofBranch, left, right, List.countP_cons, bringsNothing, List.countP_append]
    simp

/-- Every `AS` of a text is followed by an alias. -/
theorem aliasesFollow (worded : Worded dialect parts first terse) :
    AliasesFollow parts first := by
  induction worded with
  | same tokens fixed => exact .of_notMem fun member => fixed _ member .as (by decide) rfl
  | append _ _ left right => exact left.append right
  | source | projection => exact aliasesFollow_aliasTokens _
  | join join =>
    refine .of_notMem ?_
    cases join.kind <;> cases inner : dialect.verboseInnerJoin <;>
      cases outer : dialect.verboseOuterJoin <;> simp [JoinKind.tokens, keywordIf, inner, outer]
  | matchBranch _ _ _ left right => exact left.branchTokens right
  | branch branch _ _ _ left right =>
    exact (left.branchTokens right).mono (List.subset_cons_self _ _)

end Worded

end Words

/-- The switches for aliases and joins insert words and do nothing else. Without these
words, the tokens are those of the terse dialect. `AS` is always followed by an alias, and
stands once for each source and each projection with an alias, as far as the dialect
wants it before these. `INNER` and `OUTER` stand once for each inner and each outer join,
if the dialect wants them. -/
theorem Statement.switches_insert_words (dialect : Dialect) (statement : Statement) :
    let tokens := statement.tokens dialect
    let parts := statement.parts
    tokens.filter (fun token => !token.isOptional) = statement.tokens dialect.terse ∧
      AliasesFollow parts tokens ∧
      tokens.count (.keyword .as) =
        (if dialect.aliasSourcesUsingAs then parts.countP Part.isAliasedSource else 0) +
          (if dialect.aliasProjectionsUsingAs then parts.countP Part.isAliasedProjection
            else 0) ∧
      tokens.count (.keyword .inner) =
        (if dialect.verboseInnerJoin then parts.countP Part.isInnerJoin else 0) ∧
      tokens.count (.keyword .outer) =
        (if dialect.verboseOuterJoin then parts.countP Part.isOuterJoin else 0) := by
  intro tokens parts
  have worded := statement.worded dialect
  refine ⟨worded.filter_tokens, worded.aliasesFollow, ?_, ?_, ?_⟩
  · rw [← Part.countP_brings_as]
    exact worded.count_keyword (by decide)
  · rw [← Part.countP_brings_inner]
    exact worded.count_keyword (by decide)
  · rw [← Part.countP_brings_outer]
    exact worded.count_keyword (by decide)

end SqlTree
