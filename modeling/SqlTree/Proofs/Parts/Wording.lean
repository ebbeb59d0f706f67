import SqlTree.Proofs.Parts
import SqlTree.Proofs.Vacuity

/-!
# The words that parts bring

How the tokens of a statement come about from its parts, in a dialect and in the one that
has the same columns but leaves out every word that it may (`Worded`). Almost all tokens
are the same in both and have nothing to do with parts. The others stand in one piece for
each part: before an alias, before `JOIN`, and around the condition of a branch.

Every statement is worded in this way (`Statement.worded`). What follows from it about
the words of all statements is proved by induction on the few forms of `Worded`.
-/

namespace SqlTree

/-- The words that parts bring. -/
def partWords : List Keyword :=
  [.as, .inner, .outer, .when, .then]

/-- Whether a token is none of the words that parts bring. -/
def Token.IsFixed (token : Token) : Prop :=
  ∀ word ∈ partWords, token ≠ .keyword word

/-- The dialect that leaves out every word that it may. -/
def Dialect.terse (dialect : Dialect) : Dialect :=
  { dialect with
    aliasSourcesUsingAs := false
    aliasProjectionsUsingAs := false
    verboseInnerJoin := false
    verboseOuterJoin := false }

/-- Tokens with the parts in them, in a dialect and in the terse one. -/
inductive Worded (dialect : Dialect) : List Part → List Token → List Token → Prop where
  /-- Tokens that no part brings. -/
  | same (tokens : List Token) (fixed : ∀ token ∈ tokens, token.IsFixed) :
      Worded dialect [] tokens tokens
  | append {parts more : List Part} {first second terse terseSecond : List Token}
      (left : Worded dialect parts first terse) (right : Worded dialect more second terseSecond) :
      Worded dialect (parts ++ more) (first ++ second) (terse ++ terseSecond)
  | source (source : Source) :
      Worded dialect [.source source] (aliasTokens dialect.aliasSourcesUsingAs source.aliasName)
        (aliasTokens false source.aliasName)
  | projection (projection : Projection) :
      Worded dialect [.projection projection]
        (aliasTokens dialect.aliasProjectionsUsingAs projection.aliasName)
        (aliasTokens false projection.aliasName)
  | join (join : Join) :
      Worded dialect [.join join] (join.kind.tokens dialect) (join.kind.tokens dialect.terse)
  | matchBranch {parts more : List Part} {value result terse terseResult : List Token}
      (notNil : value ≠ []) (left : Worded dialect parts value terse)
      (right : Worded dialect more result terseResult) :
      Worded dialect (parts ++ more) (branchTokens value result) (branchTokens terse terseResult)
  | branch {parts more : List Part} {condition result terse terseResult : List Token}
      (branch : ConditionalBranch) (nil_iff : condition = [] ↔ branch.condition.vacuous = true)
      (left : Worded dialect parts condition terse)
      (right : Worded dialect more result terseResult) :
      Worded dialect (.branch branch :: (parts ++ more)) (branchTokens condition result)
        (branchTokens terse terseResult)

/-- A token that is no keyword is no word of a part. -/
theorem Token.isFixed_of_kind {token : Token} (notKeyword : token.kind ≠ .keyword) :
    token.IsFixed := by
  rintro word - rfl
  exact notKeyword rfl

/-- Any other keyword is no word of a part. -/
theorem Token.isFixed_keyword {word : Keyword} (isOther : word ∉ partWords) :
    (Token.keyword word).IsFixed :=
  fun _ member same => isOther (keyword_inj.1 same ▸ member)

namespace Worded

variable {dialect : Dialect} {parts more : List Part} {token : Token}
  {tokens first second terse terseSecond : List Token}

/-- Nothing has no parts. -/
theorem nil : Worded dialect [] [] [] :=
  .same [] (by simp)

/-- Tokens that no part brings, in front of others. -/
theorem prepend (fixed : ∀ token ∈ tokens, token.IsFixed)
    (right : Worded dialect parts first terse) :
    Worded dialect parts (tokens ++ first) (tokens ++ terse) :=
  .append (.same tokens fixed) right

/-- A token that no part brings. -/
theorem single (fixed : token.IsFixed) : Worded dialect [] [token] [token] :=
  .same [token] (by simpa using fixed)

/-- A token that no part brings, in front of others. -/
theorem cons (fixed : token.IsFixed) (right : Worded dialect parts first terse) :
    Worded dialect parts (token :: first) (token :: terse) :=
  .append (.single fixed) right

/-- Another keyword in front of tokens. -/
theorem keyword {word : Keyword} (isOther : word ∉ partWords)
    (right : Worded dialect parts first terse) :
    Worded dialect parts (.keyword word :: first) (.keyword word :: terse) :=
  right.cons (Token.isFixed_keyword isOther)

/-- Tokens that no part brings, behind others. -/
theorem concat (left : Worded dialect parts first terse) (fixed : ∀ token ∈ tokens, token.IsFixed) :
    Worded dialect parts (first ++ tokens) (terse ++ tokens) := by
  simpa using left.append (.same tokens fixed)

/-- Parentheses bring no parts. -/
theorem parenthesized (inside : Worded dialect parts first terse) :
    Worded dialect parts (parenthesized first) (parenthesized terse) :=
  (inside.cons (Token.isFixed_of_kind (by decide))).concat
    (by simpa using Token.isFixed_of_kind (by decide))

/-- Parentheses on demand. -/
theorem parenthesizedIf (wrapped : Bool) (inside : Worded dialect parts first terse) :
    Worded dialect parts (parenthesizedIf wrapped first) (parenthesizedIf wrapped terse) := by
  cases wrapped with
  | false => exact inside
  | true => exact inside.parenthesized

/-- Leaving words out leaves nothing only of nothing. -/
theorem nil_iff (worded : Worded dialect parts first terse) : first = [] ↔ terse = [] := by
  induction worded with
  | same => rfl
  | append _ _ left right => rw [List.append_eq_nil_iff, left, right, List.append_eq_nil_iff]
  | source source =>
    cases source.aliasName with
    | none => rfl
    | some aliasName => simp [aliasTokens]
  | projection projection =>
    cases projection.aliasName with
    | none => rfl
    | some aliasName => simp [aliasTokens]
  | join join => cases join.kind <;> simp [JoinKind.tokens]
  | matchBranch | branch => simp [branchTokens]

/-- Words in front of tokens, if there are any. -/
theorem introducedBy {words : List Keyword} (others : ∀ word ∈ words, word ∉ partWords)
    (inside : Worded dialect parts first terse) :
    Worded dialect parts (introducedBy words first) (introducedBy words terse) := by
  rw [SqlTree.introducedBy, SqlTree.introducedBy]
  by_cases empty : first = []
  · rw [if_pos empty, if_pos (inside.nil_iff.1 empty)]
    simpa [empty, inside.nil_iff.1 empty] using inside
  · rw [if_neg empty, if_neg (mt inside.nil_iff.2 empty)]
    refine inside.prepend fun token member => ?_
    obtain ⟨word, isWord, rfl⟩ := List.mem_map.1 member
    exact Token.isFixed_keyword (others word isWord)

/-- The minus sign before an operand that starts alike in both dialects. -/
theorem negated (inside : Worded dialect parts first terse) (sameHead : first.head? = terse.head?) :
    Worded dialect parts (negatedTokens first) (negatedTokens terse) := by
  rw [negatedTokens, negatedTokens, sameHead]
  exact (inside.parenthesizedIf _).cons (Token.isFixed_of_kind (by decide))

section Lists

variable {Item : Type} {items : List Item} {partsOf : Item → List Part}
  {tokensOf terseOf : Item → List Token}

/-- Several pieces, one after the other. -/
theorem flatten
    (each : ∀ item ∈ items, Worded dialect (partsOf item) (tokensOf item) (terseOf item)) :
    Worded dialect (items.flatMap partsOf) (items.map tokensOf).flatten
      (items.map terseOf).flatten := by
  induction items with
  | nil => exact .nil
  | cons item rest inductionHypothesis =>
    rw [List.forall_mem_cons] at each
    exact each.1.append (inductionHypothesis each.2)

/-- Pieces with a token between two of them that no part brings. -/
theorem intercalate {separator : Token} (fixed : separator.IsFixed)
    (each : ∀ item ∈ items, Worded dialect (partsOf item) (tokensOf item) (terseOf item)) :
    Worded dialect (items.flatMap partsOf) ([separator].intercalate (items.map tokensOf))
      ([separator].intercalate (items.map terseOf)) := by
  induction items with
  | nil => exact .nil
  | cons item rest inductionHypothesis =>
    rw [List.forall_mem_cons] at each
    have following := inductionHypothesis each.2
    cases rest with
    | nil => simpa using each.1
    | cons next others =>
      simp only [List.map_cons, List.intercalate_cons_cons, List.flatMap_cons, List.append_assoc]
        at following ⊢
      exact each.1.append (following.cons fixed)

/-- Pieces with commas between them. -/
theorem commaSeparated
    (each : ∀ item ∈ items, Worded dialect (partsOf item) (tokensOf item) (terseOf item)) :
    Worded dialect (items.flatMap partsOf) (commaSeparated (items.map tokensOf))
      (commaSeparated (items.map terseOf)) :=
  intercalate (Token.isFixed_of_kind (by decide)) each

/-- A clause that lists pieces. -/
theorem listClause {words : List Keyword} (others : ∀ word ∈ words, word ∉ partWords)
    (each : ∀ item ∈ items, Worded dialect (partsOf item) (tokensOf item) (terseOf item)) :
    Worded dialect (items.flatMap partsOf) (listClause words (items.map tokensOf))
      (listClause words (items.map terseOf)) := by
  rw [SqlTree.listClause, SqlTree.listClause]
  cases items with
  | nil => exact .nil
  | cons item rest =>
    rw [if_neg (by simp), if_neg (by simp)]
    refine (commaSeparated each).prepend fun token member => ?_
    obtain ⟨word, isWord, rfl⟩ := List.mem_map.1 member
    exact Token.isFixed_keyword (others word isWord)

/-- Pieces with a connective between those that are not empty. -/
theorem joinedBy {word : Keyword} (isOther : word ∉ partWords)
    (each : ∀ item ∈ items, Worded dialect (partsOf item) (tokensOf item) (terseOf item)) :
    Worded dialect (items.flatMap partsOf) (joinedBy word (items.map tokensOf))
      (joinedBy word (items.map terseOf)) := by
  induction items with
  | nil => exact .nil
  | cons item rest inductionHypothesis =>
    rw [List.forall_mem_cons] at each
    have following := inductionHypothesis each.2
    rw [List.flatMap_cons, List.map_cons, List.map_cons]
    by_cases empty : tokensOf item = []
    · have bothEmpty := each.1.nil_iff.1 empty
      rw [empty, bothEmpty, joinedBy_nil_cons, joinedBy_nil_cons]
      have front : Worded dialect (partsOf item) [] [] := by
        simpa [empty, bothEmpty] using each.1
      exact front.append following
    · have notEmpty := mt each.1.nil_iff.2 empty
      rw [joinedBy_cons empty, joinedBy_cons notEmpty]
      by_cases last : SqlTree.joinedBy word (rest.map tokensOf) = []
      · have bothLast := following.nil_iff.1 last
        rw [if_pos last, if_pos bothLast]
        have back : Worded dialect (rest.flatMap partsOf) [] [] := by
          simpa [last, bothLast] using following
        simpa using each.1.append back
      · rw [if_neg last, if_neg (mt following.nil_iff.2 last)]
        exact each.1.append (following.keyword isOther)

end Lists

/-- The words of a choice around its subject, its branches and what is left. -/
theorem choice {branches terseBranches : List (List Token)}
    {otherwise terseOtherwise : Option (List Token)} {branchParts otherwiseParts : List Part}
    (subject : Worded dialect parts first terse)
    (branch : Worded dialect branchParts branches.flatten terseBranches.flatten)
    (last : Worded dialect otherwiseParts (optionTokens .else otherwise)
      (optionTokens .else terseOtherwise)) :
    Worded dialect (parts ++ branchParts ++ otherwiseParts) (caseTokens first branches otherwise)
      (caseTokens terse terseBranches terseOtherwise) := by
  have start : (Token.keyword .case).IsFixed := Token.isFixed_keyword (by decide)
  have stop : ∀ token ∈ [Token.keyword .end], token.IsFixed := by
    simpa using Token.isFixed_keyword (by decide)
  have inside := (((subject.append branch).append last).cons start).concat stop
  simpa [caseTokens] using inside

end Worded

end SqlTree
