import Mathlib.Data.List.Nodup
import SqlTree.Proofs.Phrase

/-!
# Nesting of tokens

How deep a token is: the number of parentheses around it or, where the two words
around a choice are to count as well, the number of parentheses and choices. Where
a part of a statement starts and ends is a matter of its outermost tokens, those of
depth zero, whatever is nested in it.

A phrase closes everything that it opens, and outside of that it shows no more than
its breadth admits (`Phrase.balanced`). So nothing in it is taken for a token of what
is around it, and it can be passed over as a whole.
-/

namespace SqlTree

namespace Keyword

/-- Keywords that are spelled alike are the same. -/
theorem text_injective : Function.Injective text := by
  intro word other same
  have distinct : (every.map text).Nodup := by decide +kernel
  exact List.inj_on_of_nodup_map distinct word.mem_every other.mem_every same

end Keyword

namespace Token

/-- The tokens of keywords are the same exactly if the keywords are. -/
@[simp] theorem keyword_inj {word other : Keyword} :
    keyword word = keyword other ↔ word = other := by
  simp [keyword, Keyword.text_injective.eq_iff]

/-- Whether what follows is one deeper. -/
def opens (choices : Bool) (token : Token) : Bool :=
  token.kind = .opening || choices && token = .keyword .case

/-- Whether what follows is one less deep. -/
def closes (choices : Bool) (token : Token) : Bool :=
  token.kind = .closing || choices && token = .keyword .end

/-- The depth of what follows a token of the given depth. -/
def depthAfter (choices : Bool) (depth : Nat) (token : Token) : Nat :=
  if token.opens choices then depth + 1
  else if token.closes choices then depth - 1
  else depth

/-- Each token with its depth, if the first one has the given depth. -/
def withDepth (choices : Bool) : Nat → List Token → List (Token × Nat)
  | _, [] => []
  | depth, token :: rest =>
    (token, depth) :: withDepth choices (token.depthAfter choices depth) rest

variable {choices : Bool} {depth : Nat} {token : Token} {first second tokens : List Token}

/-- Depths are given to all tokens and change none of them. -/
@[simp] theorem map_fst_withDepth : (withDepth choices depth tokens).map Prod.fst = tokens := by
  induction tokens generalizing depth with
  | nil => rfl
  | cons token rest inductionHypothesis => simp [withDepth, inductionHypothesis]

/-- Tokens after others have the depths that the others leave behind. -/
theorem withDepth_append :
    withDepth choices depth (first ++ second) =
      withDepth choices depth first ++
        withDepth choices (first.foldl (depthAfter choices) depth) second := by
  induction first generalizing depth with
  | nil => rfl
  | cons token rest inductionHypothesis => simp [withDepth, inductionHypothesis]

end Token

open Token

/-- Tokens that close what they open. Those that are outside of it are as described. -/
structure Balanced (choices : Bool) (shown : Token → Prop) (tokens : List Token) : Prop where
  closed : ∀ depth, tokens.foldl (depthAfter choices) depth = depth
  outside : ∀ depth, ∀ entry ∈ withDepth choices depth tokens,
    depth < entry.2 ∨ entry.2 = depth ∧ shown entry.1

namespace Balanced

variable {choices : Bool} {shown wider : Token → Prop} {token : Token}
  {first second tokens : List Token}

/-- No tokens are balanced. -/
theorem nil : Balanced choices shown [] where
  closed := fun _ => rfl
  outside := by simp [withDepth]

/-- A token that neither opens nor closes is balanced. -/
theorem single (holds : shown token) (notOpening : token.opens choices = false)
    (notClosing : token.closes choices = false) : Balanced choices shown [token] where
  closed := by simp [depthAfter, notOpening, notClosing]
  outside := by simpa [withDepth] using holds

/-- Balanced tokens, one after the other. -/
theorem append (left : Balanced choices shown first) (right : Balanced choices shown second) :
    Balanced choices shown (first ++ second) where
  closed := fun depth => by rw [List.foldl_append, left.closed, right.closed]
  outside := fun depth entry member => by
    rw [withDepth_append, left.closed, List.mem_append] at member
    exact member.elim (left.outside depth entry) (right.outside depth entry)

/-- A token that neither opens nor closes, before balanced ones. -/
theorem cons (holds : shown token) (notOpening : token.opens choices = false)
    (notClosing : token.closes choices = false) (right : Balanced choices shown tokens) :
    Balanced choices shown (token :: tokens) :=
  append (single holds notOpening notClosing) right

/-- What is shown may be described less closely. -/
theorem mono (balanced : Balanced choices shown tokens)
    (implies : ∀ token, shown token → wider token) : Balanced choices wider tokens where
  closed := balanced.closed
  outside := fun depth entry member =>
    (balanced.outside depth entry member).imp_right fun ⟨same, holds⟩ => ⟨same, implies _ holds⟩

/-- What is between a token that opens and one that closes is not shown. -/
theorem enclosed {opening closing : Token} (balanced : Balanced choices wider tokens)
    (opens : opening.opens choices = true) (notOpening : closing.opens choices = false)
    (closes : closing.closes choices = true) (holds : shown opening) :
    Balanced choices shown (opening :: tokens ++ [closing]) where
  closed := fun depth => by
    simp [depthAfter, opens, notOpening, closes, List.foldl_append, balanced.closed]
  outside := fun depth entry member => by
    simp only [List.cons_append, withDepth, withDepth_append, balanced.closed, List.mem_cons,
      List.mem_append, List.not_mem_nil, or_false] at member
    rcases member with rfl | inside | rfl
    · exact .inr ⟨rfl, holds⟩
    · rcases balanced.outside _ entry inside with deeper | ⟨same, -⟩ <;>
        simp only [depthAfter, opens, if_true] at * <;> omega
    · exact .inl (by simp [depthAfter, opens])

/-- What is between parentheses is not shown. -/
theorem parenthesized (balanced : Balanced choices wider tokens) (holds : shown .opening) :
    Balanced choices shown (parenthesized tokens) :=
  enclosed balanced rfl (by cases choices <;> decide) rfl holds

/-- Balanced tokens leave the depth of what follows them as it is. -/
theorem withDepth_append (balanced : Balanced choices shown first) (depth : Nat) :
    withDepth choices depth (first ++ second) =
      withDepth choices depth first ++ withDepth choices depth second := by
  rw [Token.withDepth_append, balanced.closed]

/-- No token of balanced ones is less deep than the first of them. -/
theorem depth_le (balanced : Balanced choices shown tokens) {depth : Nat} {entry : Token × Nat}
    (member : entry ∈ withDepth choices depth tokens) : depth ≤ entry.2 := by
  rcases balanced.outside depth entry member with deeper | ⟨same, -⟩ <;> omega

end Balanced

/-- Whether a phrase of the breadth can show the token. Commas stand between the
elements of lists, and keywords are admitted or not. -/
def Breadth.Shows (breadth : Breadth) (token : Token) : Prop :=
  (token = .comma → breadth = .clause) ∧
    ∀ word, token = .keyword word → word = .case ∨ word = .end ∨ breadth.admits word = true

/-- The breadth of what a phrase shows. Where the words around a choice do not count,
a value shows what the choices in it hold. -/
def Breadth.unfolded (choices : Bool) (breadth : Breadth) : Breadth :=
  if choices = false ∧ breadth = .value then .element else breadth

namespace Breadth

variable {choices : Bool} {breadth narrow wide : Breadth} {token : Token}

/-- A phrase shows at least what its breadth admits. -/
theorem rank_le_unfolded : breadth.rank ≤ (breadth.unfolded choices).rank := by
  cases choices <;> cases breadth <;> decide

/-- Every phrase shows what its choices hold if these do not count. -/
theorem rank_element_le_unfolded : Breadth.element.rank ≤ (breadth.unfolded false).rank := by
  cases breadth <;> decide

/-- A breadth shows no token that a wider one does not show. -/
theorem Shows.widen (shown : narrow.Shows token) (within : narrow.rank ≤ wide.rank) :
    wide.Shows token := by
  refine ⟨fun isComma => ?_, fun word isKeyword => ?_⟩
  · have isClause := shown.1 isComma
    subst isClause
    cases wide <;> simp_all [rank]
  · exact (shown.2 word isKeyword).imp_right (Or.imp_right (admits_of_rank_le within))

/-- Every breadth shows the tokens that are neither commas nor keywords. -/
theorem Shows.of_kind (notComma : token.kind ≠ .comma) (notKeyword : token.kind ≠ .keyword) :
    breadth.Shows token := by
  refine ⟨?_, ?_⟩
  · rintro rfl
    exact absurd rfl notComma
  · rintro word rfl
    exact absurd rfl notKeyword

/-- A breadth shows the keywords that it admits, and the two words around a choice. -/
theorem Shows.keyword {word : Keyword}
    (which : word = .case ∨ word = .end ∨ breadth.admits word = true) :
    breadth.Shows (.keyword word) := by
  refine ⟨fun isComma => ?_, fun other same => ?_⟩
  · exact absurd (congrArg Token.kind isComma) (by simp [Token.keyword, Token.comma])
  · rwa [← Token.keyword_inj.1 same]

end Breadth

namespace Token

/-- Of the keywords, the first word of a choice opens it. -/
@[simp] theorem opens_keyword (choices : Bool) (word : Keyword) :
    (keyword word).opens choices = (choices && word = .case) := by
  have notOpening : (keyword word).kind ≠ .opening := by simp [keyword]
  simp [opens, notOpening]

/-- Of the keywords, the last word of a choice closes it. -/
@[simp] theorem closes_keyword (choices : Bool) (word : Keyword) :
    (keyword word).closes choices = (choices && word = .end) := by
  have notClosing : (keyword word).kind ≠ .closing := by simp [keyword]
  simp [closes, notClosing]

end Token

/-- A token of another kind is no keyword. -/
theorem Token.ne_keyword {token : Token} (kind : token.kind ≠ .keyword) (word : Keyword) :
    token ≠ .keyword word := by
  rintro rfl
  exact kind rfl

/-- No breadth admits the two words around a choice. -/
theorem Breadth.ne_of_admits {breadth : Breadth} {word : Keyword}
    (admitted : breadth.admits word = true) : word ≠ .case ∧ word ≠ .end := by
  constructor <;> rintro rfl <;> simp [admits] at admitted

/-- A token that is neither a keyword nor a comma or parenthesis, before balanced
ones. -/
theorem Balanced.consPlain {choices : Bool} {breadth : Breadth} {token : Token}
    {tokens : List Token} (kind : token.kind ∉ [.comma, .keyword, .opening, .closing])
    (right : Balanced choices breadth.Shows tokens) :
    Balanced choices breadth.Shows (token :: tokens) := by
  simp only [List.mem_cons, List.not_mem_nil, or_false, not_or] at kind
  obtain ⟨notComma, notKeyword, notOpening, notClosing⟩ := kind
  have notWord := Token.ne_keyword notKeyword
  exact right.cons (.of_kind notComma notKeyword) (by simp [opens, notOpening, notWord])
    (by simp [closes, notClosing, notWord])

/-- A keyword that is no part of a choice is balanced. -/
theorem Balanced.keyword {choices : Bool} {breadth : Breadth} {word : Keyword}
    (admitted : breadth.admits word = true) :
    Balanced choices breadth.Shows [.keyword word] := by
  obtain ⟨notCase, notEnd⟩ := Breadth.ne_of_admits admitted
  exact .single (.keyword (.inr (.inr admitted))) (by simp [notCase]) (by simp [notEnd])

/-- The two words of a choice and what is between them are balanced. -/
theorem Balanced.choice {breadth : Breadth} {body : List Token} (choices : Bool)
    (inside : Balanced choices (Breadth.element.unfolded choices).Shows body) :
    Balanced choices (breadth.unfolded choices).Shows
      (.keyword .case :: body ++ [.keyword .end]) := by
  cases choices with
  | true => exact inside.enclosed (by simp) (by simp) (by simp) (.keyword (.inl rfl))
  | false =>
    have wider : Balanced false (breadth.unfolded false).Shows body :=
      inside.mono fun _ shown => shown.widen Breadth.rank_element_le_unfolded
    exact (wider.cons (.keyword (.inl rfl)) (by simp) (by simp)).append
      (.single (.keyword (.inr (.inl rfl))) (by simp) (by simp))

/-- A phrase closes what it opens, and outside of that it shows what its breadth
admits. -/
theorem Phrase.balanced {breadth : Breadth} {tokens : List Token} (phrase : Phrase breadth tokens)
    (choices : Bool) : Balanced choices (breadth.unfolded choices).Shows tokens := by
  induction phrase with
  | keyword word admitted =>
    exact .keyword (Breadth.admits_of_rank_le Breadth.rank_le_unfolded admitted)
  | number | text | placeholder | name | star =>
    exact .consPlain (by simp [literal, identifier]) .nil
  | member _ _ column =>
    exact .consPlain (by simp [identifier]) (.consPlain (by simp [dot]) column)
  | emptyParentheses =>
    have inside : Balanced choices (fun _ => True) [] := .nil
    exact inside.parenthesized (.of_kind (by simp [opening]) (by simp [opening]))
  | parentheses _ inside =>
    exact inside.parenthesized (.of_kind (by simp [opening]) (by simp [opening]))
  | call _ _ arguments | wordCall _ _ arguments => exact arguments.consPlain (by simp [callee])
  | append _ _ left right => exact left.append right
  | operation _ _ _ _ left right => exact left.append (right.consPlain (by simp [operator]))
  | list _ _ left right =>
    have shown : (Breadth.clause.unfolded choices).Shows .comma :=
      ⟨fun _ => by simp [Breadth.unfolded], fun word isKeyword =>
        absurd (congrArg kind isKeyword) (by simp [comma, Token.keyword])⟩
    exact left.append (right.cons shown (by cases choices <;> decide) (by cases choices <;> decide))
  | negation _ _ inside => exact inside.consPlain (by simp [minus])
  | emptyChoice => exact Balanced.nil.choice choices
  | choice _ inside => exact inside.choice choices

end SqlTree
