import SqlTree.Operator
import SqlTree.Proofs.Nesting

/-!
# Connectives among tokens

Of the tokens outside parentheses and choices, `AND`, `OR` and `NOT` are connectives,
except for the words that belong to a predicate: the `AND` that completes a `BETWEEN`,
and the `NOT` before `BETWEEN`, `LIKE` or `IN` or after `IS` (`connectives`).

Whether a token is a connective depends on the tokens before it through two flags
only. So what a sequence of tokens does to the flags and which connectives it has, it
does and has wherever it stands (`Scans`), and a sequence may be scanned in two parts.
-/

namespace SqlTree

open Token

/-- The words before which `NOT` belongs to a predicate. -/
def inlineWords : List Keyword :=
  [.between, .like, .in]

/-- The words that decide what is a connective. -/
def conditionWords : List Keyword :=
  [.and, .or, .not, .is, .between, .like, .in]

/-- Tokens with their depths, each with whether it is a connective. The flags say
whether a `BETWEEN` waits for its `AND`, and whether the token before is `IS`. -/
def connectives : Bool → Bool → List (Token × Nat) → List (Token × Bool)
  | _, _, [] => []
  | between, afterIs, (token, depth) :: rest =>
    if 0 < depth then (token, false) :: connectives between false rest
    else if token = .keyword .and then (token, !between) :: connectives false false rest
    else if token = .keyword .or then (token, true) :: connectives between false rest
    else if token = .keyword .not then
      (token, !(afterIs ||
        rest.head?.any fun next => inlineWords.any fun word => next.1 = .keyword word)) ::
          connectives between false rest
    else
      (token, false) ::
        connectives (between || token = .keyword .between) (token = .keyword .is) rest

/-- Each token with whether it is a connective. -/
def marked (tokens : List Token) : List (Token × Bool) :=
  connectives false false (withDepth true 0 tokens)

/-- Each token as one that is no connective. -/
def unmarked (tokens : List Token) : List (Token × Bool) :=
  tokens.map fun token => (token, false)

/-- A token that has no say in what is a connective. -/
def Token.IsSilent (token : Token) : Prop :=
  ∀ word ∈ conditionWords, token ≠ .keyword word

/-- Tokens that close what they open and show only such that have no say in what is a
connective. -/
def Silent (tokens : List Token) : Prop :=
  Balanced true IsSilent tokens

/-- Tokens that close what they open, take the flags from one state to another, and
have the connectives that are marked, whatever follows them. -/
structure Scans (before after : Bool × Bool) (tokens : List Token)
    (marks : List (Token × Bool)) : Prop where
  closed : tokens.foldl (depthAfter true) 0 = 0
  connectives : ∀ rest : List (Token × Nat),
    connectives before.1 before.2 (withDepth true 0 tokens ++ rest) =
      marks ++ connectives after.1 after.2 rest

section

variable {between afterIs : Bool} {entries : List (Token × Nat)} {token : Token}
  {word : Keyword} {tokens first second : List Token}

/-- Marking connectives changes no token. -/
theorem map_fst_connectives :
    (connectives between afterIs entries).map Prod.fst = entries.map Prod.fst := by
  induction entries generalizing between afterIs with
  | nil => rfl
  | cons entry rest inductionHypothesis =>
    obtain ⟨token, depth⟩ := entry
    rw [connectives]
    split_ifs <;> simp [inductionHypothesis]

/-- Marking connectives changes no token. -/
@[simp] theorem map_fst_marked (tokens : List Token) :
    (marked tokens).map Prod.fst = tokens := by
  rw [marked, map_fst_connectives, map_fst_withDepth]

/-- As many tokens are marked as there are. -/
@[simp] theorem length_marked (tokens : List Token) : (marked tokens).length = tokens.length := by
  rw [← List.length_map Prod.fst, map_fst_marked]

@[simp] theorem map_fst_unmarked (tokens : List Token) :
    (unmarked tokens).map Prod.fst = tokens := by
  simp [unmarked, Function.comp_def]

@[simp] theorem unmarked_nil : unmarked [] = [] :=
  rfl

@[simp] theorem unmarked_cons (token : Token) (tokens : List Token) :
    unmarked (token :: tokens) = (token, false) :: unmarked tokens :=
  rfl

@[simp] theorem unmarked_append (first second : List Token) :
    unmarked (first ++ second) = unmarked first ++ unmarked second :=
  List.map_append

/-- A value shows none of the words. -/
theorem Phrase.silent (phrase : Phrase .value tokens) : Silent tokens := by
  refine (phrase.balanced true).mono fun token shown word member isWord => ?_
  have known := shown.2 word isWord
  simp only [Breadth.unfolded, Bool.true_eq_false, false_and, if_false] at known
  revert known
  simp only [conditionWords, List.mem_cons, List.not_mem_nil, or_false] at member
  rcases member with rfl | rfl | rfl | rfl | rfl | rfl | rfl <;> decide

/-- Tokens that are no keywords have no say. -/
theorem Token.isSilent_of_kind (notKeyword : token.kind ≠ .keyword) : token.IsSilent := by
  rintro word - rfl
  exact notKeyword rfl

namespace Silent

/-- What is between parentheses is not shown. -/
theorem parenthesized {shown : Token → Prop} (balanced : Balanced true shown tokens) :
    Silent (parenthesized tokens) :=
  Balanced.parenthesized balanced (isSilent_of_kind (by decide))

/-- Silent tokens, one after the other. -/
theorem append (left : Silent first) (right : Silent second) : Silent (first ++ second) :=
  Balanced.append left right

/-- An operator before silent tokens. -/
theorem operator (text : String) (right : Silent tokens) :
    Silent (.operator text :: tokens) :=
  Balanced.cons (isSilent_of_kind (by simp [Token.operator]))
    (by simp [opens, Token.operator, Token.keyword])
    (by simp [closes, Token.operator, Token.keyword]) right

/-- Another word before silent tokens. -/
theorem keyword (noSay : word ∉ conditionWords) (notCase : word ≠ .case)
    (notEnd : word ≠ .end) (right : Silent tokens) : Silent (.keyword word :: tokens) := by
  refine Balanced.cons (fun other member same => ?_) (by simp [notCase]) (by simp [notEnd]) right
  rw [keyword_inj.1 same] at noSay
  exact noSay member

/-- The first of silent tokens has no say. -/
theorem head (silent : Silent (token :: tokens)) : token.IsSilent := by
  rcases silent.outside 0 (token, 0) List.mem_cons_self with deeper | ⟨-, shown⟩
  · exact absurd deeper (Nat.lt_irrefl 0)
  · exact shown

end Silent

/-- A token that has no say takes back that the token before it is `IS`, and nothing
else. -/
theorem connectives_cons_of_silent {entry : Token × Nat}
    (silent : 0 < entry.2 ∨ entry.1.IsSilent) :
    connectives between afterIs (entry :: entries) =
      (entry.1, false) :: connectives between false entries := by
  obtain ⟨token, depth⟩ := entry
  rw [connectives]
  rcases silent with deep | isSilent
  · rw [if_pos deep]
  · have different : ∀ word ∈ conditionWords, token ≠ .keyword word := isSilent
    simp only [conditionWords, List.forall_mem_cons] at different
    simp [different]

/-- Tokens that have no say are no connectives and leave the flags as they are. -/
theorem connectives_append_of_silent {rest : List (Token × Nat)}
    (silent : ∀ entry ∈ entries, 0 < entry.2 ∨ entry.1.IsSilent) :
    connectives between false (entries ++ rest) =
      unmarked (entries.map Prod.fst) ++ connectives between false rest := by
  induction entries with
  | nil => rfl
  | cons entry others inductionHypothesis =>
    rw [List.forall_mem_cons] at silent
    rw [List.cons_append, connectives_cons_of_silent silent.1, inductionHypothesis silent.2]
    rfl

namespace Scans

variable {before middle after : Bool × Bool} {marks more : List (Token × Bool)}

/-- Tokens are marked as they are scanned. -/
theorem marked_eq (scans : Scans (false, false) after tokens marks) :
    marked tokens = marks := by
  have alone := scans.connectives []
  simpa [marked, SqlTree.connectives] using alone

/-- Tokens may be scanned in two parts. -/
theorem append (left : Scans before middle first marks)
    (right : Scans middle after second more) :
    Scans before after (first ++ second) (marks ++ more) where
  closed := by rw [List.foldl_append, left.closed, right.closed]
  connectives := fun rest => by
    rw [Token.withDepth_append, left.closed, List.append_assoc, left.connectives,
      right.connectives, List.append_assoc]

/-- Silent tokens have no connectives. -/
theorem silent (silent : Silent tokens) (notNil : tokens ≠ []) :
    Scans (between, afterIs) (between, false) tokens (unmarked tokens) where
  closed := silent.closed 0
  connectives := fun rest => by
    have each : ∀ entry ∈ withDepth true 0 tokens, 0 < entry.2 ∨ entry.1.IsSilent :=
      fun entry member => (silent.outside 0 entry member).imp_right And.right
    cases tokens with
    | nil => exact absurd rfl notNil
    | cons token others =>
      rw [withDepth, List.forall_mem_cons] at each
      rw [withDepth, List.cons_append, connectives_cons_of_silent each.1,
        connectives_append_of_silent each.2, map_fst_withDepth, unmarked_cons, List.cons_append]

/-- A connective between two predicates. -/
theorem connective (connective : Connective) :
    Scans (false, false) (false, false) [.keyword connective.keyword]
      [(.keyword connective.keyword, true)] := by
  cases connective <;>
    exact ⟨by simp [depthAfter, Connective.keyword],
      fun rest => by simp [withDepth, SqlTree.connectives, Connective.keyword]⟩

/-- `NOT` is a connective, unless a word that makes it part of a predicate follows. -/
theorem negation (scans : Scans (false, false) after (token :: tokens) marks)
    (different : ∀ word ∈ inlineWords, token ≠ .keyword word) :
    Scans (false, false) after (.keyword .not :: token :: tokens)
      ((.keyword .not, true) :: marks) where
  closed := by simpa [depthAfter] using scans.closed
  connectives := fun rest => by
    have following := scans.connectives rest
    rw [withDepth, List.cons_append] at following ⊢
    simp only [inlineWords, List.forall_mem_cons] at different
    have sameDepth : (Token.keyword .not).depthAfter true 0 = 0 := by simp [depthAfter]
    rw [sameDepth, SqlTree.connectives]
    simp [withDepth, inlineWords, different, following]

/-- A word after which a predicate goes on, with or without `NOT`, has no connective.
`BETWEEN` waits for its `AND`. -/
theorem inlineWord (word : Keyword) (member : word ∈ inlineWords) (negated : Bool) :
    Scans (false, false) (word = .between, false) (keywordIf negated .not ++ [.keyword word])
      (unmarked (keywordIf negated .not ++ [.keyword word])) := by
  simp only [inlineWords, List.mem_cons, List.not_mem_nil, or_false] at member
  rcases member with rfl | rfl | rfl <;> cases negated <;>
    exact ⟨by simp [keywordIf, depthAfter],
      fun rest => by
        simp [keywordIf, withDepth, depthAfter, SqlTree.connectives, inlineWords]⟩

/-- The `AND` that completes a `BETWEEN` is no connective. -/
theorem completion : Scans (true, false) (false, false) [.keyword .and]
    (unmarked [.keyword .and]) :=
  ⟨by simp [depthAfter], fun rest => by simp [withDepth, SqlTree.connectives]⟩

/-- The words after which something is null or not have no connective. -/
theorem nullness (negated : Bool) :
    Scans (false, false) (false, false) (.keyword .is :: keywordIf negated .not ++ [.keyword .null])
      (unmarked (.keyword .is :: keywordIf negated .not ++ [.keyword .null])) := by
  cases negated <;>
    exact ⟨by simp [keywordIf, depthAfter],
      fun rest => by simp [keywordIf, withDepth, depthAfter, SqlTree.connectives]⟩

end Scans

end

end SqlTree
