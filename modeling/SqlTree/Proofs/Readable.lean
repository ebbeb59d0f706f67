import SqlTree.Proofs.Lexing
import SqlTree.Tree.Tokens

/-!
# Reading parts off the front of tokens

A part of a statement is `Readable` if its tokens say what it is and where it
ends: when the tokens of two parts with something after them are the same, the
parts have the same value and what follows them is the same. Some tokens would
go on with the part if they stood after it, so these are excluded as the next
token (`Stops`).

Lists of readable parts are readable when the tokens that hold the list together
cannot be taken for parts of an element. What is not a list of parts is read
off directly: the words of sort keys and frames, and the names of columns.
-/

namespace SqlTree

/-- Whether a part can be told from others by its tokens, whatever follows that
does not go on with it. The value is what is to be known about the part. -/
def Readable {Part Value : Type} (among : Part → Prop) (tokens : Part → List Token)
    (value : Part → Value) (continues : Token → Bool) (part : Part) : Prop :=
  ∀ {other : Part} {rest otherRest : List Token}, among other →
    Stops continues rest → Stops continues otherRest →
    tokens part ++ rest = tokens other ++ otherRest →
    value part = value other ∧ rest = otherRest

/-- A token that does not go on with a value stops it. -/
theorem Token.stops_cons {continues : Token → Bool} {token : Token}
    (stops : continues token = false) (rest : List Token) : Stops continues (token :: rest) := by
  intro next isNext
  have same : token = next := by simpa using isNext
  rwa [← same]

section Lists

variable {Part Value : Type} {among : Part → Prop} {tokens : Part → List Token}
  {value : Part → Value} {continues starts : Token → Bool} {parts others : List Part}
  {rest otherRest : List Token}

/-- A next token that stops for two reasons stops for each. -/
theorem Stops.left {first second : Token → Bool}
    (stops : Stops (fun token => first token || second token) rest) : Stops first rest :=
  fun next isNext => (Bool.or_eq_false_iff.1 (stops next isNext)).1

theorem Stops.right {first second : Token → Bool}
    (stops : Stops (fun token => first token || second token) rest) : Stops second rest :=
  fun next isNext => (Bool.or_eq_false_iff.1 (stops next isNext)).2

/-- What stops at a token does not start with it. -/
theorem Stops.head_ne {first : Token} {tail : List Token} (holds : starts first = true)
    (stops : Stops starts rest) : rest ≠ first :: tail := by
  rintro rfl
  have fails := stops first rfl
  rw [holds] at fails
  exact absurd fails (by decide)

/-- What starts with a tag, or is nothing before what stops, stops. -/
theorem stops_flatMap {tag : Token} (tagStops : continues tag = false)
    (stops : Stops continues rest) (parts : List Part) :
    Stops continues (parts.flatMap (fun part => tag :: tokens part) ++ rest) := by
  cases parts with
  | nil => simpa using stops
  | cons part more => exact Token.stops_cons tagStops _

/-- Sequences of parts with a tag in front of each are readable off what follows
them: not the tag, and no token that goes on with a part. -/
theorem Readable.tagged {tag : Token}
    (each : ∀ part ∈ parts, Readable among tokens value continues part)
    (amongOthers : ∀ part ∈ others, among part) (tagStops : continues tag = false)
    (stops : Stops (fun token => continues token || token = tag) rest)
    (otherStops : Stops (fun token => continues token || token = tag) otherRest)
    (same : parts.flatMap (fun part => tag :: tokens part) ++ rest =
      others.flatMap (fun part => tag :: tokens part) ++ otherRest) :
    parts.map value = others.map value ∧ rest = otherRest := by
  induction parts generalizing others with
  | nil =>
    cases others with
    | nil => exact ⟨rfl, same⟩
    | cons other more => exact absurd same (stops.right.head_ne (decide_eq_true rfl))
  | cons part more inductionHypothesis =>
    cases others with
    | nil => exact absurd same.symm (otherStops.right.head_ne (decide_eq_true rfl))
    | cons other otherMore =>
      have amongOther := amongOthers other (by simp)
      have inside : tokens part ++ (more.flatMap (fun part => tag :: tokens part) ++ rest) =
          tokens other ++ (otherMore.flatMap (fun part => tag :: tokens part) ++ otherRest) := by
        simpa using same
      obtain ⟨sameValue, following⟩ := each part (by simp) amongOther
        (stops_flatMap tagStops stops.left more)
        (stops_flatMap tagStops otherStops.left otherMore) inside
      obtain ⟨sameValues, sameRest⟩ := inductionHypothesis
        (fun part member => each part (by simp [member]))
        (fun part member => amongOthers part (by simp [member])) following
      exact ⟨by rw [List.map_cons, List.map_cons, sameValue, sameValues], sameRest⟩

/-- The first of several parts has no comma in front of it, all others have. -/
theorem commaSeparated_map_cons (part : Part) (more : List Part) :
    commaSeparated ((part :: more).map tokens) =
      tokens part ++ more.flatMap fun part => .comma :: tokens part := by
  induction more generalizing part with
  | nil => simp [commaSeparated]
  | cons next more inductionHypothesis =>
    rw [List.map_cons, List.map_cons, commaSeparated, List.intercalate_cons_cons,
      ← List.map_cons, ← commaSeparated, inductionHypothesis next]
    simp

/-- Lists with commas between their elements are readable off what follows them:
not a comma, and no token that goes on with an element or starts one. -/
theorem Readable.commaSeparated
    (each : ∀ part ∈ parts, Readable among tokens value continues part)
    (amongParts : ∀ part ∈ parts, among part) (amongOthers : ∀ part ∈ others, among part)
    (begins : ∀ part, among part → ∃ first tail, tokens part = first :: tail ∧
      starts first = true)
    (comma : continues .comma = false)
    (stops : Stops (fun token => starts token || (continues token || token = .comma)) rest)
    (otherStops :
      Stops (fun token => starts token || (continues token || token = .comma)) otherRest)
    (same : SqlTree.commaSeparated (parts.map tokens) ++ rest =
      SqlTree.commaSeparated (others.map tokens) ++ otherRest) :
    parts.map value = others.map value ∧ rest = otherRest := by
  cases parts with
  | nil =>
    cases others with
    | nil => exact ⟨rfl, same⟩
    | cons other more =>
      obtain ⟨first, tail, shape, isStart⟩ := begins other (amongOthers other (by simp))
      rw [commaSeparated_map_cons, shape] at same
      exact absurd same (stops.left.head_ne isStart)
  | cons part more =>
    cases others with
    | nil =>
      obtain ⟨first, tail, shape, isStart⟩ := begins part (amongParts part (by simp))
      rw [commaSeparated_map_cons, shape] at same
      exact absurd same.symm (otherStops.left.head_ne isStart)
    | cons other otherMore =>
      rw [commaSeparated_map_cons, commaSeparated_map_cons, List.append_assoc,
        List.append_assoc] at same
      obtain ⟨sameValue, following⟩ := each part (by simp) (amongOthers other (by simp))
        (stops_flatMap comma stops.right.left more)
        (stops_flatMap comma otherStops.right.left otherMore) same
      obtain ⟨sameValues, sameRest⟩ := Readable.tagged
        (fun part member => each part (by simp [member]))
        (fun part member => amongOthers part (by simp [member])) comma stops.right
        otherStops.right following
      exact ⟨by rw [List.map_cons, List.map_cons, sameValue, sameValues], sameRest⟩

/-- A clause that lists parts starts with its word, or is nothing before what
stops. -/
theorem stops_listClause {word : Keyword} {words : List Keyword}
    (wordStops : continues (.keyword word) = false) (stops : Stops continues rest)
    (parts : List (List Token)) : Stops continues (listClause (word :: words) parts ++ rest) := by
  rw [listClause]
  split
  · exact stops
  · exact Token.stops_cons wordStops _

/-- Clauses that list parts after their words are readable off what follows them:
not their words, not a comma, and no token that goes on with a part or starts
one. -/
theorem Readable.listClause {word : Keyword} {words : List Keyword}
    (each : ∀ part ∈ parts, Readable among tokens value continues part)
    (amongParts : ∀ part ∈ parts, among part) (amongOthers : ∀ part ∈ others, among part)
    (begins : ∀ part, among part → ∃ first tail, tokens part = first :: tail ∧
      starts first = true)
    (comma : continues .comma = false)
    (stops : Stops (fun token => token = .keyword word ||
      (starts token || (continues token || token = .comma))) rest)
    (otherStops : Stops (fun token => token = .keyword word ||
      (starts token || (continues token || token = .comma))) otherRest)
    (same : SqlTree.listClause (word :: words) (parts.map tokens) ++ rest =
      SqlTree.listClause (word :: words) (others.map tokens) ++ otherRest) :
    parts.map value = others.map value ∧ rest = otherRest := by
  have present : ∀ {parts : List Part}, parts ≠ [] → ∀ rest,
      SqlTree.listClause (word :: words) (parts.map tokens) ++ rest =
        .keyword word :: (words.map Token.keyword ++
          (SqlTree.commaSeparated (parts.map tokens) ++ rest)) := by
    intro parts notNil rest
    rw [SqlTree.listClause, if_neg (by simpa using notNil)]
    simp
  by_cases empty : parts = []
  · by_cases otherEmpty : others = []
    · subst empty otherEmpty
      exact ⟨rfl, same⟩
    · subst empty
      rw [present otherEmpty] at same
      exact absurd same (stops.left.head_ne (decide_eq_true rfl))
  · by_cases otherEmpty : others = []
    · subst otherEmpty
      rw [present empty] at same
      exact absurd same.symm (otherStops.left.head_ne (decide_eq_true rfl))
    · rw [present empty, present otherEmpty] at same
      simp only [List.cons.injEq, true_and, List.append_cancel_left_eq] at same
      exact Readable.commaSeparated each amongParts amongOthers begins comma stops.right
        otherStops.right same

/-- An optional part after its keyword is read off what follows it, if the part
is. -/
theorem optionTokens_cancel {word : Keyword} {part other : Option Part}
    (wordGoesOn : continues (.keyword word) = true)
    (stops : Stops continues rest) (otherStops : Stops continues otherRest)
    (inside : ∀ body ∈ part, ∀ otherBody ∈ other,
      tokens body ++ rest = tokens otherBody ++ otherRest →
        value body = value otherBody ∧ rest = otherRest)
    (same : optionTokens word (part.map tokens) ++ rest =
      optionTokens word (other.map tokens) ++ otherRest) :
    part.map value = other.map value ∧ rest = otherRest := by
  cases part with
  | none =>
    cases other with
    | none => exact ⟨rfl, same⟩
    | some otherBody => exact absurd same (stops.head_ne wordGoesOn)
  | some body =>
    cases other with
    | none => exact absurd same.symm (otherStops.head_ne wordGoesOn)
    | some otherBody =>
      simp only [Option.map_some, optionTokens, List.cons_append, List.cons.injEq,
        true_and] at same
      obtain ⟨sameValue, sameRest⟩ := inside body rfl otherBody rfl same
      exact ⟨by rw [Option.map_some, Option.map_some, sameValue], sameRest⟩

end Lists

end SqlTree
