import SqlTree.Proofs.Phrase.Rendering
import SqlTree.Proofs.Reading

/-!
# Conditions that can be read

A grammar of conditions (`Formula.Written`): atomic predicates, what is between
parentheses, and what is put together by `NOT`, `AND` and `OR`, such that whatever is
bound more loosely than its place allows stands between parentheses. The reader gives
back the statement that is written by it (`Formula.Written.isRead`).

What carries the induction is more than that (`Formula.IsRead`). To be cut in the right
places, tokens have to be scanned on their own, and must not show a connective that is
looser than those that they are read by.
-/

namespace SqlTree

open Token

/-- Whether a predicate is not made of other conditions. -/
def Predicate.isAtomic : Predicate → Bool
  | .group _ | .negation _ => false
  | _ => true

/-- The tokens of statements whose connectives are at most as loose as given. Every
connective that is looser than its place stands between parentheses. -/
inductive Formula.Written (context : Context) :
    Option Connective → Formula Predicate → List Token → Prop where
  | atom {predicate : Predicate} (atomic : predicate.isAtomic = true) :
      Written context none (.atom predicate) (predicate.tokens context)
  | parentheses {formula : Formula Predicate} {tokens : List Token}
      (inside : Written context (some .or) formula tokens) :
      Written context none formula (parenthesized tokens)
  | negation {formula : Formula Predicate} {tokens : List Token}
      (operand : Written context none formula tokens) :
      Written context none (.negation formula) (.keyword .not :: tokens)
  | single {connective : Connective} {formula : Formula Predicate} {tokens : List Token}
      (tight : Written context connective.tighter formula tokens) :
      Written context (some connective) formula tokens
  | join {connective : Connective} {first second : Formula Predicate}
      {before after : List Token} (left : Written context connective.tighter first before)
      (right : Written context (some connective) second after) :
      Written context (some connective) (.join connective first second)
        (before ++ .keyword connective.keyword :: after)

/-- What is written in one place may be written in a looser one. -/
theorem Formula.Written.widen {context : Context} {tight loose : Option Connective}
    {formula : Formula Predicate} {tokens : List Token}
    (written : Written context tight formula tokens) (within : looseness tight ≤ looseness loose) :
    Written context loose formula tokens := by
  match tight, loose, written with
  | none, none, written | some .and, some .and, written | some .or, some .or, written =>
    exact written
  | none, some .and, written => exact .single written
  | none, some .or, written => exact .single (.single written)
  | some .and, some .or, written => exact .single written
  | some .and, none, _ | some .or, none, _ | some .or, some .and, _ =>
    exact absurd within (by decide)

section Predicates

variable {predicate : Predicate}

/-- A value has no connectives. -/
theorem Scans.ofValue {between afterIs : Bool} {tokens : List Token}
    (phrase : Phrase .value tokens) :
    Scans (between, afterIs) (between, false) tokens (unmarked tokens) :=
  .silent phrase.silent phrase.ne_nil

/-- The value that an atomic predicate starts with is scanned from the start. -/
theorem Scans.subject (context : Context) (subject : Expr) :
    Scans (false, false) (false, false) (subject.tokens context)
      (unmarked (subject.tokens context)) :=
  .ofValue (subject.phrase context)

/-- The words of an atomic predicate are no connectives. -/
theorem Predicate.scans (context : Context) (atomic : predicate.isAtomic = true) :
    Scans (false, false) (false, false) (predicate.tokens context)
      (unmarked (predicate.tokens context)) := by
  cases predicate with
  | comparison left operator right =>
    exact .silent ((left.phrase context).silent.append
      ((right.phrase context).silent.operator operator.text)) (by simp [Predicate.tokens])
  | between subject low high negated =>
    have lowPart := (Scans.inlineWord .between (by decide) negated).append
      (Scans.ofValue (low.phrase context))
    have highPart := Scans.completion.append (Scans.ofValue (high.phrase context))
    have whole := (Scans.subject context subject).append (lowPart.append highPart)
    simpa [Predicate.tokens] using whole
  | like subject pattern negated =>
    have patternPart := (Scans.inlineWord .like (by decide) negated).append
      (Scans.ofValue (pattern.phrase context))
    have whole := (Scans.subject context subject).append patternPart
    simpa [Predicate.tokens] using whole
  | isNull subject negated =>
    have whole := (Scans.subject context subject).append (Scans.nullness negated)
    simpa [Predicate.tokens] using whole
  | isIn subject values negated =>
    have valuesPart := (Scans.inlineWord .in (by decide) negated).append
      (Scans.ofValue (values.phrase context))
    have whole := (Scans.subject context subject).append valuesPart
    simpa [Predicate.tokens] using whole
  | existence query =>
    exact .ofValue (.wordCall .exists (.parentheses (query.phrase context)))
  | quantified subject operator quantifier values =>
    have quantifierPart : Silent (.keyword quantifier.keyword :: values.tokens context) := by
      cases quantifier <;>
        exact .keyword (by decide) (by decide) (by decide) (values.phrase context).silent
    exact .silent ((subject.phrase context).silent.append
      (quantifierPart.operator operator.text)) (by simp [Predicate.tokens])
  | group group => cases atomic
  | negation condition => cases atomic

/-- An atomic predicate is a value, or nothing, before another word or sign. -/
theorem Predicate.tokens_split (context : Context) (atomic : predicate.isAtomic = true) :
    ∃ before token after, predicate.tokens context = before ++ token :: after ∧
      OptionalPhrase .value before ∧ token.kind ≠ .opening ∧
        (before = [] → token.IsSilent) := by
  have signed : ∀ (operator : String) (rest : List Token),
      ∃ token after, .operator operator :: rest = token :: after ∧ token.kind ≠ .opening :=
    fun operator rest => ⟨_, rest, rfl, by simp [Token.operator]⟩
  have worded : ∀ (negated : Bool) (word : Keyword) (rest : List Token),
      ∃ token after, keywordIf negated .not ++ .keyword word :: rest = token :: after ∧
        token.kind ≠ .opening := by
    intro negated word rest
    cases negated <;> exact ⟨_, _, rfl, by simp [keyword]⟩
  have afterValue : ∀ {before more : List Token}, Phrase .value before →
      (∃ token after, more = token :: after ∧ token.kind ≠ .opening) →
      predicate.tokens context = before ++ more →
      ∃ before token after, predicate.tokens context = before ++ token :: after ∧
        OptionalPhrase .value before ∧ token.kind ≠ .opening ∧
          (before = [] → token.IsSilent) := by
    rintro before _ phrase ⟨token, after, rfl, notOpening⟩ shape
    exact ⟨before, token, after, shape, .inr phrase, notOpening,
      fun empty => absurd empty phrase.ne_nil⟩
  cases predicate with
  | comparison left operator right =>
    exact afterValue (left.phrase context) (signed operator.text (right.tokens context)) rfl
  | between subject low high negated =>
    exact afterValue (subject.phrase context)
      (worded negated .between (low.tokens context ++ .keyword .and :: high.tokens context))
      (by simp [tokens])
  | like subject pattern negated =>
    exact afterValue (subject.phrase context) (worded negated .like (pattern.tokens context))
      (by simp [tokens])
  | isNull subject negated =>
    exact afterValue (subject.phrase context)
      (worded false .is (keywordIf negated .not ++ [.keyword .null])) (by simp [tokens, keywordIf])
  | isIn subject values negated =>
    exact afterValue (subject.phrase context) (worded negated .in (values.tokens context))
      (by simp [tokens])
  | existence query =>
    exact ⟨[], _, _, rfl, .inl rfl, by simp [callee],
      fun _ => isSilent_of_kind (by simp [callee])⟩
  | quantified subject operator quantifier values =>
    exact afterValue (subject.phrase context)
      (signed operator.text (.keyword quantifier.keyword :: values.tokens context)) rfl
  | group group => cases atomic
  | negation condition => cases atomic

end Predicates

/-- Tokens that a reader takes for a statement, wherever they stand between connectives
that bind less tightly. -/
structure Formula.IsRead (level : Option Connective) (tokens : List Token)
    (formula : Formula (List Token)) : Prop where
  balanced : Balanced true (fun _ => True) tokens
  scans : Scans (false, false) (false, false) tokens (marked tokens)
  starts : ∃ token rest, tokens = token :: rest ∧ ∀ word ∈ inlineWords, token ≠ .keyword word
  lacks : ∀ connective : Connective, looseness level < looseness (some connective) →
    (.keyword connective.keyword, true) ∉ marked tokens
  read : Formula.read level (marked tokens) = formula

/-- Tokens that are no connectives hold no connective. -/
theorem notMem_unmarked (token : Token) (tokens : List Token) :
    (token, true) ∉ unmarked tokens := by
  simp [unmarked]

namespace Formula.IsRead

variable {level : Option Connective} {connective : Connective} {tokens before after : List Token}
  {formula first second : Formula (List Token)}

/-- An atomic predicate is read as an atom. -/
theorem ofPredicate (context : Context) {predicate : Predicate}
    (atomic : predicate.isAtomic = true) :
    IsRead none (predicate.tokens context) (.atom (predicate.tokens context)) := by
  have scans := predicate.scans context atomic
  have marks := scans.marked_eq
  have inlineWord : ∀ word ∈ inlineWords, word ∈ conditionWords := by decide
  obtain ⟨before, token, after, shape, optional, notOpening, alone⟩ :=
    predicate.tokens_split context atomic
  have notNil : predicate.tokens context ≠ [] := by simp [shape]
  refine ⟨?_, marks ▸ scans, ?_, ?_, ?_⟩
  · exact (((predicate.phrase context).resolve_left notNil).balanced true).mono fun _ _ => trivial
  · rw [shape]
    cases before with
    | nil => exact ⟨token, after, rfl, fun word member => alone rfl word (inlineWord word member)⟩
    | cons first rest =>
      have silent : Silent (first :: rest) := (optional.resolve_left (by simp)).silent
      exact ⟨first, rest ++ token :: after, rfl,
        fun word member => silent.head word (inlineWord word member)⟩
  · intro connective _
    rw [marks]
    exact notMem_unmarked _ _
  · have closed : before.foldl (depthAfter true) 0 = 0 := by
      rcases optional with rfl | phrase
      · rfl
      · exact (phrase.balanced true).closed 0
    have shown : (token, 0) ∈ withDepth true 0 (predicate.tokens context) := by
      rw [shape, Token.withDepth_append, closed]
      exact List.mem_append_right _ List.mem_cons_self
    rw [marks]
    refine read_atom ?_ shown
    rintro rfl
    exact notOpening rfl

/-- What is between parentheses is read as it is without them. -/
theorem parentheses (inside : IsRead (some .or) tokens formula) :
    IsRead none (parenthesized tokens) formula := by
  have silent : Silent (parenthesized tokens) := .parenthesized inside.balanced
  have scans : Scans (false, false) (false, false) (parenthesized tokens)
      (unmarked (parenthesized tokens)) := .silent silent (by simp [parenthesized])
  have marks := scans.marked_eq
  refine ⟨inside.balanced.parenthesized trivial, marks ▸ scans, ⟨_, _, rfl, ?_⟩, ?_, ?_⟩
  · exact fun word _ isWord =>
      absurd (congrArg kind isWord) (by simp [opening, Token.keyword])
  · intro connective _
    rw [marks]
    exact notMem_unmarked _ _
  · rw [read_parenthesized inside.balanced (map_fst_marked _), ofTokens, inside.read]

/-- `NOT` is read as negation. -/
theorem negation (operand : IsRead none tokens formula) :
    IsRead none (.keyword .not :: tokens) (.negation formula) := by
  obtain ⟨token, rest, rfl, different⟩ := operand.starts
  have scans := operand.scans.negation different
  have marks := scans.marked_eq
  refine ⟨?_, marks ▸ scans, ⟨_, _, rfl, ?_⟩, ?_, ?_⟩
  · exact operand.balanced.cons trivial (by simp) (by simp)
  · simp [inlineWords]
  · intro connective looser
    rw [marks, List.mem_cons, not_or]
    exact ⟨by cases connective <;> simp [Connective.keyword], operand.lacks connective looser⟩
  · rw [marks, read_negation, operand.read]

/-- What is bound tightly can stand in a place of a looser connective. -/
theorem single (tight : IsRead connective.tighter tokens formula) :
    IsRead (some connective) tokens formula where
  balanced := tight.balanced
  scans := tight.scans
  starts := tight.starts
  lacks := fun other looser => tight.lacks other (by
    cases connective <;> simp_all [Connective.tighter, looseness] <;> omega)
  read := by
    rw [read_of_lacks (tight.lacks connective (by cases connective <;> decide)), tight.read]

/-- Two statements with a connective between them are read as joined by it. -/
theorem join (left : IsRead connective.tighter before first)
    (right : IsRead (some connective) after second) :
    IsRead (some connective) (before ++ .keyword connective.keyword :: after)
      (.join connective first second) := by
  have scans := left.scans.append ((Scans.connective connective).append right.scans)
  have marks := scans.marked_eq
  simp only [List.singleton_append] at scans marks
  obtain ⟨token, rest, rfl, different⟩ := left.starts
  refine ⟨?_, marks ▸ scans, ⟨_, _, rfl, different⟩, ?_, ?_⟩
  · exact left.balanced.append (right.balanced.cons trivial
      (by cases connective <;> simp [Connective.keyword])
      (by cases connective <;> simp [Connective.keyword]))
  · intro other looser
    have evenLooser : looseness connective.tighter < looseness (some other) := by
      cases connective <;> cases other <;> simp_all [Connective.tighter, looseness]
    have another : other.keyword ≠ connective.keyword := by
      cases connective <;> cases other <;> simp_all [Connective.keyword, looseness]
    rw [marks, List.mem_append, List.mem_cons, not_or, not_or]
    exact ⟨left.lacks other evenLooser, by simpa using another, right.lacks other looser⟩
  · have lacks := left.lacks connective (by cases connective <;> decide)
    rw [marks, read_append lacks, left.read, right.read]

end Formula.IsRead

/-- What is written is read back. -/
theorem Formula.Written.isRead {context : Context} {level : Option Connective}
    {formula : Formula Predicate} {tokens : List Token}
    (written : Written context level formula tokens) :
    IsRead level tokens (formula.map (Predicate.tokens context)) := by
  induction written with
  | atom atomic => exact .ofPredicate context atomic
  | parentheses _ inside => exact inside.parentheses
  | negation _ operand => exact operand.negation
  | single _ tight => exact tight.single
  | join _ _ left right => exact left.join right

end SqlTree
