import SqlTree.Proofs.Contents.Rendering
import SqlTree.Proofs.Phrase.Rendering
import SqlTree.Select

/-!
# Lexical faithfulness

A reader of the text of a statement finds the tokens that were written, and
nothing else (`Statement.lexemes_sql`). No two tokens run together, no comment is
opened, and what a string or a quoted name holds stays inside its marks: the
reader sees the strings and the names that the statement has been given, in their
order, whatever their characters are.

The argument has two halves. From the text to the tokens: the tokens of a statement
are a phrase (`Statement.phrase`), neighbours in a phrase are such that a token ends
before what is written after it (`Phrase.joined`), and the text of such a token is
read back as what the token stands for (`Spells.lexemes_append`). From the tokens to
the tree: the tokens carry the contents of the statement (`Statement.carries`).
-/

namespace SqlTree

variable {token : Token} {found : List Lexeme}

/-- The lexemes of segments are all proper. -/
theorem Segment.isProper_lexemes (segments : List Segment) :
    ∀ lexeme ∈ Segment.lexemes segments, lexeme.isProper = true := by
  induction segments with
  | nil => simp [Segment.lexemes]
  | cons segment rest inductionHypothesis =>
    have front : segment.lexeme.isProper = true := by cases segment <;> rfl
    cases rest with
    | nil => simpa [Segment.lexemes] using front
    | cons next others =>
      rw [Segment.lexemes_cons_cons, List.forall_mem_cons, List.forall_mem_cons]
      exact ⟨front, rfl, inductionHypothesis⟩

/-- The lexemes that tokens stand for are all proper. -/
theorem Spells.isProper (spelled : Spells token found) :
    ∀ lexeme ∈ found, lexeme.isProper = true := by
  cases spelled with
  | callee name => exact Segment.isProper_lexemes name.segments
  | name identifier => exact Segment.isProper_lexemes identifier.segments
  | number numeral =>
    rw [Numeral.lexemes]
    split <;> simp [Lexeme.isProper]
  | _ => simp [Lexeme.isProper]

/-- The value of a lexeme that is a string. -/
def Lexeme.string? : Lexeme → Option String
  | string value => some value
  | _ => none

/-- The text of a lexeme that is a quoted name. -/
def Lexeme.quoted? : Lexeme → Option String
  | quoted text => some text
  | _ => none

/-- Symbols and words of SQL are no strings. -/
theorem Lexeme.string?_eq_none (lexeme : Lexeme) (isOther : lexeme.isContent = false) :
    lexeme.string? = none := by
  cases lexeme with
  | string value => cases isOther
  | _ => rfl

/-- Symbols and words of SQL are no quoted names. -/
theorem Lexeme.quoted?_eq_none (lexeme : Lexeme) (isOther : lexeme.isContent = false) :
    lexeme.quoted? = none := by
  cases lexeme with
  | quoted text => cases isOther
  | _ => rfl

/-- What is picked from the lexemes of segments is picked from each segment, unless dots
are picked. -/
theorem Segment.filterMap_lexemes {pick : Lexeme → Option String}
    (noDot : pick (.symbol ".") = none) (segments : List Segment) :
    (Segment.lexemes segments).filterMap pick =
      segments.filterMap fun segment => pick segment.lexeme := by
  induction segments with
  | nil => rfl
  | cons segment rest inductionHypothesis =>
    cases rest with
    | nil => simp [Segment.lexemes, List.filterMap_cons]
    | cons next others =>
      rw [Segment.lexemes_cons_cons, List.filterMap_cons, List.filterMap_cons_none noDot,
        inductionHypothesis]
      rfl

/-- The strings that contents stand for are the contents that are strings. -/
theorem Content.filterMap_string? (contents : List Content) :
    (contents.flatMap Content.lexemes).filterMap Lexeme.string? =
      contents.filterMap Content.string? := by
  have single : ∀ content : Content,
      content.lexemes.filterMap Lexeme.string? = content.string?.toList := by
    intro content
    cases content with
    | string value | parameter placeholder => rfl
    | number numeral =>
      rw [Content.lexemes, Numeral.lexemes]
      split <;> rfl
    | name identifier =>
      have noString : ∀ segment : Segment, segment.lexeme.string? = none := by
        intro segment
        cases segment <;> rfl
      rw [Content.lexemes, Identifier.lexemes, Segment.filterMap_lexemes rfl]
      simp [noString, Content.string?]
  simp [List.filterMap_flatMap, List.filterMap_eq_flatMap_toList Content.string?, single]

/-- The quoted names that contents stand for are the quoted segments of the contents that
are names. -/
theorem Content.filterMap_quoted? (contents : List Content) :
    (contents.flatMap Content.lexemes).filterMap Lexeme.quoted? =
      contents.flatMap Content.quotedTexts := by
  have single : ∀ content : Content,
      content.lexemes.filterMap Lexeme.quoted? = content.quotedTexts := by
    intro content
    cases content with
    | string value | parameter placeholder => rfl
    | number numeral =>
      rw [Content.lexemes, Numeral.lexemes]
      split <;> rfl
    | name identifier =>
      have same : ∀ segment : Segment, segment.lexeme.quoted? = segment.quoted? := by
        intro segment
        cases segment <;> rfl
      rw [Content.lexemes, Identifier.lexemes, Segment.filterMap_lexemes rfl]
      simp only [same]
      rfl
  simp [List.filterMap_flatMap, single]

/-- Lexemes that are the same apart from symbols and words of SQL are the same to whoever
picks none of these. -/
theorem Lexeme.filterMap_eq_of_filter_eq {pick : Lexeme → Option String} {first second : List Lexeme}
    (noOther : ∀ lexeme, lexeme.isContent = false → pick lexeme = none)
    (same : first.filter Lexeme.isContent = second.filter Lexeme.isContent) :
    first.filterMap pick = second.filterMap pick := by
  have picked : ∀ found : List Lexeme,
      (found.filter Lexeme.isContent).filterMap pick = found.filterMap pick := by
    intro found
    rw [List.filterMap_filter]
    refine List.filterMap_congr fun lexeme _ => ?_
    cases isContent : lexeme.isContent with
    | false => exact (noOther lexeme isContent).symm
    | true => rfl
  rw [← picked, same, picked]

/-- The tokens of a statement are read as what they stand for. -/
theorem Statement.spells (dialect : Dialect) (statement : Statement) :
    ∀ token ∈ statement.tokens dialect, Spells token (lexemes token.text.toList) := by
  intro token member
  obtain ⟨found, spelled⟩ := (statement.phrase dialect).spells token member
  rwa [spelled.lexemes_text]

/-- The text of a statement is read as its tokens, each as what it stands for. No comment is
opened and nothing is stray. Apart from symbols and words of SQL, what is read is what the
contents of the statement stand for, all of them in their order. In particular the strings
in the text are the values of the strings of the statement, one after the other, and the
quoted names are the quoted segments of its names. -/
theorem Statement.lexemes_sql (dialect : Dialect) (statement : Statement) :
    lexemes (statement.sql dialect).toList =
        (statement.tokens dialect).flatMap (fun token => lexemes token.text.toList) ∧
      (∀ token ∈ statement.tokens dialect, Spells token (lexemes token.text.toList)) ∧
      (∀ lexeme ∈ lexemes (statement.sql dialect).toList, lexeme.isProper = true) ∧
      (lexemes (statement.sql dialect).toList).filter Lexeme.isContent =
        ((statement.contents dialect).flatMap Content.lexemes).filter Lexeme.isContent ∧
      (lexemes (statement.sql dialect).toList).filterMap Lexeme.string? =
        (statement.contents dialect).filterMap Content.string? ∧
      (lexemes (statement.sql dialect).toList).filterMap Lexeme.quoted? =
        (statement.contents dialect).flatMap Content.quotedTexts := by
  have spelled := statement.spells dialect
  have read : lexemes (statement.sql dialect).toList =
      (statement.tokens dialect).flatMap fun token => lexemes token.text.toList :=
    (statement.phrase dialect).lexemes_textOf
  have carried : (lexemes (statement.sql dialect).toList).filter Lexeme.isContent =
      ((statement.contents dialect).flatMap Content.lexemes).filter Lexeme.isContent := by
    rw [read, List.filter_flatMap]
    exact statement.carries dialect
  refine ⟨read, spelled, ?_, carried, ?_, ?_⟩
  · intro lexeme member
    rw [read, List.mem_flatMap] at member
    obtain ⟨token, isToken, member⟩ := member
    exact (spelled token isToken).isProper lexeme member
  · rw [Lexeme.filterMap_eq_of_filter_eq Lexeme.string?_eq_none carried, Content.filterMap_string?]
  · rw [Lexeme.filterMap_eq_of_filter_eq Lexeme.quoted?_eq_none carried, Content.filterMap_quoted?]

example :
    let value := "it's; -- no comment"
    let aliasName := Identifier.ofQuotable "a \"quoted\" name" (by decide)
    let select := { Select.empty with projections := [⟨.text value, some aliasName⟩] }
    lexemes ((Statement.query (.select select)).sql .standard).toList =
      [.word "SELECT", .string value, .word "AS", .quoted "a \"quoted\" name"] := by
  decide +kernel

end SqlTree
