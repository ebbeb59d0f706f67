import SqlTree.Proofs.Spelling

/-!
# Spellings tell things apart

Names, numerals, strings and placeholders that are written alike are the same.
What is written is read back as lexemes, and the lexemes hold all that there is
to know.
-/

namespace SqlTree

/-- A segment is known by its lexeme. -/
theorem Segment.lexeme_injective {first second : Segment}
    (same : first.lexeme = second.lexeme) : first = second := by
  cases first <;> cases second <;> simp_all [Segment.lexeme]

/-- Segments are known by their lexemes. -/
theorem Segment.lexemes_injective {first second : List Segment} (nonempty : first ≠ [])
    (otherNonempty : second ≠ []) (same : Segment.lexemes first = Segment.lexemes second) :
    first = second := by
  induction first generalizing second with
  | nil => exact absurd rfl nonempty
  | cons segment rest inductionHypothesis =>
    cases second with
    | nil => exact absurd rfl otherNonempty
    | cons other otherRest =>
      cases rest with
      | nil =>
        cases otherRest with
        | nil =>
          have equal : segment = other :=
            Segment.lexeme_injective (by simpa [Segment.lexemes] using same)
          rw [equal]
        | cons next more => simp [Segment.lexemes, List.intercalate_cons_cons] at same
      | cons next more =>
        cases otherRest with
        | nil => simp [Segment.lexemes, List.intercalate_cons_cons] at same
        | cons otherNext otherMore =>
          rw [Segment.lexemes_cons_cons, Segment.lexemes_cons_cons] at same
          simp only [List.cons.injEq, true_and] at same
          obtain ⟨sameLexeme, sameRest⟩ := same
          rw [Segment.lexeme_injective sameLexeme,
            inductionHypothesis (by simp) (by simp) sameRest]

/-- Names that are written alike are the same. -/
theorem Identifier.sql_injective {first second : Identifier} (same : first.sql = second.sql) :
    first = second := by
  have read : SqlTree.lexemes first.sql.toList = first.lexemes := (Spells.name first).lexemes_text
  have otherRead : SqlTree.lexemes second.sql.toList = second.lexemes :=
    (Spells.name second).lexemes_text
  rw [same, otherRead] at read
  exact Identifier.ext
    (Segment.lexemes_injective second.nonempty first.nonempty read).symm

/-- No name is written as the star. -/
theorem Identifier.sql_ne_star (name : Identifier) : name.sql ≠ "*" := by
  intro same
  have read : SqlTree.lexemes name.sql.toList = name.lexemes := (Spells.name name).lexemes_text
  have star : SqlTree.lexemes "*".toList = [.symbol "*"] := Spells.star.lexemes_text
  rw [same, star] at read
  obtain ⟨segments, nonempty, _⟩ := name
  cases segments with
  | nil => exact nonempty rfl
  | cons segment rest =>
    cases rest with
    | nil => cases segment <;> simp [Identifier.lexemes, Segment.lexemes, Segment.lexeme] at read
    | cons next more => simp [Identifier.lexemes, Segment.lexemes_cons_cons] at read

/-- Strings that are written alike are the same. -/
theorem Text.enclose_injective {first second : String}
    (same : Text.enclose '\'' first = Text.enclose '\'' second) : first = second := by
  have read : SqlTree.lexemes (Text.enclose '\'' first).toList = [.string first] :=
    (Spells.text first).lexemes_text
  have otherRead : SqlTree.lexemes (Text.enclose '\'' second).toList = [.string second] :=
    (Spells.text second).lexemes_text
  rw [same, otherRead] at read
  simpa using read.symm

/-- Placeholders are known by their markers. -/
theorem Placeholder.marker_injective {first second : Placeholder}
    (same : first.marker = second.marker) : first = second := by
  cases first
  cases second
  simpa using same

/-- Digits are known by their characters. -/
theorem Digits.chars_injective {first second : Digits} (same : first.chars = second.chars) :
    first = second := by
  cases first
  cases second
  simpa using same

/-- A fraction is known by its characters. -/
theorem Numeral.fractionChars_injective {first second : Option Digits}
    (same : fractionChars first = fractionChars second) : first = second := by
  cases first <;> cases second <;> simp [fractionChars] at same ⊢
  exact Digits.chars_injective same

/-- A fraction starts with no digit. -/
theorem Numeral.stops_fractionChars (fraction : Option Digits) :
    Stops Char.isDigit (fractionChars fraction) := by
  cases fraction with
  | none => exact nofun
  | some digits =>
    intro next isNext
    have isDot : '.' = next := by simpa [fractionChars] using isNext
    rw [← isDot]
    decide

/-- Numerals that are written alike are the same. -/
theorem Numeral.text_injective {first second : Numeral} (same : first.text = second.text) :
    first = second := by
  have read : SqlTree.lexemes first.text.toList = first.lexemes :=
    (Spells.number first).lexemes_text
  have otherRead : SqlTree.lexemes second.text.toList = second.lexemes :=
    (Spells.number second).lexemes_text
  rw [same, otherRead] at read
  obtain ⟨negative, whole, fraction⟩ := first
  obtain ⟨otherNegative, otherWhole, otherFraction⟩ := second
  have parts : otherNegative = negative ∧
      text ⟨false, otherWhole, otherFraction⟩ = text ⟨false, whole, fraction⟩ := by
    cases negative <;> cases otherNegative <;> simp_all [lexemes]
  obtain ⟨rfl, sameDigits⟩ := parts
  have sameChars : otherWhole.chars ++ fractionChars otherFraction =
      whole.chars ++ fractionChars fraction := by
    have chars := congrArg String.toList sameDigits
    simpa [toList_text] using chars
  have sameWhole : otherWhole.chars = whole.chars := by
    have first := takeWhile_append_of_stops otherWhole.digits (stops_fractionChars otherFraction)
    rw [sameChars, takeWhile_append_of_stops whole.digits (stops_fractionChars fraction)] at first
    exact first.symm
  rw [sameWhole] at sameChars
  have sameFraction := fractionChars_injective (List.append_cancel_left sameChars)
  rw [Digits.chars_injective sameWhole, sameFraction]

/-- Natural numbers that are written alike are the same. -/
theorem Numeral.ofNat_injective {first second : Nat} (same : ofNat first = ofNat second) :
    first = second := by
  have digits : Nat.toDigits 10 first = Nat.toDigits 10 second := by
    simpa [ofNat, Digits.ofNat] using same
  calc
    first = Nat.ofDigitChars 10 (Nat.toDigits 10 first) 0 := Nat.ofDigitChars_ten_toDigits.symm
    _ = Nat.ofDigitChars 10 (Nat.toDigits 10 second) 0 := by rw [digits]
    _ = second := Nat.ofDigitChars_ten_toDigits

end SqlTree
