import SqlTree.Proofs.Lexeme

/-!
# Reading written lexemes back

What is written for a name, a string, a number, a marker or a symbol is read
back as one lexeme, or as the lexemes of its segments with dots between them,
and reading stops right after it. The only condition is on the next character:
it must not be one that could continue the lexeme. What the content of a string
or of a quoted name is does not matter.
-/

namespace SqlTree

/-- Whether a list starts with no element of a class. -/
def Stops {α : Type} (test : α → Bool) (after : List α) : Prop :=
  ∀ next ∈ after.head?, test next = false

variable {c : Char} {rest after : List Char}

theorem takeWhile_append_of_stops {α : Type} {test : α → Bool} {body after : List α}
    (all : ∀ element ∈ body, test element = true) (stops : Stops test after) :
    (body ++ after).takeWhile test = body := by
  rw [List.takeWhile_append_of_pos all]
  cases after with
  | nil => simp
  | cons next more => simp [stops next rfl]

theorem dropWhile_append_of_stops {α : Type} {test : α → Bool} {body after : List α}
    (all : ∀ element ∈ body, test element = true) (stops : Stops test after) :
    (body ++ after).dropWhile test = after := by
  rw [List.dropWhile_append_of_pos all]
  cases after with
  | nil => rfl
  | cons next more => simp [stops next rfl]

/-- A digit starts a number. -/
theorem opening_of_isDigit (digit : c.isDigit = true) : Opening.of c = .number := by
  obtain ⟨_, high⟩ : '0'.toNat ≤ c.toNat ∧ c.toNat ≤ '9'.toNat := Char.isDigit_iff_toNat.1 digit
  have low : c.toNat < 0x41 := Nat.lt_of_le_of_lt high (by decide)
  have notLetter : Text.isLetter c = false := by
    have table : Text.alphabeticRanges = (0x41, 0x5A) :: Text.alphabeticRanges.tail := rfl
    rw [Text.isLetter, table, Text.covers, if_pos low]
  have notUnderscore : c ≠ '_' := by
    rintro rfl
    exact absurd low (by decide)
  have notWord : Segment.startsPlain c = false := by
    simp [Segment.startsPlain, notUnderscore, notLetter]
  rw [Opening.of, if_neg (by simp [notWord]), if_pos digit]

/-- A sign of markers starts a marker. -/
theorem opening_of_mem_signs (sign : c ∈ ['@', ':', '$', '?']) :
    Opening.of c = .marker := by
  revert sign
  simp only [List.mem_cons, List.not_mem_nil, or_false]
  rintro (rfl | rfl | rfl | rfl) <;> decide

@[simp] theorem lexemes_nil : lexemes [] = [] := by
  rw [lexemes]

/-- Spaces are passed over. -/
@[simp] theorem lexemes_space : lexemes (' ' :: rest) = lexemes rest := by
  rw [lexemes, if_pos rfl]

/-- What starts with another character than a space starts with a lexeme. -/
theorem lexemes_cons (notSpace : c ≠ ' ') :
    lexemes (c :: rest) = (Lexeme.scan c rest).1 :: lexemes (Lexeme.scan c rest).2 := by
  rw [lexemes, if_neg notSpace]

/-- What starts a lexeme is not a space. -/
theorem ne_space_of_opening (opens : Opening.of c ≠ .nothing) : c ≠ ' ' := by
  rintro rfl
  exact opens (by decide)

/-- A word is read up to the first character that it cannot hold. -/
theorem lexemes_word (plain : Segment.IsPlain (c :: rest))
    (stops : Stops Segment.continuesPlain after) :
    lexemes (c :: rest ++ after) = .word (String.ofList (c :: rest)) :: lexemes after := by
  obtain ⟨starts, continues⟩ := plain
  have opens : Opening.of c = .word := by
    rw [Opening.of, if_pos starts]
  rw [List.cons_append, lexemes_cons (ne_space_of_opening (by simp [opens])), Lexeme.scan, opens]
  simp only [takeWhile_append_of_stops continues stops, dropWhile_append_of_stops continues stops]

/-- A marked text is read back as it was before it was written. -/
theorem scanMarked_append (mark : Char) (lexeme : String → Lexeme) (text : String)
    (closed : after.head? ≠ some mark) :
    Lexeme.scanMarked mark lexeme (Text.doubleMarks mark text.toList ++ mark :: after) =
      (lexeme text, after) := by
  rw [Lexeme.scanMarked, Text.scanEnclosed_append mark text.toList after closed]
  simp

/-- A string is read back whole, whatever it holds. -/
theorem lexemes_string (value : String) (closed : after.head? ≠ some '\'') :
    lexemes ((Text.enclose '\'' value).toList ++ after) = .string value :: lexemes after := by
  have opens : Opening.of '\'' = .string := by decide
  simp [Text.enclose, lexemes_cons, Lexeme.scan, opens, scanMarked_append '\'' .string value closed]

/-- A quoted name is read back whole, whatever it holds. -/
theorem lexemes_quoted (text : String) (closed : after.head? ≠ some '"') :
    lexemes ((Text.enclose '"' text).toList ++ after) = .quoted text :: lexemes after := by
  have opens : Opening.of '"' = .quoted := by decide
  simp [Text.enclose, lexemes_cons, Lexeme.scan, opens, scanMarked_append '"' .quoted text closed]

/-- A marker is read up to the first character that it cannot hold. -/
theorem lexemes_marker (valid : Placeholder.IsMarker (c :: rest))
    (stops : Stops Placeholder.continuesMarker after) :
    lexemes (c :: rest ++ after) = .marker (String.ofList (c :: rest)) :: lexemes after := by
  obtain ⟨sign, continues⟩ := valid
  have opens : Opening.of c = .marker := opening_of_mem_signs sign
  rw [List.cons_append, lexemes_cons (ne_space_of_opening (by simp [opens])), Lexeme.scan, opens]
  simp only [takeWhile_append_of_stops continues stops, dropWhile_append_of_stops continues stops]

/-- A symbol of one character is read as it stands, unless it is made longer. -/
theorem lexemes_symbol (c : Char) (longer : List Char) (opens : Opening.of c = .symbol longer)
    (stops : ∀ next ∈ after.head?, next ∉ longer) :
    lexemes (c :: after) = .symbol (String.ofList [c]) :: lexemes after := by
  rw [lexemes_cons (ne_space_of_opening (by simp [opens])), Lexeme.scan, opens]
  cases after with
  | nil => rfl
  | cons next more => simp [Lexeme.scanSymbol, stops next rfl]

/-- A symbol of two characters is read whole. -/
theorem lexemes_longSymbol (c second : Char) (longer : List Char)
    (opens : Opening.of c = .symbol longer) (member : second ∈ longer) :
    lexemes (c :: second :: after) = .symbol (String.ofList [c, second]) :: lexemes after := by
  rw [lexemes_cons (ne_space_of_opening (by simp [opens])), Lexeme.scan, opens]
  simp [Lexeme.scanSymbol, member]

/-- A symbol that could open a comment is read as a symbol if it does not. -/
theorem lexemes_unlessComment (c second : Char)
    (opens : Opening.of c = .symbolOrComment second) (different : after.head? ≠ some second) :
    lexemes (c :: after) = .symbol (String.ofList [c]) :: lexemes after := by
  rw [lexemes_cons (ne_space_of_opening (by simp [opens])), Lexeme.scan, opens]
  simp [different]

/-- Nothing that stops a number is taken for a fraction. -/
theorem scanFraction_of_stops (stops : after.head? ≠ some '.') :
    Lexeme.scanFraction after = ([], after) := by
  unfold Lexeme.scanFraction
  split
  · exact absurd rfl stops
  · rfl

/-- A fraction is read whole. -/
theorem scanFraction_append (fraction : Digits) (stops : Stops Char.isDigit after) :
    Lexeme.scanFraction ('.' :: fraction.chars ++ after) = ('.' :: fraction.chars, after) := by
  obtain ⟨chars, nonempty, digits⟩ := fraction
  cases chars with
  | nil => exact absurd rfl nonempty
  | cons digit more =>
    have inside : ∀ c ∈ more, c.isDigit = true := fun c member => digits c (by simp [member])
    simp [Lexeme.scanFraction, digits digit (by simp), takeWhile_append_of_stops inside stops,
      dropWhile_append_of_stops inside stops]

/-- What stands after the whole part of a number. -/
def Numeral.fractionChars : Option Digits → List Char
  | none => []
  | some fraction => '.' :: fraction.chars

/-- The fraction of a number is read whole, and nothing is read for none. -/
theorem scanFraction_fractionChars (fraction : Option Digits)
    (stops : Stops (fun c => c.isDigit || c = '.') after) :
    Lexeme.scanFraction (Numeral.fractionChars fraction ++ after) =
      (Numeral.fractionChars fraction, after) := by
  cases fraction with
  | none =>
    refine scanFraction_of_stops fun isDot => ?_
    simpa using stops '.' isDot
  | some fraction =>
    refine scanFraction_append fraction fun c isNext => ?_
    have stopped := stops c isNext
    simp only [Bool.or_eq_false_iff] at stopped
    exact stopped.1

/-- Digits, and digits after a point, are read as one number. -/
theorem lexemes_digits (whole : Digits) (fraction : Option Digits)
    (stops : Stops (fun c => c.isDigit || c = '.') after) :
    lexemes (whole.chars ++ Numeral.fractionChars fraction ++ after) =
      .number (String.ofList (whole.chars ++ Numeral.fractionChars fraction)) ::
        lexemes after := by
  obtain ⟨chars, nonempty, digits⟩ := whole
  cases chars with
  | nil => exact absurd rfl nonempty
  | cons digit more =>
    have opens : Opening.of digit = .number := opening_of_isDigit (digits digit (by simp))
    have inside : ∀ c ∈ more, c.isDigit = true := fun c member => digits c (by simp [member])
    have wholeStops : Stops Char.isDigit (Numeral.fractionChars fraction ++ after) := by
      cases fraction with
      | none =>
        intro c isNext
        have stopped := stops c isNext
        simp only [Bool.or_eq_false_iff] at stopped
        exact stopped.1
      | some fraction =>
        intro c isNext
        have isDot : '.' = c := by simpa [Numeral.fractionChars] using isNext
        rw [← isDot]
        decide
    rw [List.append_assoc, List.cons_append,
      lexemes_cons (ne_space_of_opening (by simp [opens])), Lexeme.scan, opens]
    simp only [takeWhile_append_of_stops inside wholeStops,
      dropWhile_append_of_stops inside wholeStops, scanFraction_fractionChars fraction stops,
      List.cons_append]

end SqlTree
