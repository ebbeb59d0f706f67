/-!
# Quoted text

Text between two equal marks, in which a mark inside the text is written twice.
SQL writes its string literals this way between apostrophes and its quoted
names between quotation marks.

`enclose` writes such a text and `scanEnclosed` reads what follows the opening
mark. The two are inverse: what was written is read back whole
(`scanEnclosed_append`), and whatever was read is the written form of the
result (`eq_of_scanEnclosed`).
-/

namespace SqlTree.Text

/-- The characters of a text with every mark written twice. -/
def doubleMarks (mark : Char) : List Char → List Char
  | [] => []
  | c :: rest => if c = mark then mark :: mark :: doubleMarks mark rest
      else c :: doubleMarks mark rest

/-- Doubling marks neither adds nor drops a character of the text. -/
theorem mem_doubleMarks {mark c : Char} {text : List Char} :
    c ∈ doubleMarks mark text ↔ c ∈ text := by
  induction text with
  | nil => simp [doubleMarks]
  | cons d rest inductionHypothesis =>
    by_cases same : d = mark <;> simp [doubleMarks, same, inductionHypothesis]

/-- A text between two marks, with the marks inside it doubled. -/
def enclose (mark : Char) (text : String) : String :=
  String.ofList (mark :: doubleMarks mark text.toList ++ [mark])

/-- Reads a text whose opening mark has been read, up to its closing mark.
Gives the text and the characters after the closing mark, or nothing if the
input ends first. -/
def scanEnclosed (mark : Char) : List Char → Option (List Char × List Char)
  | [] => none
  | [c] => if c = mark then some ([], []) else none
  | c :: d :: rest =>
    if c = mark then
      if d = mark then (scanEnclosed mark rest).map fun (text, after) => (mark :: text, after)
      else some ([], d :: rest)
    else (scanEnclosed mark (d :: rest)).map fun (text, after) => (c :: text, after)

/-- A written text is read back whole, and reading stops right after it. -/
theorem scanEnclosed_append (mark : Char) (text after : List Char)
    (closed : after.head? ≠ some mark) :
    scanEnclosed mark (doubleMarks mark text ++ mark :: after) = some (text, after) := by
  induction text with
  | nil =>
    cases after with
    | nil => simp [doubleMarks, scanEnclosed]
    | cons d rest =>
      have different : d ≠ mark := by simpa using closed
      simp [doubleMarks, scanEnclosed, different]
  | cons c rest inductionHypothesis =>
    by_cases same : c = mark
    · subst same
      simp [doubleMarks, scanEnclosed, inductionHypothesis]
    · have step : ∀ tail, tail ≠ [] → scanEnclosed mark (c :: tail) =
          (scanEnclosed mark tail).map fun (text, after) => (c :: text, after) := by
        intro tail nonempty
        cases tail with
        | nil => exact absurd rfl nonempty
        | cons d tail => simp [scanEnclosed, same]
      rw [doubleMarks, if_neg same, List.cons_append, step _ (by simp), inductionHypothesis]
      rfl

/-- Whatever is read is the written form of the result, and no further mark
follows it. -/
theorem eq_of_scanEnclosed {mark : Char} {input text after : List Char}
    (scanned : scanEnclosed mark input = some (text, after)) :
    input = doubleMarks mark text ++ mark :: after ∧ after.head? ≠ some mark := by
  fun_induction scanEnclosed mark input generalizing text after with
  | case1 => simp at scanned
  | case2 =>
    simp only [Option.some.injEq, Prod.mk.injEq] at scanned
    obtain ⟨rfl, rfl⟩ := scanned
    simp [doubleMarks]
  | case3 => simp at scanned
  | case4 rest inductionHypothesis =>
    obtain ⟨⟨inner, tail⟩, found, equal⟩ := Option.map_eq_some_iff.1 scanned
    simp only [Prod.mk.injEq] at equal
    obtain ⟨rfl, rfl⟩ := equal
    obtain ⟨rfl, closed⟩ := inductionHypothesis found
    simp [doubleMarks, closed]
  | case5 d rest different =>
    simp only [Option.some.injEq, Prod.mk.injEq] at scanned
    obtain ⟨rfl, rfl⟩ := scanned
    simp [doubleMarks, different]
  | case6 c d rest different inductionHypothesis =>
    obtain ⟨⟨inner, tail⟩, found, equal⟩ := Option.map_eq_some_iff.1 scanned
    simp only [Prod.mk.injEq] at equal
    obtain ⟨rfl, rfl⟩ := equal
    obtain ⟨written, closed⟩ := inductionHypothesis found
    simp [doubleMarks, different, written, closed]

end SqlTree.Text
