import SqlTree.Text.Truncation

/-!
# Truncation keeps whole characters, and as many as it can

A text that is too long is cut to the longest of its beginnings that consists of whole characters
and fits (`Text.truncate_longest`). The offset that the cut is made at is searched for from the
limit backwards. The search ends at a boundary, for the start of the text is one; what it passes
over are no boundaries; and it passes over three offsets at most, for no character has more than
four bytes.

Boundaries are the lengths of the beginnings of a text (`isBoundary_iff`). This is all that the
search and the cut have to agree on.
-/

namespace SqlTree.Text

/-- The number of bytes of characters. -/
def byteLength (text : List Char) : Nat :=
  (String.ofList text).utf8ByteSize

@[simp] theorem byteLength_nil : byteLength [] = 0 :=
  rfl

@[simp] theorem byteLength_append (first second : List Char) :
    byteLength (first ++ second) = byteLength first + byteLength second := by
  simp [byteLength, String.ofList_append]

@[simp] theorem byteLength_cons (c : Char) (rest : List Char) :
    byteLength (c :: rest) = c.utf8Size + byteLength rest := by
  have single : byteLength [c] = c.utf8Size := by simp [byteLength]
  rw [← List.singleton_append, byteLength_append, single]

/-- A text has as many bytes as its characters. -/
theorem byteLength_toList (text : String) : byteLength text.toList = text.utf8ByteSize := by
  rw [byteLength, String.ofList_toList]

variable {text kept rest : List Char} {limit offset : Nat}

/-- Only no characters have no bytes. -/
theorem eq_nil_of_byteLength_eq_zero (empty : byteLength text = 0) : text = [] := by
  cases text with
  | nil => rfl
  | cons c rest =>
    have positive := c.utf8Size_pos
    rw [byteLength_cons] at empty
    omega

/-- The boundaries of a text are the lengths of its beginnings. -/
theorem isBoundary_iff :
    isBoundary text offset = true ↔
      ∃ kept rest, text = kept ++ rest ∧ byteLength kept = offset := by
  fun_induction isBoundary text offset with
  | case1 text =>
    constructor
    · exact fun _ => ⟨[], text, rfl, rfl⟩
    · exact fun _ => rfl
  | case2 offset => simp
  | case3 c rest offset inductionHypothesis =>
    rw [Bool.and_eq_true, decide_eq_true_eq, inductionHypothesis]
    constructor
    · rintro ⟨fits, kept, after, rfl, length⟩
      exact ⟨c :: kept, after, rfl, by rw [byteLength_cons, length, Nat.add_sub_cancel' fits]⟩
    · rintro ⟨kept, after, split, length⟩
      cases kept with
      | nil => simp at length
      | cons first kept =>
        cases split
        have total : c.utf8Size + byteLength kept = offset + 1 := by
          rwa [byteLength_cons] at length
        exact ⟨total ▸ Nat.le_add_right _ _, kept, after, rfl, by
          rw [← total, Nat.add_sub_cancel_left]⟩

/-- The search ends at a boundary. -/
theorem isBoundary_boundaryBefore (text : List Char) (limit : Nat) :
    isBoundary text (boundaryBefore text limit) = true := by
  fun_induction boundaryBefore text limit with
  | case1 => cases text <;> rfl
  | case2 offset found => exact found
  | case3 offset _ inductionHypothesis => exact inductionHypothesis

/-- The search goes backwards. -/
theorem boundaryBefore_le (text : List Char) (limit : Nat) : boundaryBefore text limit ≤ limit := by
  fun_induction boundaryBefore text limit with
  | case1 => exact Nat.le_refl _
  | case2 offset found => exact Nat.le_refl _
  | case3 offset _ inductionHypothesis => omega

/-- The search passes over no boundary. -/
theorem le_boundaryBefore (boundary : isBoundary text offset = true) (within : offset ≤ limit) :
    offset ≤ boundaryBefore text limit := by
  fun_induction boundaryBefore text limit with
  | case1 => exact within
  | case2 limit found => exact within
  | case3 limit missed inductionHypothesis =>
    have different : offset ≠ limit + 1 := by
      rintro rfl
      exact missed boundary
    exact inductionHypothesis (by omega)

/-- The search passes over three offsets at most if the text is longer than the limit: a character
stands after the boundary, and the limit lies inside it. -/
theorem le_boundaryBefore_add_three (long : limit < byteLength text) :
    limit ≤ boundaryBefore text limit + 3 := by
  obtain ⟨kept, rest, rfl, length⟩ := isBoundary_iff.1 (isBoundary_boundaryBefore text limit)
  have fits := boundaryBefore_le (kept ++ rest) limit
  cases rest with
  | nil =>
    rw [byteLength_append, byteLength_nil] at long
    omega
  | cons c rest =>
    have next : isBoundary (kept ++ c :: rest) (byteLength kept + c.utf8Size) = true :=
      isBoundary_iff.2 ⟨kept ++ [c], rest, by simp, by simp⟩
    -- The search would have stopped at the next boundary.
    have inside : limit < byteLength kept + c.utf8Size := by
      refine Nat.lt_of_not_le fun within => ?_
      have further := le_boundaryBefore next within
      have positive := c.utf8Size_pos
      omega
    have short := c.utf8Size_le_four
    omega

/-- No character fits into no bytes. -/
theorem charsBefore_zero (text : List Char) : charsBefore text 0 = [] := by
  cases text with
  | nil => rfl
  | cons c rest =>
    have positive := c.utf8Size_pos
    rw [charsBefore, if_neg (by omega)]

/-- The cut at the length of a beginning keeps this beginning. -/
theorem charsBefore_append (kept rest : List Char) :
    charsBefore (kept ++ rest) (byteLength kept) = kept := by
  induction kept with
  | nil => exact charsBefore_zero rest
  | cons c kept inductionHypothesis =>
    rw [List.cons_append, byteLength_cons, charsBefore, if_pos (Nat.le_add_right _ _),
      Nat.add_sub_cancel_left, inductionHypothesis]

/-- Of two beginnings of a text the one with no more bytes is a beginning of the other one. -/
theorem prefix_of_byteLength_le {first second : List Char} (isFirst : first <+: text)
    (isSecond : second <+: text) (shorter : byteLength first ≤ byteLength second) :
    first <+: second := by
  rcases List.prefix_or_prefix_of_prefix isFirst isSecond with within | ⟨more, rfl⟩
  · exact within
  · have empty : more = [] := by
      rw [byteLength_append] at shorter
      exact eq_nil_of_byteLength_eq_zero (by omega)
    simp [empty]

/-- What the cut leaves of a text: a beginning that fits, and that has every other beginning that
fits as its beginning. -/
theorem exists_cut (text : List Char) (limit : Nat) :
    ∃ kept rest, text = kept ++ rest ∧ byteLength kept = boundaryBefore text limit ∧
      charsBefore text (boundaryBefore text limit) = kept ∧
      ∀ other, other <+: text → byteLength other ≤ limit → other <+: kept := by
  obtain ⟨kept, rest, split, length⟩ := isBoundary_iff.1 (isBoundary_boundaryBefore text limit)
  refine ⟨kept, rest, split, length, ?_, fun other isOther within => ?_⟩
  · rw [← length, split, charsBefore_append]
  · obtain ⟨more, isText⟩ := isOther
    have boundary : isBoundary text (byteLength other) = true :=
      isBoundary_iff.2 ⟨other, more, isText.symm, rfl⟩
    have shorter := le_boundaryBefore boundary within
    exact prefix_of_byteLength_le ⟨more, isText⟩ ⟨rest, split.symm⟩ (length ▸ shorter)

/-- Boundaries are the positions that a text can be cut at. -/
theorem isBoundary_iff_isValid (text : String) (offset : Nat) :
    isBoundary text.toList offset = true ↔ String.Pos.Raw.IsValid text ⟨offset⟩ := by
  rw [isBoundary_iff, String.Pos.Raw.isValid_iff_exists_append]
  constructor
  · rintro ⟨kept, rest, split, length⟩
    refine ⟨String.ofList kept, String.ofList rest, ?_, ?_⟩
    · rw [← String.ofList_append, ← split, String.ofList_toList]
    · exact congrArg String.Pos.Raw.mk length.symm
  · rintro ⟨first, second, rfl, position⟩
    refine ⟨first.toList, second.toList, String.toList_append, ?_⟩
    rw [byteLength_toList]
    exact (congrArg String.Pos.Raw.byteIdx position).symm

/-- A text that fits is left as it is. Of any other text the longest beginning is kept that
consists of whole characters and fits, and an ellipsis is put after it.

The search ends at the length of what is kept, which is a position between two characters, and the
bytes before it are those of what is kept. The offsets that it passes over, three at most, are no
positions. -/
theorem truncate_longest (limit : Nat) (text : String) :
    (text.utf8ByteSize ≤ limit → truncate limit text = text) ∧
      (limit < text.utf8ByteSize → ∃ kept rest : String,
        text = kept ++ rest ∧ truncate limit text = kept ++ "..." ∧
          kept.utf8ByteSize ≤ limit ∧
          (∀ other more : String, text = other ++ more → other.utf8ByteSize ≤ limit →
            ∃ tail, kept = other ++ tail) ∧
          boundaryBefore text.toList limit = kept.utf8ByteSize ∧
          text.toByteArray.extract 0 kept.utf8ByteSize = kept.toByteArray ∧
          String.Pos.Raw.IsValid text ⟨kept.utf8ByteSize⟩ ∧
          (∀ offset, kept.utf8ByteSize < offset → offset ≤ limit →
            ¬String.Pos.Raw.IsValid text ⟨offset⟩) ∧
          limit ≤ kept.utf8ByteSize + 3) := by
  refine ⟨fun fits => if_pos fits, fun long => ?_⟩
  obtain ⟨chars, after, split, length, cut, longest⟩ := exists_cut text.toList limit
  have textSplit : text = String.ofList chars ++ String.ofList after := by
    rw [← String.ofList_append, ← split, String.ofList_toList]
  have size : (String.ofList chars).utf8ByteSize = boundaryBefore text.toList limit := length
  have tooLong : limit < byteLength text.toList := by rwa [byteLength_toList]
  refine ⟨String.ofList chars, String.ofList after, textSplit, ?_, ?_, ?_, size.symm, ?_, ?_, ?_,
    ?_⟩
  · rw [truncate, if_neg (Nat.not_le_of_lt long), cut]
  · exact size ▸ boundaryBefore_le text.toList limit
  · intro other more otherSplit within
    have isPrefix : other.toList <+: text.toList :=
      ⟨more.toList, by rw [← String.toList_append, ← otherSplit]⟩
    obtain ⟨tail, isKept⟩ := longest other.toList isPrefix (by rwa [byteLength_toList])
    refine ⟨String.ofList tail, ?_⟩
    rw [← isKept, String.ofList_append, String.ofList_toList]
  · rw [textSplit, String.toByteArray_append]
    exact ByteArray.extract_append_eq_left rfl
  · rw [size]
    exact (isBoundary_iff_isValid _ _).1 (isBoundary_boundaryBefore _ _)
  · intro offset later within position
    have boundary := (isBoundary_iff_isValid _ _).2 position
    have notLater := le_boundaryBefore boundary within
    omega
  · rw [size]
    exact le_boundaryBefore_add_three tooLong

/-- A limit inside the second character cuts before this character. -/
theorem truncate_longest_inside :
    2 < "aé".utf8ByteSize ∧ ¬String.Pos.Raw.IsValid "aé" ⟨2⟩ ∧
      ∃ kept : String, truncate 2 "aé" = kept ++ "..." ∧ kept.utf8ByteSize = 1 := by
  have long : 2 < "aé".utf8ByteSize := by decide
  obtain ⟨kept, -, -, cut, -, -, size, -, -, skipped, -⟩ := (truncate_longest 2 "aé").2 long
  have isOne : kept.utf8ByteSize = 1 := size.symm.trans (by decide)
  exact ⟨long, skipped 2 (by omega) (Nat.le_refl _), kept, cut, isOne⟩

end SqlTree.Text
