import SqlTree.Proofs.Readable
import SqlTree.Proofs.Spelling.Distinct

/-!
# Words that end with themselves

What a statement writes besides values and lists is read off the front of tokens
directly: names with their qualifiers, the frames of windows, and the words after
sort keys. Each of these says by its own words how far it goes, so the tokens
after it must not be among those.
-/

namespace SqlTree

variable {rest otherRest : List Token}

/-- A literal is read off what follows it. -/
theorem Token.literal_cancel {text other : String}
    (same : [Token.literal text] ++ rest = [.literal other] ++ otherRest) :
    text = other ∧ rest = otherRest := by
  simpa [Token.literal] using same

/-- Whether a token would go on with a value that stands before it. -/
def Token.continuesValue (token : Token) : Bool :=
  token = .dot || token = .keyword .over

/-- The name of a column, or the star, with its qualifier is read off what follows
it. -/
theorem qualified_cancel {qualifier otherQualifier : Option Identifier} {name otherName : String}
    (stops : Stops Token.continuesValue rest) (otherStops : Stops Token.continuesValue otherRest)
    (same : qualifierTokens qualifier ++ [.identifier name] ++ rest =
      qualifierTokens otherQualifier ++ [.identifier otherName] ++ otherRest) :
    qualifier = otherQualifier ∧ name = otherName ∧ rest = otherRest := by
  have dotGoesOn : Token.continuesValue .dot = true := by decide
  cases qualifier with
  | none =>
    cases otherQualifier with
    | none => simpa [qualifierTokens, Token.identifier] using same
    | some other =>
      simp only [qualifierTokens, List.nil_append, List.cons_append, List.cons.injEq] at same
      exact absurd same.2 (stops.head_ne dotGoesOn)
  | some qualifier =>
    cases otherQualifier with
    | none =>
      simp only [qualifierTokens, List.nil_append, List.cons_append, List.cons.injEq] at same
      exact absurd same.2.symm (otherStops.head_ne dotGoesOn)
    | some other =>
      simp only [qualifierTokens, List.nil_append, List.cons_append, List.cons.injEq,
        Token.identifier, Token.mk.injEq, true_and] at same
      exact ⟨by rw [Identifier.sql_injective same.1], same.2⟩

/-- One edge of a frame is read off what follows it. -/
theorem FrameBound.cancel {bound other : FrameBound}
    (same : bound.tokens ++ rest = other.tokens ++ otherRest) :
    bound = other ∧ rest = otherRest := by
  have counts : ∀ {count otherCount : Nat},
      (Numeral.ofNat count).text = (Numeral.ofNat otherCount).text → count = otherCount :=
    fun sameText => Numeral.ofNat_injective (Numeral.text_injective sameText)
  cases bound <;> cases other <;>
    simp [FrameBound.tokens, Token.keyword, Token.literal, Keyword.text] at same ⊢
  all_goals first | exact same | exact ⟨counts same.1, same.2⟩

/-- The edges of a frame are read off what follows them. -/
theorem FrameExtent.cancel {extent other : FrameExtent}
    (same : extent.tokens ++ rest = other.tokens ++ otherRest) :
    extent = other ∧ rest = otherRest := by
  have notBetween : ∀ (bound : FrameBound) {rest tail : List Token},
      bound.tokens ++ rest ≠ .keyword .between :: tail := by
    intro bound rest tail
    cases bound <;> simp [FrameBound.tokens, Token.keyword, Token.literal, Keyword.text]
  cases extent with
  | between low high =>
    cases other with
    | between otherLow otherHigh =>
      simp only [FrameExtent.tokens, List.cons_append, List.append_assoc, List.cons.injEq,
        true_and] at same
      obtain ⟨sameLow, following⟩ := FrameBound.cancel same
      simp only [List.cons.injEq, true_and] at following
      obtain ⟨sameHigh, sameRest⟩ := FrameBound.cancel following
      exact ⟨by rw [sameLow, sameHigh], sameRest⟩
    | startingAt otherLow => exact absurd same.symm (notBetween otherLow)
  | startingAt low =>
    cases other with
    | between otherLow otherHigh => exact absurd same (notBetween low)
    | startingAt otherLow =>
      obtain ⟨sameLow, sameRest⟩ := FrameBound.cancel same
      exact ⟨by rw [sameLow], sameRest⟩

/-- Whether a frame starts with a token. -/
def Token.startsFrame (token : Token) : Bool :=
  token = .keyword .rows || token = .keyword .range

/-- The frame of a window, if there is one, is read off what follows it. -/
theorem frameTokens_cancel {frame other : Option Frame}
    (stops : Stops Token.startsFrame rest) (otherStops : Stops Token.startsFrame otherRest)
    (same : frameTokens frame ++ rest = frameTokens other ++ otherRest) :
    frame = other ∧ rest = otherRest := by
  have starts : ∀ unit : FrameUnit, Token.startsFrame (.keyword unit.keyword) = true := by
    intro unit
    cases unit <;> decide
  cases frame with
  | none =>
    cases other with
    | none => exact ⟨rfl, same⟩
    | some other => exact absurd same (stops.head_ne (starts other.unit))
  | some frame =>
    cases other with
    | none => exact absurd same.symm (otherStops.head_ne (starts frame.unit))
    | some other =>
      simp only [frameTokens, List.cons_append, List.cons.injEq] at same
      obtain ⟨sameUnit, following⟩ := same
      obtain ⟨sameExtent, sameRest⟩ := FrameExtent.cancel following
      have units : ∀ unit otherUnit : FrameUnit,
          Token.keyword unit.keyword = .keyword otherUnit.keyword → unit = otherUnit := by
        intro unit otherUnit
        cases unit <;> cases otherUnit <;> decide
      have sameFrame : frame = other := by
        have sameUnits := units _ _ sameUnit
        cases frame
        cases other
        simp only [Frame.mk.injEq]
        exact ⟨sameUnits, sameExtent⟩
      exact ⟨by rw [sameFrame], sameRest⟩

/-- A frame starts with its unit, or is nothing before what stops. -/
theorem stops_frameTokens {continues : Token → Bool}
    (rows : continues (.keyword .rows) = false) (range : continues (.keyword .range) = false)
    (stops : Stops continues rest) (frame : Option Frame) :
    Stops continues (frameTokens frame ++ rest) := by
  cases frame with
  | none => exact stops
  | some frame =>
    refine Token.stops_cons ?_ _
    cases frame.unit with
    | rows => exact rows
    | range => exact range

/-- Whether a token is one of the words after a sort key. -/
def Token.isSortWord (token : Token) : Bool :=
  token ∈ [Token.keyword .asc, .keyword .desc, .keyword .nulls, .keyword .first, .keyword .last]

/-- Whether a token would go on with a sort key that stands before it. -/
def Token.continuesSortKey (token : Token) : Bool :=
  token.continuesValue || token.isSortWord

/-- The words after a sort key are known by their tokens. -/
theorem sortTokens_injective {direction otherDirection : Option Direction}
    {nulls otherNulls : Option NullPlacement} :
    sortTokens direction nulls = sortTokens otherDirection otherNulls →
      direction = otherDirection ∧ nulls = otherNulls := by
  rcases direction with _ | _ | _ <;> rcases otherDirection with _ | _ | _ <;>
    rcases nulls with _ | _ | _ <;> rcases otherNulls with _ | _ | _ <;> decide

/-- The words after a sort key are read off what follows them. -/
theorem sortTokens_cancel {direction otherDirection : Option Direction}
    {nulls otherNulls : Option NullPlacement} (stops : Stops Token.isSortWord rest)
    (otherStops : Stops Token.isSortWord otherRest)
    (same : sortTokens direction nulls ++ rest =
      sortTokens otherDirection otherNulls ++ otherRest) :
    direction = otherDirection ∧ nulls = otherNulls ∧ rest = otherRest := by
  have words : ∀ direction nulls, ∀ token ∈ sortTokens direction nulls,
      token.isSortWord = true := by
    intro direction nulls
    rcases direction with _ | _ | _ <;> rcases nulls with _ | _ | _ <;> decide
  have sameWords : sortTokens direction nulls = sortTokens otherDirection otherNulls := by
    have first := takeWhile_append_of_stops (words direction nulls) stops
    rw [same, takeWhile_append_of_stops (words otherDirection otherNulls) otherStops] at first
    exact first.symm
  obtain ⟨sameDirection, sameNulls⟩ := sortTokens_injective sameWords
  rw [sameWords] at same
  exact ⟨sameDirection, sameNulls, List.append_cancel_left same⟩

end SqlTree
