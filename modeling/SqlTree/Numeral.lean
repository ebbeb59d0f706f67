/-!
# Numerals

The numbers that a statement can hold, as they are written: an optional minus
sign, at least one digit, and an optional fraction after a point. There is no
exponent. Numerals are compared by their spelling, which is a function of the
number for all numerals that `ofInt` and `ofDecimal` give, zero apart: it may
carry a sign.
-/

namespace SqlTree

/-- A non-empty run of decimal digits. -/
structure Digits where
  chars : List Char
  nonempty : chars ≠ []
  digits : ∀ c ∈ chars, c.isDigit = true
deriving DecidableEq

namespace Digits

/-- The digits of a natural number, without leading zeros. -/
def ofNat (number : Nat) : Digits where
  chars := Nat.toDigits 10 number
  nonempty := Nat.toDigits_ne_nil
  digits := fun _ member => Nat.isDigit_of_mem_toDigits (by decide) (by decide) member

/-- The digits of a natural number, with zeros in front up to a width. -/
def padded (width number : Nat) : Digits where
  chars := List.replicate (width - (ofNat number).chars.length) '0' ++ (ofNat number).chars
  nonempty := by simp [(ofNat number).nonempty]
  digits := by
    intro c member
    rcases List.mem_append.1 member with zero | digit
    · rw [List.eq_of_mem_replicate zero]
      decide
    · exact (ofNat number).digits c digit

/-- The digits as text. -/
def text (digits : Digits) : String :=
  String.ofList digits.chars

end Digits

/-- A number as it is written. -/
structure Numeral where
  negative : Bool
  whole : Digits
  fraction : Option Digits
deriving DecidableEq

namespace Numeral

/-- The spelling of a numeral. -/
def text (numeral : Numeral) : String :=
  (if numeral.negative then "-" else "") ++ numeral.whole.text ++
    match numeral.fraction with
    | none => ""
    | some fraction => "." ++ fraction.text

/-- The numeral of a natural number. -/
def ofNat (number : Nat) : Numeral :=
  ⟨false, .ofNat number, none⟩

/-- The numeral of an integer. -/
def ofInt : Int → Numeral
  | .ofNat number => ⟨false, .ofNat number, none⟩
  | .negSucc number => ⟨true, .ofNat (number + 1), none⟩

/-- The numeral of `coefficient · 10 ^ exponent` under a sign. A fraction is
written without trailing zeros if the coefficient has none. -/
def ofDecimal (negative : Bool) (coefficient : Nat) (exponent : Int) : Numeral :=
  let places := (-exponent).toNat
  if places = 0 then ⟨negative, .ofNat (coefficient * Nat.pow 10 exponent.toNat), none⟩
  else
    let unit := Nat.pow 10 places
    ⟨negative, .ofNat (coefficient / unit), some (.padded places (coefficient % unit))⟩

end Numeral

end SqlTree
