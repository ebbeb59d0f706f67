/-!
# Binary floating point

The values of the binary interchange formats. A pattern of bits is a sign, a
biased exponent and a fraction; `decode` gives the number that it stands for
as an integer times a power of two, without rounding.
-/

namespace SqlTree

/-- The layout of a binary format: how many bits its fraction and its exponent
take. -/
structure BinaryFormat where
  fractionBits : Nat
  exponentBits : Nat
deriving DecidableEq

namespace BinaryFormat

/-- The format of 32 bits. -/
def single : BinaryFormat := ⟨23, 8⟩

/-- The format of 64 bits. -/
def double : BinaryFormat := ⟨52, 11⟩

end BinaryFormat

/-- A finite number of a binary format: `mantissa · 2 ^ exponent` under a sign.
The gap to the next smaller magnitude is half as wide as the gap to the next
larger one if `narrowBelow` holds, and equally wide otherwise. -/
structure FiniteBinary where
  negative : Bool
  mantissa : Nat
  exponent : Int
  narrowBelow : Bool
deriving DecidableEq

/-- What a pattern of bits stands for. -/
inductive BinaryValue where
  | notANumber
  | infinity (negative : Bool)
  | finite (number : FiniteBinary)
deriving DecidableEq

/-- The value of a pattern of bits. -/
def BinaryFormat.decode (format : BinaryFormat) (bits : Nat) : BinaryValue :=
  let fractions := Nat.pow 2 format.fractionBits
  let exponents := Nat.pow 2 format.exponentBits
  let fraction := bits % fractions
  let biased := bits / fractions % exponents
  let negative := bits / (fractions * exponents) % 2 = 1
  let bias := exponents / 2 - 1
  let lowest : Int := 1 - bias - format.fractionBits
  if biased = exponents - 1 then
    if fraction = 0 then .infinity negative else .notANumber
  else if biased = 0 then .finite ⟨negative, fraction, lowest, false⟩
  else
    .finite
      ⟨negative, fractions + fraction, lowest + (biased - 1), fraction = 0 && biased ≠ 1⟩

end SqlTree
