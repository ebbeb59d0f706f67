import SqlTree.Build
import SqlTree.Numeral
import SqlTree.Numeral.Binary

/-!
# The shortest numeral of a binary number

The decimals that round to a binary number fill an interval around it, which
holds its ends if the mantissa is even. Of these decimals the numeral shows
one with the fewest digits: one on the coarsest grid of multiples of a power
of ten that has a point in the interval. Only the two grid points around the
number have to be tried. If both lie in the interval the nearer one is shown,
and the upper one if they are equally near.

All comparisons are made between natural numbers, so nothing is rounded on
the way.
-/

namespace SqlTree

/-- The power `base ^ exponent`, or one if the exponent is negative. -/
def powerOrOne (base : Nat) (exponent : Int) : Nat :=
  Nat.pow base exponent.toNat

namespace FiniteBinary

/-- The number of quarters of `2 ^ exponent` in the number and in the ends of
its rounding interval: the lower end, the number, the upper end. -/
def quarters (number : FiniteBinary) : Nat × Nat × Nat :=
  let middle := 4 * number.mantissa
  (middle - (if number.narrowBelow then 1 else 2), middle, middle + 2)

/-- Whether `coefficient · 10 ^ grid` lies in the rounding interval. -/
def rounds (number : FiniteBinary) (grid : Int) (coefficient : Nat) : Bool :=
  let unit := number.exponent - 2
  let (low, _, high) := number.quarters
  let scale := powerOrOne 10 (-grid) * powerOrOne 2 unit
  let point := coefficient * (powerOrOne 10 grid * powerOrOne 2 (-unit))
  if number.mantissa % 2 = 0 then low * scale ≤ point && point ≤ high * scale
  else low * scale < point && point < high * scale

/-- The grid point to show on the grid of multiples of `10 ^ grid`, if one of
the two around the number lies in the rounding interval. -/
def nearestOnGrid? (number : FiniteBinary) (grid : Int) : Option Nat :=
  let unit := number.exponent - 2
  let numerator := number.quarters.2.1 * (powerOrOne 10 (-grid) * powerOrOne 2 unit)
  let denominator := powerOrOne 10 grid * powerOrOne 2 (-unit)
  let below := numerator / denominator
  let remainder := numerator % denominator
  match number.rounds grid below, number.rounds grid (below + 1) with
  | true, true => some (if 2 * remainder ≥ denominator then below + 1 else below)
  | true, false => some below
  | false, true => some (below + 1)
  | false, false => none

/-- The coarsest grid with a point in the rounding interval, and the point to
show, searched from a grid downwards. -/
def coarsestGrid (number : FiniteBinary) : Nat → Int → Nat × Int
  | 0, grid => ((number.nearestOnGrid? grid).getD 0, grid)
  | steps + 1, grid =>
    match number.nearestOnGrid? grid with
    | some coefficient => (coefficient, grid)
    | none => coarsestGrid number steps (grid - 1)

/-- The numeral of a finite binary number. Multiples of `2 ^ exponent` are
multiples of `10 ^ exponent` where the exponent is negative, so the search may
end there. -/
def numeral (number : FiniteBinary) : Numeral :=
  if number.mantissa = 0 then .ofDecimal number.negative 0 0
  else
    let highest : Int := max 0 (number.exponent + number.mantissa.log2 + 2)
    let lowest : Int := min 0 number.exponent
    let (coefficient, grid) := number.coarsestGrid (highest - lowest).toNat highest
    .ofDecimal number.negative coefficient grid

end FiniteBinary

/-- The numeral of a pattern of bits. Infinities and patterns that are no
number have none. -/
def Numeral.ofBits (format : BinaryFormat) (bits : Nat) : Build Numeral :=
  match format.decode bits with
  | .finite number => pure number.numeral
  | .infinity false => refuse "inf"
  | .infinity true => refuse "-inf"
  | .notANumber => refuse "NaN"
where
  refuse (name : String) : Build Numeral :=
    throw (.invalidLiteral ("`" ++ name ++ "` has no SQL numeric form"))

end SqlTree
