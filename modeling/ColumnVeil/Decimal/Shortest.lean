import ColumnVeil.Decimal.Rounding

/-!
# The shortest decimal of a binary fraction

A binary value is written with the fewest digits that are nearer to it than to any other
value of its format.  Of several such decimals the nearest is taken, and of two equally near
ones the larger.  The number is written without an exponent.
-/

namespace ColumnVeil.Decimal

/-- The reals that round to a value, scaled to integers: `low`, `value` and `high` over
`denominator`; the ends belong to it when `closed`. -/
structure Neighbourhood where
  low : Nat
  value : Nat
  high : Nat
  denominator : Nat
  closed : Bool
deriving Repr, DecidableEq

namespace Neighbourhood

/-- The neighbourhood of a positive finite value of a format.  Below a power of two the
next value is only half as far away. -/
def ofFinite (format : BinaryFormat) (significand : Nat) (exponent : Int) : Neighbourhood :=
  let below := if significand = Nat.pow 2 format.fractionBits then 1 else 2
  let quarter := exponent - 2
  let factor := Nat.pow 2 quarter.toNat
  { low := (4 * significand - below) * factor
    value := 4 * significand * factor
    high := (4 * significand + 2) * factor
    denominator := Nat.pow 2 (-quarter).toNat
    closed := significand % 2 == 0 }

/-- Whether `digits · 10 ^ power` rounds to the value. -/
def contains (region : Neighbourhood) (digits : Nat) (power : Int) : Bool :=
  let point := digits * Nat.pow 10 power.toNat * region.denominator
  let scale := Nat.pow 10 (-power).toNat
  if region.closed then region.low * scale ≤ point && point ≤ region.high * scale
  else region.low * scale < point && point < region.high * scale

/-- Of the two multiples of a power of ten around the value, the one that rounds to it and
is nearer, if any does. -/
def onGrid (region : Neighbourhood) (power : Int) : Option Nat :=
  let top := region.value * Nat.pow 10 (-power).toNat
  let bottom := region.denominator * Nat.pow 10 power.toNat
  let down := top / bottom
  let up := down + 1
  match region.contains down power, region.contains up power with
  | true, true => some (if 2 * (top % bottom) < bottom then down else up)
  | true, false => some down
  | false, true => some up
  | false, false => none

/-- The power of ten of the leading digit of the value. -/
def leadingPower (region : Neighbourhood) : Int :=
  let quotient := region.value / region.denominator
  if quotient ≠ 0 then ((Nat.toDigits 10 quotient).length : Int) - 1
  else
    let rest := region.denominator / region.value
    let places := (Nat.toDigits 10 rest).length
    -- The value is at most one place away from the reciprocal's length.
    if region.denominator ≤ region.value * Nat.pow 10 (places - 1) then 1 - (places : Int)
    else -(places : Int)

/-- Try ever finer grids, starting with the leading digit; `fuel` bounds their number. -/
def search (region : Neighbourhood) : (fuel : Nat) → Int → Nat × Int
  | 0, power => (region.value / region.denominator, power)
  | fuel + 1, power =>
    match region.onGrid power with
    | some digits => (digits, power)
    | none => search region fuel (power - 1)

end Neighbourhood

/-- The digits and the power of ten of the shortest decimal of a positive finite value. -/
def shortest (format : BinaryFormat) (significand : Nat) (exponent : Int) : Nat × Int :=
  let region := Neighbourhood.ofFinite format significand exponent
  region.search 20 region.leadingPower

/-- `digits · 10 ^ power` in positional notation, without needless zeros. -/
def positional (digits : Nat) (power : Int) : List Char :=
  if power ≥ 0 then Nat.toDigits 10 (digits * Nat.pow 10 power.toNat)
  else
    let places := (-power).toNat
    let written := Nat.toDigits 10 digits
    let padded := List.replicate (places + 1 - written.length) '0' ++ written
    let whole := padded.take (padded.length - places)
    let fraction := padded.drop (padded.length - places)
    let kept := (fraction.reverse.dropWhile (· == '0')).reverse
    if kept.isEmpty then whole else whole ++ '.' :: kept

/-- The text of a value of a format. -/
def renderFloat (format : BinaryFormat) (value : Value) : String :=
  let sign := if value.negative then "-" else ""
  match value.magnitude with
  | .notANumber => "NaN"
  | .infinite => sign ++ "inf"
  | .finite significand exponent =>
    if significand = 0 then sign ++ "0"
    else
      let (digits, power) := shortest format significand exponent
      sign ++ String.ofList (positional digits power)

/-- The text of an integer. -/
def renderInt (value : Int) : String :=
  if value < 0 then "-" ++ String.ofList (Nat.toDigits 10 value.natAbs)
  else String.ofList (Nat.toDigits 10 value.natAbs)

end ColumnVeil.Decimal
