/-!
# Decimals and binary fractions

Values of floating-point columns are written in decimal and stored in binary.  This module
describes the two binary formats, reads a decimal text and finds the binary value nearest
to it, a half going to the even neighbour.  All arithmetic is exact, on natural numbers.
-/

namespace ColumnVeil.Decimal

/-- A binary interchange format: the stored bits of the fraction and of the exponent. -/
structure BinaryFormat where
  fractionBits : Nat
  exponentBits : Nat
deriving Repr, DecidableEq

/-- The format of 32 bits. -/
def single : BinaryFormat := ⟨23, 8⟩

/-- The format of 64 bits. -/
def double : BinaryFormat := ⟨52, 11⟩

/-- A floating-point value, apart from its sign: `finite m q` is `m · 2 ^ q`. -/
inductive Magnitude
  | finite (significand : Nat) (exponent : Int)
  | infinite
  | notANumber
deriving Repr, DecidableEq

/-- A signed floating-point value. -/
structure Value where
  negative : Bool
  magnitude : Magnitude
deriving Repr, DecidableEq

namespace BinaryFormat

/-- Bytes of an encoded value. -/
def width (format : BinaryFormat) : Nat :=
  (format.fractionBits + format.exponentBits + 1) / 8

/-- The exponent of the least positive value, which is a power of two. -/
def leastExponent (format : BinaryFormat) : Int :=
  3 - Nat.pow 2 (format.exponentBits - 1) - format.fractionBits - 1

/-- The encoding of all exponent bits set, shared by infinity and not-a-number. -/
def specialExponent (format : BinaryFormat) : Nat :=
  Nat.pow 2 format.exponentBits - 1

/-- The bits of a value, read as a number.  A significand has at most one bit more than the
fraction, and fewer only at the least exponent. -/
def encode (format : BinaryFormat) (value : Value) : Nat :=
  let sign := if value.negative then Nat.pow 2 (format.fractionBits + format.exponentBits) else 0
  let rest := match value.magnitude with
    | .finite significand exponent =>
      if significand < Nat.pow 2 format.fractionBits then significand
      else
        (exponent - format.leastExponent + 1).toNat * Nat.pow 2 format.fractionBits
          + (significand - Nat.pow 2 format.fractionBits)
    | .infinite => format.specialExponent * Nat.pow 2 format.fractionBits
    | .notANumber =>
      format.specialExponent * Nat.pow 2 format.fractionBits + Nat.pow 2 (format.fractionBits - 1)
  sign + rest

/-- The value that bits stand for. -/
def decode (format : BinaryFormat) (bits : Nat) : Value :=
  let negative := bits / Nat.pow 2 (format.fractionBits + format.exponentBits) % 2 == 1
  let stored := bits / Nat.pow 2 format.fractionBits % Nat.pow 2 format.exponentBits
  let fraction := bits % Nat.pow 2 format.fractionBits
  let magnitude :=
    if stored = format.specialExponent then
      if fraction = 0 then .infinite else .notANumber
    else if stored = 0 then .finite fraction format.leastExponent
    else .finite (Nat.pow 2 format.fractionBits + fraction) (format.leastExponent + stored - 1)
  ⟨negative, magnitude⟩

/-- A quotient rounded to the nearest natural number, a half to the even one. -/
def nearest (numerator denominator : Nat) : Nat :=
  let quotient := numerator / denominator
  let remainder := numerator % denominator
  if 2 * remainder < denominator then quotient
  else if denominator < 2 * remainder then quotient + 1
  else quotient + quotient % 2

/-- The magnitude nearest to `numerator / denominator`; beyond the largest it is infinite. -/
def round (format : BinaryFormat) (numerator denominator : Nat) : Magnitude :=
  if numerator = 0 then .finite 0 format.leastExponent
  else
    let guess : Int := (numerator.log2 : Int) - denominator.log2 - format.fractionBits
    let scaled (exponent : Int) : Nat × Nat :=
      if exponent ≥ 0 then (numerator, denominator * Nat.pow 2 exponent.toNat)
      else (numerator * Nat.pow 2 (-exponent).toNat, denominator)
    -- The guess is exact or one too high.
    let (top, bottom) := scaled guess
    let exact := if top < bottom * Nat.pow 2 format.fractionBits then guess - 1 else guess
    let exponent := max exact format.leastExponent
    let (top, bottom) := scaled exponent
    let significand := nearest top bottom
    let carried := significand == Nat.pow 2 (format.fractionBits + 1)
    let significand := if carried then Nat.pow 2 format.fractionBits else significand
    let exponent := if carried then exponent + 1 else exponent
    if exponent - format.leastExponent + 1 ≥ format.specialExponent then .infinite
    else .finite significand exponent

end BinaryFormat

/-- A decimal text taken apart: the digits without their point, and the power of ten. -/
structure Scientific where
  digits : Nat
  exponent : Int
deriving Repr, DecidableEq

/-- The number that a list of ASCII digits spells. -/
def natOfDigits (digits : List Char) : Nat :=
  digits.foldl (fun value digit => 10 * value + (digit.toNat - 48)) 0

/-- Read digits with an optional point and an optional exponent; at least one digit stands
in front of the exponent, and nothing behind it. -/
def Scientific.ofChars? (characters : List Char) : Option Scientific :=
  let whole := characters.takeWhile Char.isDigit
  let rest := characters.dropWhile Char.isDigit
  let (fraction, rest) := match rest with
    | '.' :: rest => (rest.takeWhile Char.isDigit, rest.dropWhile Char.isDigit)
    | rest => ([], rest)
  if whole.isEmpty && fraction.isEmpty then none
  else
    let digits := natOfDigits (whole ++ fraction)
    match rest with
    | [] => some ⟨digits, -(fraction.length : Int)⟩
    | mark :: rest =>
      if mark != 'e' && mark != 'E' then none
      else
        let (negative, power) := match rest with
          | '-' :: power => (true, power)
          | '+' :: power => (false, power)
          | power => (false, power)
        if power.isEmpty || !power.all Char.isDigit then none
        else
          let size : Int := natOfDigits power
          some ⟨digits, (if negative then -size else size) - fraction.length⟩

/-- The magnitude nearest to a decimal.  Decimals far outside every format are decided by
the number of their digits. -/
def Scientific.round (decimal : Scientific) (format : BinaryFormat) : Magnitude :=
  let length : Int := (Nat.toDigits 10 decimal.digits).length
  if decimal.digits = 0 ∨ length + decimal.exponent < -400 then .finite 0 format.leastExponent
  else if 400 < length + decimal.exponent then .infinite
  else if decimal.exponent ≥ 0 then
    format.round (decimal.digits * Nat.pow 10 decimal.exponent.toNat) 1
  else format.round decimal.digits (Nat.pow 10 (-decimal.exponent).toNat)

/-- Read a signed decimal, `inf`, `infinity` or `nan` in either case. -/
def parseFloat? (format : BinaryFormat) (text : String) : Option Value :=
  let (negative, characters) := match text.toList with
    | '-' :: rest => (true, rest)
    | '+' :: rest => (false, rest)
    | rest => (false, rest)
  let word := String.ofList (characters.map Char.toLower)
  if word = "inf" ∨ word = "infinity" then some ⟨negative, .infinite⟩
  else if word = "nan" then some ⟨negative, .notANumber⟩
  else (Scientific.ofChars? characters).map fun decimal => ⟨negative, decimal.round format⟩

/-- Read a signed integer: an optional sign and at least one digit. -/
def parseInt? (text : String) : Option Int :=
  let (negative, digits) := match text.toList with
    | '-' :: rest => (true, rest)
    | '+' :: rest => (false, rest)
    | rest => (false, rest)
  if digits.isEmpty || !digits.all Char.isDigit then none
  else
    let size : Int := natOfDigits digits
    some (if negative then -size else size)

/-- Read a signed integer that fits `bits` bits in two's complement. -/
def parseSigned? (bits : Nat) (text : String) : Option Int := do
  let value ← parseInt? text
  if -(Nat.pow 2 (bits - 1) : Int) ≤ value ∧ value < Nat.pow 2 (bits - 1) then some value else none

end ColumnVeil.Decimal
