import ColumnVeil.Catalog.Basic
import ColumnVeil.Failure
import ColumnVeil.Text.Utf8

/-!
# The bytes of column values

A literal for a column stands for bytes, which are what is encrypted, indexed and joined:
numbers of a fixed width in big-endian order, truth values as a letter, and everything else
as its text.  `plaintext` encodes a literal and `render` gives the text of decrypted bytes.
-/

namespace ColumnVeil

open Sql (Literal)

namespace ColumnRule

/-- The bits of an integer column type. -/
def integerBits? (type : DataType) : Option Nat :=
  if type = DataType.int2 then some 16
  else if type = DataType.int4 then some 32
  else if type = DataType.int8 then some 64
  else none

/-- The binary format of a floating-point column type. -/
def floatFormat? (type : DataType) : Option Decimal.BinaryFormat :=
  if type = DataType.float4 then some Decimal.single
  else if type = DataType.float8 then some Decimal.double
  else none

/-- An integer in two's complement, in a number of bits that is a multiple of eight. -/
def integerBytes (bits : Nat) (value : Int) : Bytes :=
  bigEndian (bits / 8) (value % (Nat.pow 2 bits : Nat)).toNat

/-- The integer that bytes stand for in two's complement. -/
def integerOf (bits : Nat) (bytes : Bytes) : Int :=
  let value := ofBigEndian bytes
  if value < Nat.pow 2 (bits - 1) then value else value - (Nat.pow 2 bits : Nat)

/-- The words for a truth value, in lower case. -/
def truthValue? (word : String) : Option Bool :=
  if ["t", "true", "y", "yes", "on", "1"].contains word then some true
  else if ["f", "false", "n", "no", "off", "0"].contains word then some false
  else none

/-- The text of a literal that is not `NULL`. -/
def literalText : Literal → String
  | .string text => text
  | .number text => text
  | .boolean true => "t"
  | .boolean false => "f"
  | .null => ""

/-- The bytes that the text of a literal stands for in a column of a type, if it is one of
the type's values. -/
def encode? (type : DataType) (text : String) : Option Bytes :=
  let trimmed := Text.trim text
  match integerBits? type, floatFormat? type with
  | some bits, _ => (Decimal.parseSigned? bits trimmed).map (integerBytes bits)
  | none, some format =>
    (Decimal.parseFloat? format trimmed).map fun value =>
      bigEndian format.width (format.encode value)
  | none, none =>
    if type = DataType.bool then
      (truthValue? (Text.lowercase trimmed)).map fun value => Text.utf8 (if value then "t" else "f")
    else some (Text.utf8 text)

/-- The bytes that stand for a literal of a column, none for `NULL`. -/
def plaintext (rule : ColumnRule) (literal : Literal) : Except Failure (Option Bytes) :=
  match literal with
  | .null => .ok none
  | literal =>
    match encode? rule.dataType (literalText literal) with
    | some bytes => .ok (some bytes)
    | none => .error (.query (.invalidLiteral (Text.trim (literalText literal)) rule.column))

/-- The text of a decrypted value, if its bytes have the width of the column's type. -/
def render (rule : ColumnRule) (bytes : Bytes) : Option Bytes :=
  match integerBits? rule.dataType, floatFormat? rule.dataType with
  | some bits, _ =>
    if bytes.length = bits / 8 then some (Text.utf8 (Decimal.renderInt (integerOf bits bytes)))
    else none
  | none, some format =>
    if bytes.length = format.width then
      some (Text.utf8 (Decimal.renderFloat format (format.decode (ofBigEndian bytes))))
    else none
  | none, none => some bytes

end ColumnRule

/-- The bytes that a value of type `bytea` shows in hexadecimal text. -/
def decodeByteaText? : Bytes → Option Bytes
  | 0x5C :: 0x78 :: digits => Hex.decodeChars? (digits.map fun byte => Char.ofNat byte.toNat)
  | _ => none

end ColumnVeil
