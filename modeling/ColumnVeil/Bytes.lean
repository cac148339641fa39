/-!
# Byte strings

Everything that crosses a connection is a list of bytes.  This module holds the notations
of bytes that the rest of the library shares: hexadecimal text and big-endian integers of a
fixed width.  `Hex.decode_encode` says that the hexadecimal text of bytes reads back, and
`ofBigEndian_bigEndian` says what a fixed width keeps of a number.
-/

namespace ColumnVeil

/-- A finite string of bytes, in the order in which they are sent. -/
abbrev Bytes := List UInt8

namespace Hex

/-- The lower-case hexadecimal digit of a number below sixteen. -/
def digit (value : Nat) : Char :=
  if value < 10 then Char.ofNat (48 + value) else Char.ofNat (87 + value)

/-- The value of a hexadecimal digit of either case. -/
def digitValue? (character : Char) : Option Nat :=
  let code := character.toNat
  if 48 ≤ code ∧ code ≤ 57 then some (code - 48)
  else if 97 ≤ code ∧ code ≤ 102 then some (code - 87)
  else if 65 ≤ code ∧ code ≤ 70 then some (code - 55)
  else none

/-- Two lower-case digits for each byte, the high half first. -/
def encodeChars (bytes : Bytes) : List Char :=
  bytes.flatMap fun byte => [digit (byte.toNat / 16), digit (byte.toNat % 16)]

/-- The hexadecimal text of a byte string. -/
def encode (bytes : Bytes) : String :=
  String.ofList (encodeChars bytes)

/-- Reads pairs of digits; an odd count or a character that is no digit is refused. -/
def decodeChars? : List Char → Option Bytes
  | [] => some []
  | [_] => none
  | high :: low :: rest => do
      let high ← digitValue? high
      let low ← digitValue? low
      let rest ← decodeChars? rest
      pure (UInt8.ofNat (16 * high + low) :: rest)

/-- The byte string that a hexadecimal text stands for. -/
def decode? (text : String) : Option Bytes :=
  decodeChars? text.toList

theorem digitValue?_digit (value : Nat) (bound : value < 16) :
    digitValue? (digit value) = some value := by
  revert bound value
  decide

theorem decodeChars?_encodeChars (bytes : Bytes) :
    decodeChars? (encodeChars bytes) = some bytes := by
  induction bytes with
  | nil => rfl
  | cons byte rest hypothesis =>
    have high : byte.toNat / 16 < 16 := by have := byte.toNat_lt; omega
    have low : byte.toNat % 16 < 16 := Nat.mod_lt _ (by decide)
    have whole : 16 * (byte.toNat / 16) + byte.toNat % 16 = byte.toNat := by omega
    have step : decodeChars? (encodeChars (byte :: rest)) =
        (do
          let high ← digitValue? (digit (byte.toNat / 16))
          let low ← digitValue? (digit (byte.toNat % 16))
          let rest ← decodeChars? (encodeChars rest)
          pure (UInt8.ofNat (16 * high + low) :: rest)) := rfl
    rw [step, digitValue?_digit _ high, digitValue?_digit _ low, hypothesis]
    change some (UInt8.ofNat (16 * (byte.toNat / 16) + byte.toNat % 16) :: rest) = _
    rw [whole, UInt8.ofNat_toNat]

/-- The text of a byte string reads back as that byte string. -/
theorem decode_encode (bytes : Bytes) : decode? (encode bytes) = some bytes := by
  simp [decode?, encode, decodeChars?_encodeChars]

end Hex

/-- The last `width` base-256 digits of a number, the most significant first. -/
def bigEndian : (width : Nat) → Nat → Bytes
  | 0, _ => []
  | width + 1, value => UInt8.ofNat (value / Nat.pow 256 width) :: bigEndian width value

/-- The number whose base-256 digits, most significant first, are the bytes. -/
def ofBigEndian (bytes : Bytes) : Nat :=
  bytes.foldl (fun value byte => 256 * value + byte.toNat) 0

@[simp] theorem bigEndian_length (width value : Nat) : (bigEndian width value).length = width := by
  induction width with
  | zero => rfl
  | succ width hypothesis => simp [bigEndian, hypothesis]

theorem foldl_bigEndian (width value start : Nat) :
    (bigEndian width value).foldl (fun value byte => 256 * value + byte.toNat) start =
      start * Nat.pow 256 width + value % Nat.pow 256 width := by
  induction width generalizing start with
  | zero => simp [bigEndian, Nat.mod_one]
  | succ width hypothesis =>
    have shifted : Nat.pow 256 (width + 1) = Nat.pow 256 width * 256 := rfl
    have split : value % Nat.pow 256 (width + 1) =
        value / Nat.pow 256 width % 256 * Nat.pow 256 width + value % Nat.pow 256 width := by
      rw [shifted, Nat.mod_mul, Nat.add_comm, Nat.mul_comm]
    simp only [bigEndian, List.foldl_cons, hypothesis, split, UInt8.toNat_ofNat']
    rw [shifted]
    grind

/-- A fixed width keeps a number modulo that many base-256 digits. -/
theorem ofBigEndian_bigEndian (width value : Nat) :
    ofBigEndian (bigEndian width value) = value % Nat.pow 256 width := by
  simp [ofBigEndian, foldl_bigEndian]

/-- A 16-bit integer as two bytes, in two's complement. -/
def int16Bytes (value : Int16) : Bytes :=
  bigEndian 2 value.toUInt16.toNat

/-- A 32-bit integer as four bytes, in two's complement. -/
def int32Bytes (value : Int32) : Bytes :=
  bigEndian 4 value.toUInt32.toNat

/-- The 16-bit integer that two bytes stand for. -/
def ofInt16Bytes (bytes : Bytes) : Int16 :=
  (UInt16.ofNat (ofBigEndian bytes)).toInt16

/-- The 32-bit integer that four bytes stand for. -/
def ofInt32Bytes (bytes : Bytes) : Int32 :=
  (UInt32.ofNat (ofBigEndian bytes)).toInt32

@[simp] theorem ofInt16Bytes_int16Bytes (value : Int16) :
    ofInt16Bytes (int16Bytes value) = value := by
  have bound := value.toUInt16.toNat_lt
  rw [ofInt16Bytes, int16Bytes, ofBigEndian_bigEndian, Nat.mod_eq_of_lt (by omega)]
  simp

@[simp] theorem ofInt32Bytes_int32Bytes (value : Int32) :
    ofInt32Bytes (int32Bytes value) = value := by
  have bound := value.toUInt32.toNat_lt
  rw [ofInt32Bytes, int32Bytes, ofBigEndian_bigEndian, Nat.mod_eq_of_lt (by omega)]
  simp

end ColumnVeil
