import ColumnVeil.Bytes

/-!
# UTF-8

Texts travel as bytes that need not be valid UTF-8.  `decode?` accepts exactly the valid
ones; `decodeLossy` stands a replacement character for each longest invalid piece, and
leaves valid bytes as they are (`decodeLossy_of_decode`).

A text is cut at a boundary, which is an offset that does not lie inside a character
(`beginningWithin`).
-/

namespace ColumnVeil.Text

/-- The bytes of a text. -/
def utf8 (text : String) : Bytes :=
  text.toUTF8.toList

/-- The text that a valid UTF-8 byte string spells. -/
def decode? (bytes : Bytes) : Option String :=
  String.fromUTF8? ⟨bytes.toArray⟩

/-- A byte that continues a character. -/
def isContinuation (byte : UInt8) : Bool :=
  0x80 ≤ byte && byte ≤ 0xBF

/-- How a byte above ASCII may begin a character: the number of bytes after it and the
interval that the first of them must lie in. -/
def leadingByte (byte : UInt8) : Option (Nat × UInt8 × UInt8) :=
  if 0xC2 ≤ byte && byte ≤ 0xDF then some (1, 0x80, 0xBF)
  else if byte == 0xE0 then some (2, 0xA0, 0xBF)
  else if byte == 0xED then some (2, 0x80, 0x9F)
  else if 0xE1 ≤ byte && byte ≤ 0xEF then some (2, 0x80, 0xBF)
  else if byte == 0xF0 then some (3, 0x90, 0xBF)
  else if byte == 0xF4 then some (3, 0x80, 0x8F)
  else if 0xF1 ≤ byte && byte ≤ 0xF3 then some (3, 0x80, 0xBF)
  else none

/-- How many of the bytes after a leading byte fit it, at most `count`. -/
def fittingTail (count : Nat) (low high : UInt8) : Bytes → Nat
  | [] => 0
  | byte :: rest =>
    if count = 0 then 0
    else if low ≤ byte && byte ≤ high then 1 + ((rest.take (count - 1)).takeWhile isContinuation).length
    else 0

/-- The code point of a leading byte and the bytes that fit it. -/
def assemble (lead : UInt8) (tail : Bytes) : Nat :=
  let bits := match tail.length with
    | 1 => lead.toNat % 32
    | 2 => lead.toNat % 16
    | _ => lead.toNat % 8
  tail.foldl (fun value byte => 64 * value + byte.toNat % 64) bits

/-- Each longest piece that no valid text contains becomes one replacement character. -/
def replaceInvalid : Bytes → List Char
  | [] => []
  | byte :: rest =>
    if byte < 0x80 then Char.ofNat byte.toNat :: replaceInvalid rest
    else match leadingByte byte with
      | none => '\uFFFD' :: replaceInvalid rest
      | some (count, low, high) =>
        let fitting := fittingTail count low high rest
        let character :=
          if fitting = count then Char.ofNat (assemble byte (rest.take count)) else '\uFFFD'
        character :: replaceInvalid (rest.drop fitting)
termination_by bytes => bytes.length
decreasing_by all_goals simp_wf; try omega

/-- A text for any bytes: the valid pieces as they are, the others replaced. -/
def decodeLossy (bytes : Bytes) : String :=
  match decode? bytes with
  | some text => text
  | none => String.ofList (replaceInvalid bytes)

/-- Valid bytes lose nothing. -/
theorem decodeLossy_of_decode {bytes : Bytes} {text : String} (valid : decode? bytes = some text) :
    decodeLossy bytes = text := by
  simp [decodeLossy, valid]

/-! ## Cutting a text -/

/-- Whether an offset lies between two characters of a text, or at one of its ends. -/
def isBoundary (bytes : Bytes) (offset : Nat) : Bool :=
  offset == 0 || offset == bytes.length || bytes[offset]?.any fun byte => !isContinuation byte

/-- The boundary that is reached by walking back from an offset, byte by byte. -/
def boundaryBefore (bytes : Bytes) : Nat → Nat
  | 0 => 0
  | offset + 1 =>
      if isBoundary bytes (offset + 1) then offset + 1 else boundaryBefore bytes offset

/-- The text in front of the boundary that is reached from a limit. -/
def beginningWithin (limit : Nat) (text : String) : String :=
  let bytes := utf8 text
  decodeLossy (bytes.take (boundaryBefore bytes limit))

end ColumnVeil.Text
