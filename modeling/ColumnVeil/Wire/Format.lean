import ColumnVeil.Bytes

/-!
# Formats of message bodies

A message body is a sequence of fields that refer to each other only through counts.  One
description, `Format`, gives rise to the type of its values and to three operations.
`validate` looks at what has been received so far and says whether a whole value is there;
it is started afresh whenever more bytes arrive.  `read` takes a value out, and `write`
puts one down.

Both readers walk over the whole buffer with a `Cursor`: the position reached and the
number of bytes that the enclosing message still declares.
-/

namespace ColumnVeil.Wire

/-- Why a value could not be read. -/
inductive CodecError
  /-- The buffer ends before the value does. -/
  | bufferUnderrun
  /-- A field is longer than what is left of its message. -/
  | fieldExceeds (width left : Nat)
  /-- No zero byte ends a string within its message. -/
  | missingTerminator
  /-- An array announces a negative number of items. -/
  | negativeLength
  /-- A body goes on after its last field; `tag` is the tag of the message. -/
  | trailingBytes (count : Nat) (tag : UInt8)
  /-- A defect that is described in words. -/
  | malformed (detail : String)
  /-- A message announces more bytes than are allowed. -/
  | messageTooLarge (size : Nat)
  /-- A string that has to be text is not. -/
  | invalidEncoding
deriving Repr, DecidableEq

/-- The wording of a codec error. -/
def CodecError.message : CodecError → String
  | .bufferUnderrun => "Buffer underrun"
  | .fieldExceeds width left =>
    s!"Malformed message: field of {width} bytes exceeds remaining {left} bytes"
  | .missingTerminator => "Malformed message: string is missing its terminator"
  | .negativeLength => "Malformed message: negative array length"
  | .trailingBytes count tag =>
    s!"Malformed message: {count} trailing bytes in '{Char.ofNat tag.toNat}' message"
  | .malformed detail => s!"Malformed message: {detail}"
  | .messageTooLarge size => s!"Message too large: {size} bytes"
  | .invalidEncoding => "Invalid encoding"

/-- What looking at a partly received value finds. -/
inductive Outcome
  /-- A whole value is there. -/
  | complete
  /-- Nothing is wrong so far, but bytes are missing. -/
  | incomplete
  /-- No further bytes can make this a value. -/
  | failed
deriving Repr, DecidableEq

/-- A place in a buffer, and how many bytes its message still declares. -/
structure Cursor where
  pos : Nat
  left : Nat
deriving Repr, DecidableEq

/-- The cursor after `width` more bytes. -/
def Cursor.advance (cursor : Cursor) (width : Nat) : Cursor :=
  ⟨cursor.pos + width, cursor.left - width⟩

/-- Width of the count in front of an array. -/
inductive CountWidth
  | two
  | four
deriving Repr, DecidableEq

/-- The bytes of a count. -/
def CountWidth.bytes : CountWidth → Nat
  | .two => 2
  | .four => 4

/-- The count that its bytes stand for, unless it is negative. -/
def CountWidth.count? (width : CountWidth) (bytes : Bytes) : Option Nat :=
  let value := match width with
    | .two => (ofInt16Bytes bytes).toInt
    | .four => (ofInt32Bytes bytes).toInt
  if value < 0 then none else some value.toNat

/-- The bytes of a count; a count too large for its width wraps around. -/
def CountWidth.encode (width : CountWidth) (count : Nat) : Bytes :=
  bigEndian width.bytes count

/-- The layout of a value in a message. -/
inductive Format
  /-- No bytes at all; also the end of a chain of fields. -/
  | unit
  /-- One byte. -/
  | byte
  /-- A 16-bit integer. -/
  | int16
  /-- A 32-bit integer. -/
  | int32
  /-- Bytes up to a zero byte. -/
  | cstring
  /-- Whatever is left of the message. -/
  | remainder
  /-- A 32-bit length and that many bytes; a negative length stands for no value. -/
  | sized
  /-- A count and that many items. -/
  | array (width : CountWidth) (item : Format)
  /-- Items up to a zero byte, which is not consumed, or up to the end of the message. -/
  | repeated (item : Format)
  /-- One field after the other. -/
  | field (first rest : Format)
deriving Repr, DecidableEq

namespace Format

/-- The values of a format. -/
@[reducible] def Value : Format → Type
  | unit => Unit
  | byte => UInt8
  | int16 => Int16
  | int32 => Int32
  | cstring => Bytes
  | remainder => Bytes
  | sized => Option Bytes
  | array _ item => List item.Value
  | repeated item => List item.Value
  | field first rest => first.Value × rest.Value

/-! ## Looking at a value -/

/-- The bytes of a buffer from a position on. -/
def available (data : Bytes) (pos : Nat) : Nat :=
  data.length - pos

/-- Look at a field of a fixed width. -/
def validateFixed (data : Bytes) (width : Nat) (cursor : Cursor) : Outcome × Cursor :=
  if cursor.left < width then (.failed, cursor)
  else if available data cursor.pos < width then (.incomplete, cursor)
  else (.complete, cursor.advance width)

/-- Look at a string: a zero byte must lie in what has arrived of the message. -/
def validateString (data : Bytes) (cursor : Cursor) : Outcome × Cursor :=
  let arrived := available data cursor.pos
  match ((data.drop cursor.pos).take (min arrived cursor.left)).findIdx? (· == 0) with
  | some index => (.complete, cursor.advance (index + 1))
  | none => if cursor.left ≤ arrived then (.failed, cursor) else (.incomplete, cursor)

/-- Look at a length and as many bytes. -/
def validateSized (data : Bytes) (cursor : Cursor) : Outcome × Cursor :=
  if cursor.left < 4 then (.failed, cursor)
  else if available data cursor.pos < 4 then (.incomplete, cursor)
  else
    let length := (ofInt32Bytes ((data.drop cursor.pos).take 4)).toInt
    if length < 0 then (.complete, cursor.advance 4)
    else if cursor.left - 4 < length.toNat then (.failed, cursor)
    else if available data cursor.pos < length.toNat + 4 then (.incomplete, cursor)
    else (.complete, cursor.advance (length.toNat + 4))

/-- Look at a number of items, stopping at the first that is not whole. -/
def validateTimes (item : Cursor → Outcome × Cursor) : Nat → Cursor → Outcome × Cursor
  | 0, cursor => (.complete, cursor)
  | count + 1, cursor =>
    match item cursor with
    | (.complete, next) => validateTimes item count next
    | stopped => stopped

/-- Look at items up to a zero byte or the end.  An item that takes no bytes is refused,
so every round but the last takes at least one; `fuel` bounds the rounds. -/
def validateWhile (data : Bytes) (item : Cursor → Outcome × Cursor) :
    (fuel : Nat) → Cursor → Outcome × Cursor
  | 0, cursor => (.complete, cursor)
  | fuel + 1, cursor =>
    if cursor.left = 0 then (.complete, cursor)
    else match data[cursor.pos]? with
      | none => (.incomplete, cursor)
      | some 0 => (.complete, cursor)
      | some _ =>
        match item cursor with
        | (.complete, next) =>
          if next.pos = cursor.pos then (.failed, next) else validateWhile data item fuel next
        | stopped => stopped

/-- Say whether a whole value of the format starts at the cursor.  The cursor that comes
back lies after everything that was found whole. -/
def validate : (format : Format) → (data : Bytes) → Cursor → Outcome × Cursor
  | unit, _, cursor => (.complete, cursor)
  | byte, data, cursor => validateFixed data 1 cursor
  | int16, data, cursor => validateFixed data 2 cursor
  | int32, data, cursor => validateFixed data 4 cursor
  | cstring, data, cursor => validateString data cursor
  | remainder, data, cursor =>
    if available data cursor.pos < cursor.left then (.incomplete, cursor)
    else (.complete, cursor.advance cursor.left)
  | sized, data, cursor => validateSized data cursor
  | array width item, data, cursor =>
    match validateFixed data width.bytes cursor with
    | (.complete, next) =>
      match width.count? ((data.drop cursor.pos).take width.bytes) with
      | none => (.failed, next)
      | some count => validateTimes (item.validate data) count next
    | stopped => stopped
  | repeated item, data, cursor =>
    validateWhile data (item.validate data) (cursor.left + 1) cursor
  | field first rest, data, cursor =>
    match first.validate data cursor with
    | (.complete, next) => rest.validate data next
    | stopped => stopped

/-! ## Reading a value -/

/-- The next bytes of a message. -/
def take (data : Bytes) (width : Nat) (cursor : Cursor) : Except CodecError Bytes × Cursor :=
  if cursor.left < width then (.error (.fieldExceeds width cursor.left), cursor)
  else if data.length < cursor.pos + width then (.error .bufferUnderrun, cursor)
  else (.ok ((data.drop cursor.pos).take width), cursor.advance width)

/-- Read a string and its final zero byte. -/
def readString (data : Bytes) (cursor : Cursor) : Except CodecError Bytes × Cursor :=
  if data.length < cursor.pos + cursor.left then (.error .bufferUnderrun, cursor)
  else
    let window := (data.drop cursor.pos).take cursor.left
    match window.findIdx? (· == 0) with
    | none => (.error .missingTerminator, cursor)
    | some index => (.ok (window.take index), cursor.advance (index + 1))

/-- Read a length and as many bytes. -/
def readSized (data : Bytes) (cursor : Cursor) : Except CodecError (Option Bytes) × Cursor :=
  match take data 4 cursor with
  | (.error error, next) => (.error error, next)
  | (.ok bytes, next) =>
    let length := (ofInt32Bytes bytes).toInt
    if length < 0 then (.ok none, next)
    else match take data length.toNat next with
      | (.error error, last) => (.error error, last)
      | (.ok value, last) => (.ok (some value), last)

/-- Read a number of items in a row. -/
def readTimes {α : Type} (item : Cursor → Except CodecError α × Cursor) :
    Nat → Cursor → Except CodecError (List α) × Cursor
  | 0, cursor => (.ok [], cursor)
  | count + 1, cursor =>
    match item cursor with
    | (.error error, next) => (.error error, next)
    | (.ok value, next) =>
      match readTimes item count next with
      | (.error error, last) => (.error error, last)
      | (.ok values, last) => (.ok (value :: values), last)

/-- Read items up to a zero byte or the end; `fuel` bounds the rounds. -/
def readWhile {α : Type} (data : Bytes) (item : Cursor → Except CodecError α × Cursor) :
    (fuel : Nat) → Cursor → Except CodecError (List α) × Cursor
  | 0, cursor => (.ok [], cursor)
  | fuel + 1, cursor =>
    if cursor.left = 0 then (.ok [], cursor)
    else match data[cursor.pos]? with
      | none => (.error .bufferUnderrun, cursor)
      | some 0 => (.ok [], cursor)
      | some _ =>
        match item cursor with
        | (.error error, next) => (.error error, next)
        | (.ok value, next) =>
          match readWhile data item fuel next with
          | (.error error, last) => (.error error, last)
          | (.ok values, last) => (.ok (value :: values), last)

/-- Apply a function to what was read. -/
def mapRead {α β : Type} (convert : α → β) :
    Except CodecError α × Cursor → Except CodecError β × Cursor
  | (.error error, cursor) => (.error error, cursor)
  | (.ok value, cursor) => (.ok (convert value), cursor)

/-- Take a value of the format out of a buffer.  On failure the cursor shows how far the
reading came. -/
def read : (format : Format) → (data : Bytes) → Cursor → Except CodecError format.Value × Cursor
  | unit, _, cursor => (.ok (), cursor)
  | byte, data, cursor => mapRead (fun bytes => bytes.headD 0) (take data 1 cursor)
  | int16, data, cursor => mapRead ofInt16Bytes (take data 2 cursor)
  | int32, data, cursor => mapRead ofInt32Bytes (take data 4 cursor)
  | cstring, data, cursor => readString data cursor
  | remainder, data, cursor => take data cursor.left cursor
  | sized, data, cursor => readSized data cursor
  | array width item, data, cursor =>
    match take data width.bytes cursor with
    | (.error error, next) => (.error error, next)
    | (.ok bytes, next) =>
      match width.count? bytes with
      | none => (.error .negativeLength, next)
      | some count => readTimes (item.read data) count next
  | repeated item, data, cursor => readWhile data (item.read data) (cursor.left + 1) cursor
  | field first rest, data, cursor =>
    match first.read data cursor with
    | (.error error, next) => (.error error, next)
    | (.ok value, next) =>
      match rest.read data next with
      | (.error error, last) => (.error error, last)
      | (.ok values, last) => (.ok (value, values), last)

/-! ## Writing a value -/

/-- A length and as many bytes, or the length -1 for no value. -/
def writeSized : Option Bytes → Bytes
  | none => bigEndian 4 0xFFFFFFFF
  | some bytes => bigEndian 4 bytes.length ++ bytes

/-- The bytes of a value. -/
def write : (format : Format) → format.Value → Bytes
  | unit, _ => []
  | byte, value => [value]
  | int16, value => int16Bytes value
  | int32, value => int32Bytes value
  | cstring, value => value ++ [0]
  | remainder, value => value
  | sized, value => writeSized value
  | array width item, values => width.encode values.length ++ values.flatMap item.write
  | repeated item, values => values.flatMap item.write
  | field first rest, (value, values) => first.write value ++ rest.write values

end Format

end ColumnVeil.Wire
