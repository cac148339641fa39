import ColumnVeil.Text.Utf8
import ColumnVeil.Wire.Format

/-!
# Messages

A message is a tag, a 32-bit length that counts itself, and a body.  The tag and the side it
comes from decide the kind of the body.  The relay interprets a few kinds; of the others it
knows the layout, so that it can tell a whole message from a damaged one, and forwards the
bytes as they are.
-/

namespace ColumnVeil.Wire

/-- The layout of a column of a row description. -/
@[reducible] def columnFormat : Format :=
  .field .cstring (.field .int32 (.field .int16 (.field .int32 (.field .int16
    (.field .int32 (.field .int16 .unit))))))

/-- The layout of a field of an error or notice. -/
@[reducible] def errorFieldFormat : Format :=
  .field .byte (.field .cstring .unit)

/-- The kinds of message body. -/
inductive BodyKind
  | query
  | parse
  | rowDescription
  | dataRow
  | commandComplete
  | emptyQueryResponse
  | errorResponse
  | readyForQuery
  | startup
  | empty
  | bytes
  | string
  | kindAndName
  | bind
  | execute
  | functionCall
  | authentication
  | backendKeyData
  | copyResponse
  | functionCallResponse
  | negotiateProtocolVersion
  | notice
  | notification
  | parameterDescription
  | parameterStatus
deriving Repr, DecidableEq

namespace BodyKind

/-- The name of a kind of body. -/
def name : BodyKind → String
  | .query => "Query"
  | .parse => "Parse"
  | .rowDescription => "RowDescription"
  | .dataRow => "DataRow"
  | .commandComplete => "CommandComplete"
  | .emptyQueryResponse => "EmptyQueryResponse"
  | .errorResponse => "ErrorResponse"
  | .readyForQuery => "ReadyForQuery"
  | .startup => "Startup"
  | .empty => "Empty"
  | .bytes => "Bytes"
  | .string => "String"
  | .kindAndName => "KindAndName"
  | .bind => "Bind"
  | .execute => "Execute"
  | .functionCall => "FunctionCall"
  | .authentication => "Authentication"
  | .backendKeyData => "BackendKeyData"
  | .copyResponse => "CopyResponse"
  | .functionCallResponse => "FunctionCallResponse"
  | .negotiateProtocolVersion => "NegotiateProtocolVersion"
  | .notice => "Notice"
  | .notification => "Notification"
  | .parameterDescription => "ParameterDescription"
  | .parameterStatus => "ParameterStatus"

/-- The layout of a kind of body. -/
@[reducible] def format : BodyKind → Format
  | .query => .cstring
  | .parse => .field .cstring (.field .cstring (.field (.array .two .int32) .unit))
  | .rowDescription => .array .two columnFormat
  | .dataRow => .array .two .sized
  | .commandComplete => .cstring
  | .emptyQueryResponse => .unit
  | .errorResponse => .field (.repeated errorFieldFormat) (.field .byte .unit)
  | .readyForQuery => .byte
  | .startup => .field .int32 (.field (.repeated .cstring) (.field .remainder .unit))
  | .empty => .unit
  | .bytes => .remainder
  | .string => .cstring
  | .kindAndName => .field .byte (.field .cstring .unit)
  | .bind => .field .cstring (.field .cstring (.field (.array .two .int16)
      (.field (.array .two .sized) (.field (.array .two .int16) .unit))))
  | .execute => .field .cstring (.field .int32 .unit)
  | .functionCall => .field .int32 (.field (.array .two .int16)
      (.field (.array .two .sized) (.field .int16 .unit)))
  | .authentication => .field .int32 (.field .remainder .unit)
  | .backendKeyData => .field .int32 (.field .remainder .unit)
  | .copyResponse => .field .byte (.field (.array .two .int16) .unit)
  | .functionCallResponse => .sized
  | .negotiateProtocolVersion => .field .int32 (.field (.array .four .cstring) .unit)
  | .notice => .field (.repeated errorFieldFormat) (.field .byte .unit)
  | .notification => .field .int32 (.field .cstring (.field .cstring .unit))
  | .parameterDescription => .array .two .int32
  | .parameterStatus => .field .cstring (.field .cstring .unit)

end BodyKind

/-- What a tag means: the name of the message and the kind of its body. -/
structure MessageKind where
  name : String
  body : BodyKind
deriving Repr, DecidableEq

/-- A tag that is not in the tables; its body is not looked into. -/
def MessageKind.unknown : MessageKind := ⟨"Other", .bytes⟩

/-- The startup packet, which has no tag. -/
def MessageKind.startup : MessageKind := ⟨"Startup", .startup⟩

/-- The two ends of a connection. -/
inductive Side
  | frontend
  | backend
deriving Repr, DecidableEq

/-- The byte of an ASCII character. -/
def ascii (character : Char) : UInt8 :=
  UInt8.ofNat character.toNat

/-- The messages that a client sends after the startup packet. -/
def frontendKinds : List (UInt8 × MessageKind) :=
  [ (ascii 'B', ⟨"Bind", .bind⟩),
    (ascii 'C', ⟨"Close", .kindAndName⟩),
    (ascii 'd', ⟨"CopyData", .bytes⟩),
    (ascii 'c', ⟨"CopyDone", .empty⟩),
    (ascii 'f', ⟨"CopyFail", .string⟩),
    (ascii 'D', ⟨"Describe", .kindAndName⟩),
    (ascii 'E', ⟨"Execute", .execute⟩),
    (ascii 'H', ⟨"Flush", .empty⟩),
    (ascii 'F', ⟨"FunctionCall", .functionCall⟩),
    (ascii 'p', ⟨"PasswordMessage/SASLMessage", .bytes⟩),
    (ascii 'P', ⟨"Parse", .parse⟩),
    (ascii 'Q', ⟨"Query", .query⟩),
    (ascii 'S', ⟨"Sync", .empty⟩),
    (ascii 'X', ⟨"Terminate", .empty⟩) ]

/-- The messages that a server sends. -/
def backendKinds : List (UInt8 × MessageKind) :=
  [ (ascii 'R', ⟨"Authentication", .authentication⟩),
    (ascii 'K', ⟨"BackendKeyData", .backendKeyData⟩),
    (ascii '2', ⟨"BindComplete", .empty⟩),
    (ascii '3', ⟨"CloseComplete", .empty⟩),
    (ascii 'C', ⟨"CommandComplete", .commandComplete⟩),
    (ascii 'd', ⟨"CopyData", .bytes⟩),
    (ascii 'c', ⟨"CopyDone", .empty⟩),
    (ascii 'G', ⟨"CopyInResponse", .copyResponse⟩),
    (ascii 'H', ⟨"CopyOutResponse", .copyResponse⟩),
    (ascii 'W', ⟨"CopyBothResponse", .copyResponse⟩),
    (ascii 'D', ⟨"DataRow", .dataRow⟩),
    (ascii 'I', ⟨"EmptyQueryResponse", .emptyQueryResponse⟩),
    (ascii 'E', ⟨"ErrorResponse", .errorResponse⟩),
    (ascii 'V', ⟨"FunctionCallResponse", .functionCallResponse⟩),
    (ascii 'v', ⟨"NegotiateProtocolVersion", .negotiateProtocolVersion⟩),
    (ascii 'n', ⟨"NoData", .empty⟩),
    (ascii 'N', ⟨"NoticeResponse", .notice⟩),
    (ascii 'A', ⟨"NotificationResponse", .notification⟩),
    (ascii 't', ⟨"ParameterDescription", .parameterDescription⟩),
    (ascii 'S', ⟨"ParameterStatus", .parameterStatus⟩),
    (ascii '1', ⟨"ParseComplete", .empty⟩),
    (ascii 's', ⟨"PortalSuspended", .empty⟩),
    (ascii 'Z', ⟨"ReadyForQuery", .readyForQuery⟩),
    (ascii 'T', ⟨"RowDescription", .rowDescription⟩) ]

/-- What a tag means in a message from one side. -/
def MessageKind.ofTag (side : Side) (tag : UInt8) : MessageKind :=
  let kinds := match side with
    | .frontend => frontendKinds
    | .backend => backendKinds
  (kinds.lookup tag).getD .unknown

/-- What holds of the entries of a table, and of a tag whose kind is unknown, holds of what the
tag means. -/
theorem MessageKind.of_lookup {kinds : List (UInt8 × MessageKind)}
    {motive : UInt8 → MessageKind → Prop} (known : ∀ entry ∈ kinds, motive entry.1 entry.2)
    (tag : UInt8) (other : motive tag .unknown) :
    motive tag ((kinds.lookup tag).getD .unknown) := by
  cases found : kinds.lookup tag with
  | none =>
    exact other
  | some kind =>
    have member : (tag, kind) ∈ kinds := by
      obtain ⟨before, after, split, _⟩ := List.lookup_eq_some_iff.mp found
      simp [split]
    exact known (tag, kind) member

/-- A column of a row description. -/
structure Column where
  name : Bytes
  tableOid : Int32 := 0
  columnNumber : Int16 := 0
  typeOid : Int32
  typeSize : Int16
  modifier : Int32 := -1
  formatCode : Int16 := 0
deriving Repr, DecidableEq

namespace Column

/-- The fields of a column in the order in which they are sent. -/
def toFields (column : Column) : columnFormat.Value :=
  (column.name, column.tableOid, column.columnNumber, column.typeOid, column.typeSize,
    column.modifier, column.formatCode, ())

/-- A column from its fields. -/
def ofFields : columnFormat.Value → Column
  | (name, tableOid, columnNumber, typeOid, typeSize, modifier, formatCode, ()) =>
    { name, tableOid, columnNumber, typeOid, typeSize, modifier, formatCode }

/-- The name of a column as text. -/
def label (column : Column) : String :=
  Text.decodeLossy column.name

@[simp] theorem ofFields_toFields (column : Column) : ofFields column.toFields = column := rfl

end Column

/-- A field of an error response: its code and its text. -/
structure ErrorField where
  code : UInt8
  text : Bytes
deriving Repr, DecidableEq

namespace ErrorField

/-- The fields in the order in which they are sent. -/
def toFields (errorField : ErrorField) : errorFieldFormat.Value :=
  (errorField.code, errorField.text, ())

/-- An error field from its parts. -/
def ofFields : errorFieldFormat.Value → ErrorField
  | (code, text, ()) => ⟨code, text⟩

@[simp] theorem ofFields_toFields (errorField : ErrorField) :
    ofFields errorField.toFields = errorField := rfl

end ErrorField

/-- A message whose kind is interpreted, or the bytes of one that is not. -/
inductive Message
  /-- A query text, not necessarily valid UTF-8. -/
  | query (text : Bytes)
  /-- A statement to prepare: its name, its text and the types of its parameters. -/
  | parse (name text : Bytes) (types : List Int32)
  /-- The columns of the rows that follow. -/
  | rowDescription (columns : List Column)
  /-- One row; an absent value is NULL. -/
  | dataRow (values : List (Option Bytes))
  /-- The tag of a command that has been carried out. -/
  | commandComplete (tag : Bytes)
  /-- The answer to a query without a statement. -/
  | emptyQueryResponse
  /-- An error, as fields and a final byte. -/
  | errorResponse (fields : List ErrorField) (terminator : UInt8)
  /-- The server waits for the next query, in this transaction status. -/
  | readyForQuery (status : UInt8)
  /-- Bytes that are passed on as they are; the tag is absent for a startup packet. -/
  | raw (tag : Option UInt8) (bytes : Bytes)
deriving Repr, DecidableEq

namespace Message

/-- A tag, the length of the rest, and a body. -/
def frame (tag : UInt8) (body : Bytes) : Bytes :=
  tag :: bigEndian 4 (body.length + 4) ++ body

/-- The tag of a message. -/
def tag : Message → Option UInt8
  | query _ => some (ascii 'Q')
  | parse .. => some (ascii 'P')
  | rowDescription _ => some (ascii 'T')
  | dataRow _ => some (ascii 'D')
  | commandComplete _ => some (ascii 'C')
  | emptyQueryResponse => some (ascii 'I')
  | errorResponse .. => some (ascii 'E')
  | readyForQuery _ => some (ascii 'Z')
  | raw tag _ => tag

/-- The bytes of a message. -/
def write : Message → Bytes
  | query text => frame (ascii 'Q') (BodyKind.query.format.write text)
  | parse name text types => frame (ascii 'P') (BodyKind.parse.format.write (name, text, types, ()))
  | rowDescription columns =>
    frame (ascii 'T') (BodyKind.rowDescription.format.write (columns.map Column.toFields))
  | dataRow values => frame (ascii 'D') (BodyKind.dataRow.format.write values)
  | commandComplete tag => frame (ascii 'C') (BodyKind.commandComplete.format.write tag)
  | emptyQueryResponse => frame (ascii 'I') (BodyKind.emptyQueryResponse.format.write ())
  | errorResponse fields terminator =>
    frame (ascii 'E')
      (BodyKind.errorResponse.format.write (fields.map ErrorField.toFields, terminator, ()))
  | readyForQuery status => frame (ascii 'Z') (BodyKind.readyForQuery.format.write status)
  | raw _ bytes => bytes

/-- Read a whole body; nothing may follow it. -/
def readBody (format : Format) (tag : UInt8) (body : Bytes) : Except CodecError format.Value :=
  match format.read body ⟨0, body.length⟩ with
  | (.error error, _) => .error error
  | (.ok value, cursor) =>
    if cursor.left ≠ 0 then .error (.trailingBytes cursor.left tag) else .ok value

/-- The message in a frame, whose header has `headerLength` bytes. -/
def ofFrame (kind : BodyKind) (tag : Option UInt8) (frame : Bytes) (headerLength : Nat) :
    Except CodecError Message :=
  let body := frame.drop headerLength
  match kind with
  | .query => (readBody BodyKind.query.format (ascii 'Q') body).map query
  | .parse =>
    (readBody BodyKind.parse.format (ascii 'P') body).map fun (name, text, types, ()) =>
      parse name text types
  | .rowDescription =>
    (readBody BodyKind.rowDescription.format (ascii 'T') body).map fun columns =>
      rowDescription (columns.map Column.ofFields)
  | .dataRow => (readBody BodyKind.dataRow.format (ascii 'D') body).map dataRow
  | .commandComplete =>
    (readBody BodyKind.commandComplete.format (ascii 'C') body).map commandComplete
  | .emptyQueryResponse =>
    (readBody BodyKind.emptyQueryResponse.format (ascii 'I') body).map fun () =>
      emptyQueryResponse
  | .errorResponse =>
    (readBody BodyKind.errorResponse.format (ascii 'E') body).map fun (fields, terminator, ()) =>
      errorResponse (fields.map ErrorField.ofFields) terminator
  | .readyForQuery => (readBody BodyKind.readyForQuery.format (ascii 'Z') body).map readyForQuery
  | _ => .ok (raw tag frame)

/-- A query of a text. -/
def ofQuery (text : String) : Message :=
  query (Text.utf8 text)

/-- An error of severity ERROR with a SQLSTATE and a message. -/
def ofError (sqlstate message : String) : Message :=
  let entry (code : Char) (text : String) : ErrorField := ⟨ascii code, Text.utf8 text⟩
  errorResponse
    [entry 'S' "ERROR", entry 'V' "ERROR", entry 'C' sqlstate, entry 'M' message] 0

/-- The text of the first field of an error with a code. -/
def errorText? (fields : List ErrorField) (code : Char) : Option String :=
  (fields.find? fun entry => entry.code == ascii code).map fun entry => Text.decodeLossy entry.text

end Message

/-- The transaction status of a session outside any transaction. -/
def idleStatus : UInt8 := ascii 'I'

end ColumnVeil.Wire
