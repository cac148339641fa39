import ColumnVeil.Proofs.Relay.Frames

/-!
# Reading what has been written

A value is read back from the bytes that it was written as, and the reader stops where they
end.  What stands behind the value in its message matters to a repetition, which goes on
until a zero byte, and to a remainder, which takes everything; so `Readable` says of a value
that it can be read back in front of certain bytes.

The main statement carries this to messages.  A message that keeps the limits of the
protocol is written as one frame, whose body is found whole and decoded to the message.
-/

namespace ColumnVeil

/-! ## Numbers -/

/-- Two bytes hold a number of 15 bits. -/
theorem toInt_bigEndian_two {number : Nat} (bound : number ≤ 32767) :
    (ofInt16Bytes (bigEndian 2 number)).toInt = number := by
  have whole : number % Nat.pow 256 2 = number :=
    Nat.mod_eq_of_lt (Nat.lt_of_le_of_lt bound (by decide))
  rw [ofInt16Bytes, ofBigEndian_bigEndian, whole, UInt16.toInt16_ofNat',
    Int16.toInt_ofNat_of_lt (Nat.lt_succ_of_le bound)]

/-- Four bytes hold a number of 31 bits. -/
theorem toInt_bigEndian_four {number : Nat} (bound : number ≤ 2147483647) :
    (ofInt32Bytes (bigEndian 4 number)).toInt = number := by
  have whole : number % Nat.pow 256 4 = number :=
    Nat.mod_eq_of_lt (Nat.lt_of_le_of_lt bound (by decide))
  rw [ofInt32Bytes, ofBigEndian_bigEndian, whole, UInt32.toInt32_ofNat',
    Int32.toInt_ofNat_of_lt (Nat.lt_succ_of_le bound)]

namespace Wire

/-- How many items an array of a count width may have. -/
def CountWidth.limit : CountWidth → Nat
  | .two => 32767
  | .four => 2147483647

theorem CountWidth.count?_encode (width : CountWidth) {count : Nat}
    (small : count ≤ width.limit) : width.count? (width.encode count) = some count := by
  cases width with
  | two =>
      have value := toInt_bigEndian_two small
      simp only [CountWidth.count?, CountWidth.encode, CountWidth.bytes, value]
      rw [if_neg (by omega), Int.toNat_natCast]
  | four =>
      have value := toInt_bigEndian_four small
      simp only [CountWidth.count?, CountWidth.encode, CountWidth.bytes, value]
      rw [if_neg (by omega), Int.toNat_natCast]

/-! ## Cursors in front of bytes -/

/-- The message at a cursor consists of certain bytes, and the buffer ends with them. -/
structure Cursor.Faces (data : Bytes) (cursor : Cursor) (bytes : Bytes) : Prop where
  rest : data.drop cursor.pos = bytes
  ends : cursor.pos + cursor.left = data.length

namespace Cursor.Faces

variable {data bytes next : Bytes} {cursor : Cursor}

theorem left_eq (faces : cursor.Faces data bytes) : cursor.left = bytes.length := by
  have ends := faces.ends
  rw [← faces.rest, List.length_drop]
  omega

theorem whole (faces : cursor.Faces data bytes) : cursor.pos + cursor.left ≤ data.length :=
  Nat.le_of_eq faces.ends

/-- Behind some of its bytes a cursor faces the others. -/
theorem advance (faces : cursor.Faces data (bytes ++ next)) :
    (cursor.advance bytes.length).Faces data next where
  rest := by
    rw [pos_advance, ← List.drop_drop, faces.rest, List.drop_left]
  ends := by
    have ends := faces.ends
    have left := faces.left_eq
    rw [List.length_append] at left
    simp only [pos_advance, left_advance]
    omega

theorem take_eq (faces : cursor.Faces data (bytes ++ next)) :
    Format.take data bytes.length cursor = (.ok bytes, cursor.advance bytes.length) := by
  have declared : bytes.length ≤ cursor.left := by
    rw [faces.left_eq, List.length_append]
    exact Nat.le_add_right _ _
  rw [Format.take_of_le faces.whole declared, faces.rest, List.take_left]

/-- The next byte of the message. -/
theorem getElem?_eq (faces : cursor.Faces data bytes) : data[cursor.pos]? = bytes.head? := by
  rw [← faces.rest, List.head?_drop]

end Cursor.Faces

namespace Format

/-! ## Values that can be read back -/

section Lists

variable {α : Type}

/-- Every value of a list can be read back in front of those behind it. -/
def ReadableAll (readable : α → Bytes → Prop) (write : α → Bytes) : List α → Bytes → Prop
  | [], _ => True
  | value :: rest, next =>
      readable value (rest.flatMap write ++ next) ∧ ReadableAll readable write rest next

end Lists

/-- A value can be read back if certain bytes of its message follow. -/
def Readable : (format : Format) → format.Value → (next : Bytes) → Prop
  | unit, _, _ => True
  | byte, _, _ => True
  | int16, _, _ => True
  | int32, _, _ => True
  | cstring, text, _ => 0 ∉ text
  | remainder, _, next => next = []
  | sized, value, _ => ∀ bytes ∈ value, bytes.length ≤ 2147483647
  | array width item, values, next =>
      values.length ≤ width.limit ∧ ReadableAll item.Readable item.write values next
  | repeated item, values, next =>
      ReadableAll item.Readable item.write values next ∧
        (∀ value ∈ values, (item.write value).headD 0 ≠ 0) ∧ next.headD 0 = 0
  | field first rest, (value, values), next =>
      first.Readable value (rest.write values ++ next) ∧ rest.Readable values next

/-! ## Single fields -/

section Fields

variable {data next : Bytes} {cursor : Cursor}

theorem readString_of_faces {text : Bytes} (zeroless : 0 ∉ text)
    (faces : cursor.Faces data (text ++ [0] ++ next)) :
    readString data cursor = (.ok text, cursor.advance (text.length + 1)) := by
  have window : (data.drop cursor.pos).take cursor.left = text ++ [0] ++ next := by
    rw [faces.rest, faces.left_eq, List.take_length]
  have absent : text.findIdx? (· == 0) = none := by
    rw [List.findIdx?_eq_none_iff]
    intro byte member
    rw [beq_eq_false_iff_ne]
    rintro rfl
    exact zeroless member
  have found : (text ++ [0] ++ next).findIdx? (· == 0) = some text.length := by
    simp [List.findIdx?_append, List.findIdx?_cons, absent]
  simp only [readString, if_neg (Nat.not_lt.mpr faces.whole), window, found]
  rw [List.append_assoc, List.take_left]

theorem readSized_of_faces {value : Option Bytes} (small : ∀ bytes ∈ value, bytes.length ≤ 2147483647)
    (faces : cursor.Faces data (writeSized value ++ next)) :
    readSized data cursor = (.ok value, cursor.advance (writeSized value).length) := by
  cases value with
  | none =>
      have read := faces.take_eq
      have width : (writeSized none).length = 4 := rfl
      have negative : (ofInt32Bytes (writeSized none)).toInt < 0 := by decide
      rw [width] at read ⊢
      simp only [readSized, read, if_pos negative]
  | some bytes =>
      have length := toInt_bigEndian_four (small bytes rfl)
      rw [writeSized, List.append_assoc] at faces
      have read := faces.take_eq
      have readValue := faces.advance.take_eq
      rw [bigEndian_length] at read readValue
      have positive : ¬ (bytes.length : Int) < 0 := by omega
      simp only [readSized, read, length, if_neg positive, Int.toNat_natCast, readValue,
        advance_advance, writeSized, List.length_append, bigEndian_length]
      rw [Nat.add_comm]

end Fields

/-! ## Arrays and repetitions -/

section Lists

variable {α : Type} {readable : α → Bytes → Prop} {write : α → Bytes}
  {read : Cursor → Except CodecError α × Cursor} {data next : Bytes} {cursor : Cursor}

/-- A reader gives back what was written, wherever it stands in front of it. -/
def ReadsBack (data : Bytes) (readable : α → Bytes → Prop) (write : α → Bytes)
    (read : Cursor → Except CodecError α × Cursor) : Prop :=
  ∀ value next cursor, readable value next → Cursor.Faces data cursor (write value ++ next) →
    read cursor = (.ok value, cursor.advance (write value).length)

theorem readTimes_of_faces (readsBack : ReadsBack data readable write read) {values : List α}
    (all : ReadableAll readable write values next)
    (faces : cursor.Faces data (values.flatMap write ++ next)) :
    readTimes read values.length cursor =
      (.ok values, cursor.advance (values.flatMap write).length) := by
  induction values generalizing cursor with
  | nil =>
      rfl
  | cons value rest inductionHypothesis =>
      rw [List.flatMap_cons, List.append_assoc] at faces
      have others := inductionHypothesis all.2 faces.advance
      rw [List.length_cons, readTimes_succ, readsBack value _ cursor all.1 faces]
      simp only [readOn, others, mapRead, advance_advance, List.flatMap_cons,
        List.length_append]
      rw [Nat.add_comm]

theorem readWhile_of_faces (readsBack : ReadsBack data readable write read) {values : List α}
    (all : ReadableAll readable write values next)
    (marked : ∀ value ∈ values, (write value).headD 0 ≠ 0) (closed : next.headD 0 = 0)
    (faces : cursor.Faces data (values.flatMap write ++ next)) {fuel : Nat}
    (enough : values.length < fuel) :
    readWhile data read fuel cursor =
      (.ok values, cursor.advance (values.flatMap write).length) := by
  induction values generalizing cursor fuel with
  | nil =>
      cases fuel with
      | zero => cases enough
      | succ fuel =>
          rw [readWhile_succ, faces.left_eq, faces.getElem?_eq]
          cases next with
          | nil => rfl
          | cons head tail =>
              have zero : head = 0 := closed
              simp [zero, Cursor.advance]
  | cons value rest inductionHypothesis =>
      cases fuel with
      | zero => cases enough
      | succ fuel =>
          rw [List.flatMap_cons, List.append_assoc] at faces
          have headed := marked value List.mem_cons_self
          have others := inductionHypothesis all.2
            (fun item member => marked item (List.mem_cons_of_mem _ member)) faces.advance
            (Nat.lt_of_succ_lt_succ enough)
          rw [readWhile_succ, faces.left_eq, faces.getElem?_eq,
            readsBack value _ cursor all.1 faces]
          simp only [readOn, others, mapRead, advance_advance, List.flatMap_cons,
            List.length_append]
          -- The value starts with a byte that does not end the repetition.
          cases written : write value with
          | nil =>
              rw [written] at headed
              exact absurd rfl headed
          | cons head tail =>
              rw [written] at headed
              have nonzero : head ≠ 0 := headed
              simp only [List.cons_append, List.head?_cons, List.length_cons, nonzero, if_false]
              rw [if_neg (by omega), Nat.add_comm]

end Lists

/-- The values of a repetition take at least a byte each. -/
theorem length_le_flatMap {α : Type} {write : α → Bytes} {values : List α}
    (marked : ∀ value ∈ values, (write value).headD 0 ≠ 0) :
    values.length ≤ (values.flatMap write).length := by
  induction values with
  | nil =>
      exact Nat.le_refl _
  | cons value rest inductionHypothesis =>
      have others := inductionHypothesis fun item member =>
        marked item (List.mem_cons_of_mem _ member)
      have headed := marked value List.mem_cons_self
      have positive : 0 < (write value).length := by
        rw [List.length_pos_iff]
        intro empty
        rw [empty] at headed
        exact headed rfl
      rw [List.flatMap_cons, List.length_cons, List.length_append]
      omega

/-! ## Every format -/

/-- A value that can be read back is read back from where it was written. -/
theorem readsBack_format (format : Format) (data : Bytes) :
    ReadsBack data format.Readable format.write (format.read data) := by
  induction format with
  | unit =>
      intro value next cursor readable faces
      rfl
  | byte =>
      intro value next cursor readable faces
      rw [read, show (1 : Nat) = (byte.write value).length from rfl, faces.take_eq]
      rfl
  | int16 =>
      intro value next cursor readable faces
      have width : (int16.write value).length = 2 := rfl
      rw [read, ← width, faces.take_eq]
      simp only [mapRead, write, ofInt16Bytes_int16Bytes]
  | int32 =>
      intro value next cursor readable faces
      have width : (int32.write value).length = 4 := rfl
      rw [read, ← width, faces.take_eq]
      simp only [mapRead, write, ofInt32Bytes_int32Bytes]
  | cstring =>
      intro text next cursor zeroless faces
      rw [read, readString_of_faces zeroless faces, write, List.length_append]
      rfl
  | remainder =>
      intro value next cursor last faces
      have last : next = [] := last
      have left : cursor.left = (remainder.write value).length := by
        rw [faces.left_eq, last, List.append_nil]
      rw [read, left, faces.take_eq]
      rfl
  | sized =>
      intro value next cursor small faces
      exact readSized_of_faces small faces
  | array width item inductionHypothesis =>
      rintro values next cursor ⟨small, all⟩ faces
      rw [write, List.append_assoc] at faces
      have counted := faces.take_eq
      have items := readTimes_of_faces inductionHypothesis all faces.advance
      have bytes : (width.encode values.length).length = width.bytes := bigEndian_length _ _
      rw [bytes] at counted items
      simp only [read, counted, width.count?_encode small, items, advance_advance, write,
        List.length_append, bytes]
      rw [Nat.add_comm]
  | repeated item inductionHypothesis =>
      rintro values next cursor ⟨all, marked, closed⟩ faces
      have rounds : values.length < cursor.left + 1 := by
        have fits := length_le_flatMap marked
        rw [faces.left_eq, write, List.length_append]
        omega
      exact readWhile_of_faces inductionHypothesis all marked closed faces rounds
  | field first rest firstHypothesis restHypothesis =>
      rintro ⟨value, values⟩ next cursor ⟨readable, readableRest⟩ faces
      rw [write, List.append_assoc] at faces
      rw [read_field, firstHypothesis value _ cursor readable faces]
      simp only [readOn, restHypothesis values next _ readableRest faces.advance, mapRead,
        advance_advance, write, List.length_append]
      rw [Nat.add_comm]

/-- A productive value is found whole where it ends its message, whatever the message stands between. -/
theorem validate_write {format : Format} (sound : format.productive = true)
    {value : format.Value} (readable : format.Readable value []) (before after : Bytes) :
    format.validate (before ++ format.write value ++ after)
        ⟨before.length, (format.write value).length⟩ =
      (.complete, ⟨before.length + (format.write value).length, 0⟩) := by
  let body := format.write value
  have lawful := lawful_validate format
  have faces : Cursor.Faces body ⟨0, body.length⟩ (body ++ []) :=
    ⟨(List.append_nil body).symm, Nat.zero_add _⟩
  have read := readsBack_format format body value [] ⟨0, body.length⟩ readable faces
  have alone : format.validate body ⟨0, body.length⟩ = (.complete, ⟨body.length, 0⟩) := by
    rw [complete_iff_read sound (Nat.le_of_eq (Nat.zero_add _))]
    refine ⟨value, read.trans ?_⟩
    simp only [Cursor.advance, Nat.zero_add, Nat.sub_self, body]
  -- Neither what stands in front of the message nor what follows it matters.
  have shifted := lawful.shifted before body ⟨0, body.length⟩
  rw [alone] at shifted
  have settled := lawful.settled (before ++ body) after ⟨before.length, body.length⟩
  have place : (⟨0, body.length⟩ : Cursor).shift before.length = ⟨before.length, body.length⟩ := rfl
  rw [place] at shifted
  rw [shifted] at settled
  exact settled Outcome.noConfusion

end Format

/-! ## Messages -/

namespace Message

/-- A value that ends its message is read from the body alone. -/
theorem readBody_write {format : Format} {value : format.Value}
    (readable : format.Readable value []) (tag : UInt8) :
    readBody format tag (format.write value) = .ok value := by
  let body := format.write value
  have faces : Cursor.Faces body ⟨0, body.length⟩ (body ++ []) :=
    ⟨(List.append_nil body).symm, Nat.zero_add _⟩
  have read := Format.readsBack_format format body value [] ⟨0, body.length⟩ readable faces
  rw [readBody, read]
  simp [Cursor.advance, body]

/-- The side that sends a kind of message. -/
def sender : Message → Side
  | query _ => .frontend
  | parse .. => .frontend
  | _ => .backend

/-- The kind that the tag of a message announces. -/
def kind (message : Message) : BodyKind :=
  match message.tag with
  | some tag => (MessageKind.ofTag message.sender tag).body
  | none => .startup

/--
The limits of the protocol: texts without a zero byte, at most 32767 items in an array, and
the fields of an error with codes, up to a zero byte.
-/
def KeepsLimits : Message → Prop
  | query text => 0 ∉ text
  | parse name text types => 0 ∉ name ∧ 0 ∉ text ∧ types.length ≤ 32767
  | rowDescription columns => columns.length ≤ 32767 ∧ ∀ column ∈ columns, 0 ∉ column.name
  | dataRow values => values.length ≤ 32767
  | commandComplete tag => 0 ∉ tag
  | emptyQueryResponse => True
  | errorResponse fields terminator =>
      (∀ entry ∈ fields, entry.code ≠ 0 ∧ 0 ∉ entry.text) ∧ terminator = 0
  | readyForQuery _ => True
  | raw .. => False


/-- The body of a message, as the value that is written for its kind. -/
structure HasBody (message : Message) (kind : BodyKind) (tag : UInt8) (value : kind.format.Value) :
    Prop where
  kind_eq : message.kind = kind
  tag_eq : message.tag = some tag
  write_eq : message.write = frame tag (kind.format.write value)
  readable : kind.format.Readable value []
  decoded : ∀ header, ofFrame kind (some tag) (header ++ kind.format.write value) header.length =
    .ok message

theorem length_frame (tag : UInt8) (body : Bytes) : (frame tag body).length = body.length + 5 := by
  simp only [frame, List.cons_append, List.length_cons, List.length_append, bigEndian_length]
  omega

/-! ### Values inside a body -/

theorem readableAll_of_forall {α : Type} {readable : α → Bytes → Prop} {write : α → Bytes}
    {values : List α} (each : ∀ value ∈ values, ∀ next, readable value next) (next : Bytes) :
    Format.ReadableAll readable write values next := by
  induction values with
  | nil =>
      trivial
  | cons value rest inductionHypothesis =>
      exact ⟨each value List.mem_cons_self _,
        inductionHypothesis fun item member => each item (List.mem_cons_of_mem _ member)⟩

/-- A value of a row is shorter than the row. -/
theorem length_le_flatMap_writeSized {values : List (Option Bytes)} {bytes : Bytes}
    (member : some bytes ∈ values) :
    bytes.length ≤ (values.flatMap Format.writeSized).length := by
  obtain ⟨before, after, rfl⟩ := List.append_of_mem member
  simp only [List.flatMap_append, List.flatMap_cons, List.length_append, Format.writeSized]
  omega

theorem readable_columns {columns : List Column} (few : columns.length ≤ 32767)
    (zeroless : ∀ column ∈ columns, 0 ∉ column.name) :
    BodyKind.rowDescription.format.Readable (columns.map Column.toFields) [] := by
  refine ⟨Nat.le_trans (Nat.le_of_eq (List.length_map _)) few, readableAll_of_forall ?_ _⟩
  intro value member next
  obtain ⟨column, listed, rfl⟩ := List.mem_map.mp member
  exact ⟨zeroless column listed, trivial, trivial, trivial, trivial, trivial, trivial, trivial⟩

theorem readable_row {values : List (Option Bytes)} (few : values.length ≤ 32767)
    (size : (BodyKind.dataRow.format.write values).length ≤ 2147483647) :
    BodyKind.dataRow.format.Readable values [] := by
  refine ⟨few, readableAll_of_forall ?_ _⟩
  intro value member next bytes present
  cases present
  have fits := length_le_flatMap_writeSized member
  simp only [Format.write, List.length_append] at size
  exact Nat.le_trans (Nat.le_trans fits (Nat.le_add_left _ _)) size

theorem readable_errorFields {fields : List ErrorField}
    (sound : ∀ entry ∈ fields, entry.code ≠ 0 ∧ 0 ∉ entry.text) :
    BodyKind.errorResponse.format.Readable (fields.map ErrorField.toFields, 0, ()) [] := by
  refine ⟨⟨readableAll_of_forall ?_ _, ?_, rfl⟩, trivial, trivial⟩
  · intro value member next
    obtain ⟨entry, listed, rfl⟩ := List.mem_map.mp member
    exact ⟨trivial, (sound entry listed).2, trivial⟩
  · intro value member
    obtain ⟨entry, listed, rfl⟩ := List.mem_map.mp member
    exact (sound entry listed).1

/-! ### Whole messages -/

theorem readBody_append {kind : BodyKind} {value : kind.format.Value}
    (readable : kind.format.Readable value []) (header : Bytes) (tag : UInt8) :
    readBody kind.format tag ((header ++ kind.format.write value).drop header.length) =
      .ok value := by
  rw [List.drop_left, readBody_write readable]

/-- A message within the limits has a body that can be read back. -/
theorem exists_hasBody {message : Message} (limits : message.KeepsLimits)
    (size : message.write.length ≤ 2147483647) :
    ∃ kind tag value, message.HasBody kind tag value := by
  cases message with
  | query text =>
      have readable : BodyKind.query.format.Readable text [] := limits
      refine ⟨.query, _, text, rfl, rfl, rfl, readable, fun header => ?_⟩
      simp only [ofFrame, readBody_append readable header]
      rfl
  | parse name text types =>
      obtain ⟨zerolessName, zerolessText, few⟩ := limits
      have readable : BodyKind.parse.format.Readable (name, text, types, ()) [] :=
        ⟨zerolessName, zerolessText, ⟨few, readableAll_of_forall (fun _ _ _ => trivial) _⟩, trivial⟩
      refine ⟨.parse, _, _, rfl, rfl, rfl, readable, fun header => ?_⟩
      simp only [ofFrame, readBody_append readable header]
      rfl
  | rowDescription columns =>
      have readable := readable_columns limits.1 limits.2
      refine ⟨.rowDescription, _, _, rfl, rfl, rfl, readable, fun header => ?_⟩
      simp only [ofFrame, readBody_append readable header]
      simp [Except.map, Function.comp_def]
  | dataRow values =>
      rw [write, length_frame] at size
      have readable := readable_row limits (Nat.lt_of_le_of_lt (Nat.le_add_right _ 5) size)
      refine ⟨.dataRow, _, _, rfl, rfl, rfl, readable, fun header => ?_⟩
      simp only [ofFrame, readBody_append readable header]
      rfl
  | commandComplete tag =>
      have readable : BodyKind.commandComplete.format.Readable tag [] := limits
      refine ⟨.commandComplete, _, tag, rfl, rfl, rfl, readable, fun header => ?_⟩
      simp only [ofFrame, readBody_append readable header]
      rfl
  | emptyQueryResponse =>
      have readable : BodyKind.emptyQueryResponse.format.Readable () [] := trivial
      refine ⟨.emptyQueryResponse, _, (), rfl, rfl, rfl, readable, fun header => ?_⟩
      simp only [ofFrame, readBody_append readable header]
      rfl
  | errorResponse fields terminator =>
      obtain ⟨sound, rfl⟩ := limits
      have readable := readable_errorFields sound
      refine ⟨.errorResponse, _, _, rfl, rfl, rfl, readable, fun header => ?_⟩
      simp only [ofFrame, readBody_append readable header]
      simp [Except.map, Function.comp_def]
  | readyForQuery status =>
      have readable : BodyKind.readyForQuery.format.Readable status [] := trivial
      refine ⟨.readyForQuery, _, status, rfl, rfl, rfl, readable, fun header => ?_⟩
      simp only [ofFrame, readBody_append readable header]
      rfl
  | raw tag bytes =>
      exact limits.elim

/--
A message within the limits of the protocol is written, behind whatever has been written
before, as its tag, a length of its body and of four bytes more, and a body.  The body is
found whole, with nothing left, and decoded to the message.
-/
theorem written_messages_are_read_back (message : Message) (limits : message.KeepsLimits)
    (size : message.write.length ≤ 2147483647) :
    ∃ tag length body,
      message.tag = some tag ∧ message.write = tag :: length ++ body ∧ length.length = 4 ∧
        (ofInt32Bytes length).toInt = body.length + 4 ∧
        (∀ existing later,
          message.kind.format.validate (existing ++ message.write ++ later)
              ⟨existing.length + 5, body.length⟩ =
            (.complete, ⟨existing.length + 5 + body.length, 0⟩)) ∧
        ofFrame message.kind (some tag) message.write 5 = .ok message := by
  obtain ⟨kind, tag, value, kind_eq, tag_eq, write_eq, readable, decoded⟩ :=
    exists_hasBody limits size
  let body := kind.format.write value
  let header := tag :: bigEndian 4 (body.length + 4)
  have width : header.length = 5 := by
    rw [List.length_cons, bigEndian_length]
  have split : message.write = header ++ body := write_eq
  have small : body.length + 4 ≤ 2147483647 := by
    rw [split, List.length_append] at size
    omega
  refine ⟨tag, bigEndian 4 (body.length + 4), body, tag_eq, split, bigEndian_length _ _,
    toInt_bigEndian_four small, ?_, ?_⟩
  · intro existing later
    have found := Format.validate_write kind.productive_format readable (existing ++ header) later
    rw [kind_eq, split, ← List.append_assoc]
    rw [List.length_append, width] at found
    exact found
  · have read := decoded header
    rw [width] at read
    rw [kind_eq, split]
    exact read

/-- An error with a text of two letters is written as one frame, which holds that error. -/
theorem error_is_read_back :
    ∃ tag length body,
      (errorResponse [⟨77, [110, 111]⟩] 0).write = tag :: length ++ body ∧
        (ofInt32Bytes length).toInt = body.length + 4 ∧
        ofFrame .errorResponse (some tag) (errorResponse [⟨77, [110, 111]⟩] 0).write 5 =
          .ok (errorResponse [⟨77, [110, 111]⟩] 0) := by
  obtain ⟨tag, length, body, -, split, -, declared, -, read⟩ :=
    written_messages_are_read_back (errorResponse [⟨77, [110, 111]⟩] 0)
      ⟨by decide, rfl⟩ (by decide)
  exact ⟨tag, length, body, split, declared, read⟩

end Message

end Wire

end ColumnVeil
