import ColumnVeil.Proofs.Wire.Reading
import ColumnVeil.Relay.Framing

/-!
# Frames

A message is cut out of a stream once its body has been found whole, and is then decoded
from its own frame.  Looking sees the whole buffer, with the header in front and perhaps
the next messages behind; decoding sees the body alone.  The main statement says that
decoding cannot fail there, so that no message goes past the handler undecoded.
-/

namespace ColumnVeil

open Wire

namespace Wire

namespace Format

/-- A value that ends with its message lies in the buffer as a whole. -/
theorem length_le_of_complete {look : Bytes → Cursor → Outcome × Cursor} (lawful : Lawful look)
    {data : Bytes} {cursor next : Cursor} (begun : cursor.pos ≤ data.length)
    (complete : look data cursor = (.complete, next)) (ended : next.left = 0) :
    cursor.pos + cursor.left ≤ data.length := by
  have reached := lawful.reaches data cursor
  rw [complete] at reached
  have conserved := reached.conserved
  have inside := reached.inside begun
  simp only at conserved inside
  omega

/-- A whole message is never left undecided. -/
theorem ne_incomplete_of_whole {format : Format} (sound : format.productive = true)
    {data : Bytes} {cursor : Cursor} (whole : cursor.pos + cursor.left ≤ data.length) :
    (format.validate data cursor).1 ≠ .incomplete := by
  have confirms := agrees_of_productive sound data cursor whole
  generalize format.validate data cursor = verdict at confirms
  generalize format.read data cursor = result at confirms
  cases confirms with
  | complete next value =>
      exact Outcome.noConfusion
  | failed stop stopped error =>
      exact Outcome.noConfusion

/-- In a whole message a value is found exactly if it is read, and both end in one place. -/
theorem complete_iff_read {format : Format} (sound : format.productive = true)
    {data : Bytes} {cursor : Cursor} (whole : cursor.pos + cursor.left ≤ data.length)
    (next : Cursor) :
    format.validate data cursor = (.complete, next) ↔
      ∃ value, format.read data cursor = (.ok value, next) := by
  have confirms := agrees_of_productive sound data cursor whole
  generalize format.validate data cursor = verdict at confirms
  generalize format.read data cursor = result at confirms
  cases confirms with
  | complete stop value =>
      constructor
      · intro found
        cases found
        exact ⟨value, rfl⟩
      · rintro ⟨_, found⟩
        cases found
        rfl
  | failed stop stopped error =>
      constructor
      · intro found
        cases found
      · rintro ⟨_, found⟩
        cases found

/-- The bytes of a message behind a cursor. -/
def bodyAt (data : Bytes) (cursor : Cursor) : Bytes :=
  (data.drop cursor.pos).take cursor.left

theorem length_bodyAt {data : Bytes} {cursor : Cursor}
    (whole : cursor.pos + cursor.left ≤ data.length) :
    (bodyAt data cursor).length = cursor.left := by
  rw [bodyAt, List.length_take, List.length_drop]
  omega

/-- A value that ends with its message is found in the body alone. -/
theorem validate_bodyAt {format : Format} (sound : format.productive = true)
    {data : Bytes} {cursor next : Cursor} (begun : cursor.pos ≤ data.length)
    (complete : format.validate data cursor = (.complete, next)) (ended : next.left = 0) :
    format.validate (bodyAt data cursor) ⟨0, cursor.left⟩ = (.complete, ⟨cursor.left, 0⟩) := by
  have lawful := lawful_validate format
  have whole := length_le_of_complete lawful begun complete ended
  have width : (data.take cursor.pos).length = cursor.pos := List.length_take_of_le begun
  -- What follows the message does not matter: the message alone settles the verdict.
  have parts :
      data.take cursor.pos ++ bodyAt data cursor ++ data.drop (cursor.pos + cursor.left) = data := by
    rw [bodyAt, ← List.take_add, List.take_append_drop]
  have wholeAlone :
      cursor.pos + cursor.left ≤ (data.take cursor.pos ++ bodyAt data cursor).length := by
    exact Nat.le_of_eq (by rw [List.length_append, width, length_bodyAt whole])
  have settled := lawful.settled _ (data.drop (cursor.pos + cursor.left)) cursor
    (ne_incomplete_of_whole sound wholeAlone)
  rw [parts, complete] at settled
  -- Nor does what stands in front of it.
  have shifted := lawful.shifted (data.take cursor.pos) (bodyAt data cursor) ⟨0, cursor.left⟩
  have place : (⟨0, cursor.left⟩ : Cursor).shift (data.take cursor.pos).length = cursor := by
    rw [Cursor.shift, width, Nat.add_zero]
  rw [place, ← settled] at shifted
  have reached := lawful.reaches (bodyAt data cursor) ⟨0, cursor.left⟩
  rcases alone : format.validate (bodyAt data cursor) ⟨0, cursor.left⟩ with ⟨outcome, pos, left⟩
  rw [alone] at shifted reached
  have conserved := reached.conserved
  obtain ⟨rfl, rfl⟩ := Prod.mk.inj shifted
  have nothing : left = 0 := ended
  subst nothing
  simp only [Nat.add_zero, Nat.zero_add] at conserved
  rw [conserved]

end Format

namespace Message

/-- A body that is found whole, with nothing behind it, is read. -/
theorem readBody_of_complete {format : Format} (sound : format.productive = true) (tag : UInt8)
    {body : Bytes} {stop : Nat}
    (complete : format.validate body ⟨0, body.length⟩ = (.complete, ⟨stop, 0⟩)) :
    ∃ value, readBody format tag body = .ok value := by
  rcases (Format.complete_iff_read sound (Nat.le_of_eq (Nat.zero_add _)) _).mp complete
    with ⟨value, read⟩
  refine ⟨value, ?_⟩
  rw [readBody, read]
  exact if_neg (not_not_intro rfl)

theorem ofFrame_of_complete (kind : BodyKind) (tag : Option UInt8) {frame : Bytes}
    {headerLength stop : Nat}
    (complete : kind.format.validate (frame.drop headerLength)
      ⟨0, (frame.drop headerLength).length⟩ = (.complete, ⟨stop, 0⟩)) :
    ∃ message, ofFrame kind tag frame headerLength = .ok message := by
  have read (tag : UInt8) := readBody_of_complete kind.productive_format tag complete
  -- Eight kinds are read; the others keep their bytes, which cannot fail.
  cases kind with
  | query | parse | rowDescription | dataRow | commandComplete | emptyQueryResponse
  | errorResponse | readyForQuery =>
      rcases read _ with ⟨value, decoded⟩
      rw [ofFrame, decoded]
      exact ⟨_, rfl⟩
  | _ =>
      exact ⟨_, rfl⟩

end Message

end Wire

namespace Relay.Framing

/-! ## What a stream begins with -/

/-- What the bytes of a stream that have arrived begin with. -/
inductive Beginning
  /-- The start of something; more bytes are needed. -/
  | undecided
  /-- Something outside the protocol. -/
  | violation (violation : Violation)
  /-- A message that is there as a whole, with so many bytes. -/
  | message (length : Nat)

/-- What the bytes of a stream of messages begin with. -/
def beginning (limit : Nat) (side : Side) (data : Bytes) : Beginning :=
  if data.length < 5 then .undecided
  else
    let kind := MessageKind.ofTag side (data.headD 0)
    let length := ofBigEndian ((data.drop 1).take 4)
    if length < 4 then .violation (.messageTooSmall kind.name length)
    else if limit < length then .violation (.messageTooLarge kind.name length)
    else match kind.body.format.validate data ⟨5, length - 4⟩ with
      | (.incomplete, _) => .undecided
      | (.failed, _) => .violation (.messageMalformed kind.name)
      | (.complete, cursor) =>
        if cursor.left = 0 then .message (length + 1) else .violation (.messageMalformed kind.name)

variable {τ : Type}

/-- The framing acts on what its bytes begin with. -/
theorem onMessages_eq (limit : Nat) (handler : Handler τ) (framing : Framing) (state : τ)
    (side : Side) (data : Bytes) :
    framing.onMessages limit handler state side data =
      match beginning limit side data with
      | .undecided => framing.wait state data
      | .violation violation => framing.leave handler state side data violation
      | .message length =>
        framing.takeMessage handler state side (MessageKind.ofTag side (data.headD 0))
          (data.headD 0) (data.take length) (data.drop length) := by
  simp only [onMessages, beginning]
  split
  · rfl
  · split
    · rfl
    · split
      · rfl
      · generalize Format.validate _ data _ = looked
        rcases looked with ⟨outcome, cursor⟩
        cases outcome with
        | complete =>
            by_cases ended : cursor.left = 0
            · simp only [reduceCtorEq, if_false, ended, and_self, if_true]
            · simp only [reduceCtorEq, if_false, ended, and_false]
        | incomplete =>
            rfl
        | failed =>
            rfl

variable {limit : Nat} {side : Side} {data : Bytes}

/-- A frame whose body has been found whole in the stream is there, and is decoded. -/
theorem decoded_of_complete (kind : BodyKind) (tag : UInt8) {data : Bytes} {length : Nat}
    {next : Cursor} (header : 5 ≤ data.length) (declared : 4 ≤ length)
    (complete : kind.format.validate data ⟨5, length - 4⟩ = (.complete, next))
    (ended : next.left = 0) :
    length + 1 ≤ data.length ∧
      ∃ message, Message.ofFrame kind (some tag) (data.take (length + 1)) 5 = .ok message := by
  have whole := Format.length_le_of_complete (Format.lawful_validate _) header complete ended
  have alone := Format.validate_bodyAt kind.productive_format header complete ended
  have width := Format.length_bodyAt whole
  have body : (data.take (length + 1)).drop 5 = Format.bodyAt data ⟨5, length - 4⟩ := by
    rw [Format.bodyAt, List.drop_take]
    congr 1
  refine ⟨?_, ?_⟩
  · simp only at whole
    omega
  · rw [← width, ← body] at alone
    exact Message.ofFrame_of_complete kind (some tag) alone

/-- A message that is cut out of a stream has its header, takes the bytes that the header declares,
and has been found whole. -/
theorem whole_of_beginning {limit : Nat} {side : Side} {data : Bytes} {length : Nat}
    (found : beginning limit side data = .message length) :
    let declared := ofBigEndian ((data.drop 1).take 4)
    5 ≤ data.length ∧ 4 ≤ declared ∧ length = declared + 1 ∧
      ∃ next, (MessageKind.ofTag side (data.headD 0)).body.format.validate data
        ⟨5, declared - 4⟩ = (.complete, next) ∧ next.left = 0 := by
  simp only [beginning] at found
  split at found
  · cases found
  · rename_i header
    split at found
    · cases found
    · rename_i declared
      split at found
      · cases found
      · split at found
        · cases found
        · cases found
        · rename_i cursor complete
          split at found
          · rename_i ended
            cases found
            exact ⟨Nat.le_of_not_lt header, Nat.le_of_not_lt declared, rfl, cursor, complete, ended⟩
          · cases found

/-- A message that is cut out of a stream is in the buffer and is decoded. -/
theorem decoded_of_beginning {limit : Nat} {side : Side} {data : Bytes} {length : Nat}
    (found : beginning limit side data = .message length) :
    length ≤ data.length ∧
      ∃ message, Message.ofFrame (MessageKind.ofTag side (data.headD 0)).body
        (some (data.headD 0)) (data.take length) 5 = .ok message := by
  rcases whole_of_beginning found with ⟨header, declared, rfl, next, complete, ended⟩
  exact decoded_of_complete _ _ header declared complete ended

/-- A message that is cut out of a stream goes to the handler. -/
theorem onMessages_of_message {limit : Nat} (handler : Handler τ) (framing : Framing)
    (state : τ) {side : Side} {data : Bytes} {length : Nat}
    (found : beginning limit side data = .message length) :
    ∃ message,
      Message.ofFrame (MessageKind.ofTag side (data.headD 0)).body
        (some (data.headD 0)) (data.take length) 5 = .ok message ∧
      framing.onMessages limit handler state side data =
        { progress := .ready, framing, handler := (handler.onMessage side message state).1,
          rest := data.drop length, output := (handler.onMessage side message state).2 } := by
  rcases (decoded_of_beginning found).2 with ⟨message, decoded⟩
  refine ⟨message, decoded, ?_⟩
  rw [onMessages_eq, found]
  simp only [takeMessage, decoded]

/--
No message goes past the handler.  A body that is found whole in its stream, with nothing
left of the declared length, is decoded from its frame alone; in a whole message a value of
any layout is found exactly if it is read, looking and reading end in one place, and the
verdict is never left open; so the framing waits, leaves the protocol, or hands the handler
the message that its frame decodes to.
-/
theorem whole_messages_reach_the_handler :
    (∀ (side : Side) (tag : UInt8) (data : Bytes) (length : Nat) (next : Cursor),
      5 ≤ data.length → 4 ≤ length →
      (MessageKind.ofTag side tag).body.format.validate data ⟨5, length - 4⟩ = (.complete, next) →
      next.left = 0 →
      length + 1 ≤ data.length ∧
      ∃ message, Message.ofFrame (MessageKind.ofTag side tag).body (some tag)
        (data.take (length + 1)) 5 = .ok message) ∧
    (∀ (kind : BodyKind) (data : Bytes) (cursor : Cursor),
      cursor.pos + cursor.left ≤ data.length →
      (kind.format.validate data cursor).1 ≠ .incomplete ∧
      ∀ next, kind.format.validate data cursor = (.complete, next) ↔
        ∃ value, kind.format.read data cursor = (.ok value, next)) ∧
    (∀ (τ : Type) (limit : Nat) (handler : Handler τ) (framing : Framing) (state : τ)
      (side : Side) (data : Bytes),
      framing.onMessages limit handler state side data = framing.wait state data ∨
      (∃ violation, framing.onMessages limit handler state side data =
        framing.leave handler state side data violation) ∨
      ∃ length message,
        Message.ofFrame (MessageKind.ofTag side (data.headD 0)).body
          (some (data.headD 0)) (data.take length) 5 = .ok message ∧
        framing.onMessages limit handler state side data =
          { progress := .ready, framing, handler := (handler.onMessage side message state).1,
            rest := data.drop length, output := (handler.onMessage side message state).2 }) := by
  refine ⟨?_, ?_, ?_⟩
  · intro side tag data length next header declared complete ended
    exact decoded_of_complete _ tag header declared complete ended
  · intro kind data cursor whole
    exact ⟨Format.ne_incomplete_of_whole kind.productive_format whole,
      Format.complete_iff_read kind.productive_format whole⟩
  · intro τ limit handler framing state side data
    cases found : beginning limit side data with
    | undecided =>
        left
        rw [onMessages_eq, found]
    | violation violation =>
        right
        left
        rw [onMessages_eq, found]
        exact ⟨violation, rfl⟩
    | message length =>
        right
        right
        exact ⟨length, onMessages_of_message handler framing state found⟩

/-- A row of one value is decoded from its frame, whatever follows it in the buffer. -/
theorem oneValueRow_is_decoded :
    let data : Bytes := [ascii 'D', 0, 0, 0, 12, 0, 1, 0, 0, 0, 2, 52, 50, ascii 'Z', 0, 0]
    (BodyKind.dataRow.format.validate data ⟨5, 8⟩ = (.complete, ⟨13, 0⟩)) ∧
      (∃ message, Message.ofFrame BodyKind.dataRow (some (ascii 'D')) (data.take 13) 5
        = .ok message) ∧
      ∃ value, BodyKind.dataRow.format.read (data.take 13) ⟨5, 8⟩ = (.ok value, ⟨13, 0⟩) := by
  intro data
  have found : BodyKind.dataRow.format.validate data ⟨5, 8⟩ = (.complete, ⟨13, 0⟩) := by
    decide +kernel
  have alone : BodyKind.dataRow.format.validate (data.take 13) ⟨5, 8⟩ = (.complete, ⟨13, 0⟩) := by
    decide +kernel
  refine ⟨found, ?_, ?_⟩
  · exact (whole_messages_reach_the_handler.1 .backend (ascii 'D') data 12 ⟨13, 0⟩ (by decide)
      (by decide) found rfl).2
  · exact ((whole_messages_reach_the_handler.2.1 .dataRow (data.take 13) ⟨5, 8⟩ (by decide)).2
      ⟨13, 0⟩).mp alone

end Relay.Framing

end ColumnVeil
