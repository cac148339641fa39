import Mathlib.Data.PFun
import ColumnVeil.Proofs.Wire.Reading

/-!
# Guarded readers

The readers of a format use operations that give something everywhere: a slice beyond the end
of the buffer is empty, a difference below zero is zero, and a repetition stops when its fuel
is spent.  Their guarded counterparts have no result instead.  A slice has to lie in the
buffer, a message has to declare what is passed over, and the rounds of a repetition have no
bound, so that a repetition that never ends has no result either.

Where a bound is tested before the buffer is touched, a guarded reader tests it as the plain
one does.  The guards are left to the places where nothing is tested.
-/

namespace ColumnVeil.Wire

variable {α β : Type}

/-- The bytes between two positions of a buffer, which has to have them all. -/
def slice? (data : Bytes) (start stop : Nat) : Option Bytes :=
  if start ≤ stop ∧ stop ≤ data.length then some ((data.drop start).take (stop - start))
  else none

/-- The cursor after `width` more bytes, which its message has to declare. -/
def Cursor.advance? (cursor : Cursor) (width : Nat) : Option Cursor :=
  if width ≤ cursor.left then some (cursor.advance width) else none

/-- A round as a partial function. -/
def partially {σ ρ : Type} (round : σ → Option ρ) : σ →. ρ :=
  fun state => Part.ofOption (round state)

open Classical in
/--
Rounds until one of them comes to a result.  Their number is not bounded: there is no result
if a round has none, and none if every round goes on.
-/
noncomputable def loop? {σ ρ : Type} (round : σ → Option (ρ ⊕ σ)) (state : σ) : Option ρ :=
  ((partially round).fix state).toOption

theorem slice?_of_le {data : Bytes} {start width : Nat} (inside : start + width ≤ data.length) :
    slice? data start (start + width) = some ((data.drop start).take width) := by
  rw [slice?, if_pos ⟨Nat.le_add_right _ _, inside⟩, Nat.add_sub_cancel_left]

theorem slice?_of_lt {data : Bytes} {start stop : Nat} (outside : data.length < stop) :
    slice? data start stop = none := by
  rw [slice?, if_neg (fun bounds => Nat.not_lt.mpr bounds.2 outside)]

/-- The first bytes of a string that has as many. -/
theorem slice?_zero {bytes : Bytes} {width : Nat} (enough : width ≤ bytes.length) :
    slice? bytes 0 width = some (bytes.take width) := by
  rw [slice?, if_pos ⟨Nat.zero_le _, enough⟩, List.drop_zero, Nat.sub_zero]

theorem Cursor.advance?_of_le {cursor : Cursor} {width : Nat} (declared : width ≤ cursor.left) :
    cursor.advance? width = some (cursor.advance width) := if_pos declared

theorem mem_partially_iff {σ ρ : Type} {round : σ → Option ρ} {state : σ} {verdict : ρ} :
    verdict ∈ partially round state ↔ round state = some verdict :=
  Part.mem_ofOption

open Classical in
theorem loop?_of_inl {σ ρ : Type} {round : σ → Option (ρ ⊕ σ)} {state : σ} {result : ρ}
    (ends : round state = some (.inl result)) : loop? round state = some result :=
  Part.toOption_eq_some_iff.mpr (PFun.fix_stop (mem_partially_iff.mpr ends))

theorem loop?_of_inr {σ ρ : Type} {round : σ → Option (ρ ⊕ σ)} {state next : σ}
    (goesOn : round state = some (.inr next)) : loop? round state = loop? round next := by
  rw [loop?, PFun.fix_fwd_eq (mem_partially_iff.mpr goesOn), loop?]

namespace Format

/-! ## Looking at a value -/

/-- Go on from where something whole ends. -/
def proceed? (result : Option (Outcome × Cursor)) (next : Cursor → Option (Outcome × Cursor)) :
    Option (Outcome × Cursor) := do
  match ← result with
  | (.complete, cursor) => next cursor
  | stopped => some stopped

/-- Look at a field of a fixed width. -/
def validateFixed? (data : Bytes) (width : Nat) (cursor : Cursor) : Option (Outcome × Cursor) :=
  if cursor.left < width then some (.failed, cursor)
  else if available data cursor.pos < width then some (.incomplete, cursor)
  else return (.complete, ← cursor.advance? width)

/-- Look at a string: a zero byte must lie in what has arrived of the message. -/
def validateString? (data : Bytes) (cursor : Cursor) : Option (Outcome × Cursor) := do
  let arrived := available data cursor.pos
  let window ← slice? data cursor.pos (cursor.pos + min arrived cursor.left)
  match window.findIdx? (· == 0) with
  | some index => return (.complete, ← cursor.advance? (index + 1))
  | none => if cursor.left ≤ arrived then some (.failed, cursor) else some (.incomplete, cursor)

/-- Look at a length and as many bytes. -/
def validateSized? (data : Bytes) (cursor : Cursor) : Option (Outcome × Cursor) :=
  if cursor.left < 4 then some (.failed, cursor)
  else if available data cursor.pos < 4 then some (.incomplete, cursor)
  else do
    let length := (ofInt32Bytes (← slice? data cursor.pos (cursor.pos + 4))).toInt
    if length < 0 then return (.complete, ← cursor.advance? 4)
    else
      let rest ← cursor.advance? 4
      if rest.left < length.toNat then some (.failed, cursor)
      else if available data cursor.pos < length.toNat + 4 then some (.incomplete, cursor)
      else return (.complete, ← cursor.advance? (length.toNat + 4))

/-- Look at a number of items, stopping at the first that is not whole. -/
def validateTimes? (item : Cursor → Option (Outcome × Cursor)) :
    Nat → Cursor → Option (Outcome × Cursor)
  | 0, cursor => some (.complete, cursor)
  | count + 1, cursor => proceed? (item cursor) (validateTimes? item count)

/-- Look at as many items as a count says. -/
def validateCounted? (item : Cursor → Option (Outcome × Cursor)) (count : Option Nat)
    (cursor : Cursor) : Option (Outcome × Cursor) :=
  match count with
  | none => some (.failed, cursor)
  | some count => validateTimes? item count cursor

/-- One round of looking at items up to a zero byte or the end. -/
def validateRound? (data : Bytes) (item : Cursor → Option (Outcome × Cursor)) (cursor : Cursor) :
    Option ((Outcome × Cursor) ⊕ Cursor) :=
  if cursor.left = 0 then some (.inl (.complete, cursor))
  else match data[cursor.pos]? with
    | none => some (.inl (.incomplete, cursor))
    | some head =>
        if head = 0 then some (.inl (.complete, cursor))
        else do
          match ← item cursor with
          | (.complete, next) =>
              if next.pos = cursor.pos then some (.inl (.failed, next)) else some (.inr next)
          | stopped => some (.inl stopped)

/-! ## Reading a value -/

/-- Read on from where something has been read. -/
def readOn? (result : Option (Except CodecError α × Cursor))
    (next : α → Cursor → Option (Except CodecError β × Cursor)) :
    Option (Except CodecError β × Cursor) := do
  match ← result with
  | (.error error, cursor) => some (.error error, cursor)
  | (.ok value, cursor) => next value cursor

/-- The next bytes of a message; a buffer that ends before them is told from one that does not. -/
def take? (data : Bytes) (width : Nat) (cursor : Cursor) :
    Option (Except CodecError Bytes × Cursor) :=
  if cursor.left < width then some (.error (.fieldExceeds width cursor.left), cursor)
  else match slice? data cursor.pos (cursor.pos + width) with
    | none => some (.error .bufferUnderrun, cursor)
    | some bytes => return (.ok bytes, ← cursor.advance? width)

/-- Read a number of a fixed width; the conversion needs all of its bytes. -/
def readFixed? (convert : Bytes → α) (data : Bytes) (width : Nat) (cursor : Cursor) :
    Option (Except CodecError α × Cursor) :=
  readOn? (take? data width cursor) fun bytes next => do
    return (.ok (convert (← slice? bytes 0 width)), next)

/-- Read a string and its final zero byte. -/
def readString? (data : Bytes) (cursor : Cursor) : Option (Except CodecError Bytes × Cursor) :=
  match slice? data cursor.pos (cursor.pos + cursor.left) with
  | none => some (.error .bufferUnderrun, cursor)
  | some window =>
      match window.findIdx? (· == 0) with
      | none => some (.error .missingTerminator, cursor)
      | some index =>
          readOn? (take? data (index + 1) cursor) fun bytes next => do
            return (.ok (← slice? bytes 0 index), next)

/-- Read a length and as many bytes. -/
def readSized? (data : Bytes) (cursor : Cursor) :
    Option (Except CodecError (Option Bytes) × Cursor) :=
  readOn? (readFixed? (fun bytes => (ofInt32Bytes bytes).toInt) data 4 cursor) fun length next =>
    if length < 0 then some (.ok none, next)
    else (take? data length.toNat next).map (mapRead some)

/-- Read a number of items in a row. -/
def readTimes? (item : Cursor → Option (Except CodecError α × Cursor)) :
    Nat → Cursor → Option (Except CodecError (List α) × Cursor)
  | 0, cursor => some (.ok [], cursor)
  | count + 1, cursor =>
      readOn? (item cursor) fun value next =>
        (readTimes? item count next).map (mapRead (List.cons value))

/-- Read as many items as a count says. -/
def readCounted? (item : Cursor → Option (Except CodecError α × Cursor)) (count : Option Nat)
    (cursor : Cursor) : Option (Except CodecError (List α) × Cursor) :=
  match count with
  | none => some (.error .negativeLength, cursor)
  | some count => readTimes? item count cursor

/-- One round of reading items up to a zero byte or the end. -/
def readRound? (data : Bytes) (item : Cursor → Option (Except CodecError α × Cursor)) :
    List α × Cursor → Option ((Except CodecError (List α) × Cursor) ⊕ (List α × Cursor))
  | (values, cursor) =>
      if cursor.left = 0 then some (.inl (.ok values, cursor))
      else match data[cursor.pos]? with
        | none => some (.inl (.error .bufferUnderrun, cursor))
        | some head =>
            if head = 0 then some (.inl (.ok values, cursor))
            else do
              match ← item cursor with
              | (.error error, next) => some (.inl (.error error, next))
              | (.ok value, next) => some (.inr (values ++ [value], next))

/-- Take a value of the format out of a buffer. -/
noncomputable def read? : (format : Format) → (data : Bytes) → Cursor →
    Option (Except CodecError format.Value × Cursor)
  | unit, _, cursor => some (.ok (), cursor)
  | byte, data, cursor => readFixed? (fun bytes => bytes.headD 0) data 1 cursor
  | int16, data, cursor => readFixed? ofInt16Bytes data 2 cursor
  | int32, data, cursor => readFixed? ofInt32Bytes data 4 cursor
  | cstring, data, cursor => readString? data cursor
  | remainder, data, cursor => take? data cursor.left cursor
  | sized, data, cursor => readSized? data cursor
  | array width item, data, cursor =>
      readOn? (readFixed? width.count? data width.bytes cursor) (readCounted? (item.read? data))
  | repeated item, data, cursor => loop? (readRound? data (item.read? data)) ([], cursor)
  | field first rest, data, cursor =>
      readOn? (first.read? data cursor) fun value next =>
        (rest.read? data next).map (mapRead (Prod.mk value))

/--
The count in front of an array that has been looked at.  It is read where the array begins, as
if the message declared as many bytes as a machine word can count.
-/
def countAt? (width : CountWidth) (data : Bytes) (pos : Nat) : Option (Option Nat) :=
  (readFixed? width.count? data width.bytes ⟨pos, UInt64.size - 1⟩).map fun result =>
    result.1.toOption.join

/-- Say whether a whole value of the format starts at the cursor. -/
noncomputable def validate? : (format : Format) → (data : Bytes) → Cursor → Option (Outcome × Cursor)
  | unit, _, cursor => some (.complete, cursor)
  | byte, data, cursor => validateFixed? data 1 cursor
  | int16, data, cursor => validateFixed? data 2 cursor
  | int32, data, cursor => validateFixed? data 4 cursor
  | cstring, data, cursor => validateString? data cursor
  | remainder, data, cursor =>
      if available data cursor.pos < cursor.left then some (.incomplete, cursor)
      else return (.complete, ← cursor.advance? cursor.left)
  | sized, data, cursor => validateSized? data cursor
  | array width item, data, cursor =>
      proceed? (validateFixed? data width.bytes cursor) fun next => do
        validateCounted? (item.validate? data) (← countAt? width data cursor.pos) next
  | repeated item, data, cursor => loop? (validateRound? data (item.validate? data)) cursor
  | field first rest, data, cursor =>
      proceed? (first.validate? data cursor) (rest.validate? data)

end Format

end ColumnVeil.Wire
