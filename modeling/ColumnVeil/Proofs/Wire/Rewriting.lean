import ColumnVeil.Proofs.Wire.Writing

/-!
# Writing what has been read

A value is written as the bytes that it was read from, whatever they are.  There is one
exception: a negative length stands for no value, and of all negative lengths only -1 is
written.  `lengths` lists the lengths that a reader comes upon, and `Marked` says that the
exception does not occur among them.

The main statement carries this to messages: a frame that is decoded is what its message is
written as.
-/

namespace ColumnVeil

theorem exists_of_map_eq_ok {ε α β : Type} {build : α → β} {read : Except ε α} {value : β}
    (mapped : read.map build = .ok value) : ∃ parts, read = .ok parts ∧ build parts = value := by
  cases read with
  | error failure =>
      cases mapped
  | ok parts =>
      cases mapped
      exact ⟨parts, rfl, rfl⟩

/-! ## Numbers -/

/-- Digits in front of a number count its places. -/
theorem foldl_ofBigEndian (bytes : Bytes) (start : Nat) :
    bytes.foldl (fun value byte => 256 * value + byte.toNat) start =
      start * Nat.pow 256 bytes.length + ofBigEndian bytes := by
  induction bytes generalizing start with
  | nil =>
      simp [ofBigEndian]
  | cons byte bytes inductionHypothesis =>
      have shifted : Nat.pow 256 (byte :: bytes).length = Nat.pow 256 bytes.length * 256 := rfl
      have behind : ofBigEndian (byte :: bytes) =
          byte.toNat * Nat.pow 256 bytes.length + ofBigEndian bytes := by
        rw [ofBigEndian, List.foldl_cons, inductionHypothesis, Nat.mul_zero, Nat.zero_add]
      rw [List.foldl_cons, inductionHypothesis, behind, shifted]
      grind

theorem ofBigEndian_cons (byte : UInt8) (bytes : Bytes) :
    ofBigEndian (byte :: bytes) = byte.toNat * Nat.pow 256 bytes.length + ofBigEndian bytes := by
  rw [ofBigEndian, List.foldl_cons, foldl_ofBigEndian, Nat.mul_zero, Nat.zero_add]

theorem ofBigEndian_lt (bytes : Bytes) : ofBigEndian bytes < Nat.pow 256 bytes.length := by
  induction bytes with
  | nil =>
      exact Nat.one_pos
  | cons byte bytes inductionHypothesis =>
      have digit := byte.toNat_lt
      have shifted : Nat.pow 256 (byte :: bytes).length = 256 * Nat.pow 256 bytes.length :=
        Nat.mul_comm _ _
      have fits : (byte.toNat + 1) * Nat.pow 256 bytes.length ≤ 256 * Nat.pow 256 bytes.length :=
        Nat.mul_le_mul_right _ digit
      rw [Nat.add_mul] at fits
      rw [ofBigEndian_cons, shifted]
      omega

/-- Different bytes of the same width stand for different numbers. -/
theorem ofBigEndian_injective {first second : Bytes} (width : first.length = second.length)
    (same : ofBigEndian first = ofBigEndian second) : first = second := by
  induction first generalizing second with
  | nil =>
      exact (List.eq_nil_of_length_eq_zero width.symm).symm
  | cons byte first inductionHypothesis =>
      cases second with
      | nil =>
          cases width
      | cons other second =>
          have width : first.length = second.length := Nat.succ.inj width
          have small := ofBigEndian_lt first
          have smallOther := ofBigEndian_lt second
          rw [ofBigEndian_cons, ofBigEndian_cons, ← width] at same
          rw [← width] at smallOther
          have positive : 0 < Nat.pow 256 first.length := Nat.pow_pos (by decide)
          have quotient (digit rest : Nat) (small : rest < Nat.pow 256 first.length) :
              (digit * Nat.pow 256 first.length + rest) / Nat.pow 256 first.length = digit := by
            rw [Nat.mul_comm, Nat.mul_add_div positive, Nat.div_eq_of_lt small, Nat.add_zero]
          have heads : byte.toNat = other.toNat := by
            rw [← quotient byte.toNat _ small, same, quotient _ _ smallOther]
          rw [heads] at same
          rw [UInt8.toNat_inj.mp heads, inductionHypothesis width (Nat.add_left_cancel same)]

/-- The number that bytes stand for has them as its digits. -/
theorem bigEndian_ofBigEndian (bytes : Bytes) :
    bigEndian bytes.length (ofBigEndian bytes) = bytes := by
  refine ofBigEndian_injective (bigEndian_length _ _) ?_
  rw [ofBigEndian_bigEndian, Nat.mod_eq_of_lt (ofBigEndian_lt bytes)]

section Fields

variable {bytes : Bytes}

theorem int16Bytes_ofInt16Bytes (width : bytes.length = 2) :
    int16Bytes (ofInt16Bytes bytes) = bytes := by
  have bound := ofBigEndian_lt bytes
  rw [width] at bound
  rw [int16Bytes, ofInt16Bytes, UInt16.toUInt16_toInt16, UInt16.toNat_ofNat_of_lt' bound, ← width,
    bigEndian_ofBigEndian]

theorem int32Bytes_ofInt32Bytes (width : bytes.length = 4) :
    int32Bytes (ofInt32Bytes bytes) = bytes := by
  have bound := ofBigEndian_lt bytes
  rw [width] at bound
  rw [int32Bytes, ofInt32Bytes, UInt32.toUInt32_toInt32, UInt32.toNat_ofNat_of_lt' bound, ← width,
    bigEndian_ofBigEndian]

/-- Two bytes and the number that they stand for agree in the last 16 binary digits. -/
theorem ofBigEndian_eq_toInt_two (width : bytes.length = 2) :
    (ofBigEndian bytes : Int) = (ofInt16Bytes bytes).toInt % 65536 := by
  have bound := ofBigEndian_lt bytes
  rw [width] at bound
  rw [ofInt16Bytes, UInt16.toInt16_ofNat', Int16.toInt_ofNat']
  have size : (65536 : Int) = (Int16.size : Nat) := rfl
  rw [size, Int.bmod_emod, Int.emod_eq_of_lt (Int.natCast_nonneg _)]
  exact Int.ofNat_lt.mpr bound

/-- Four bytes and the number that they stand for agree in the last 32 binary digits. -/
theorem ofBigEndian_eq_toInt_four (width : bytes.length = 4) :
    (ofBigEndian bytes : Int) = (ofInt32Bytes bytes).toInt % 4294967296 := by
  have bound := ofBigEndian_lt bytes
  rw [width] at bound
  rw [ofInt32Bytes, UInt32.toInt32_ofNat', Int32.toInt_ofNat']
  have size : (4294967296 : Int) = (Int32.size : Nat) := rfl
  rw [size, Int.bmod_emod, Int.emod_eq_of_lt (Int.natCast_nonneg _)]
  exact Int.ofNat_lt.mpr bound

end Fields

namespace Wire

/-- A count is written as the bytes that it was read from. -/
theorem CountWidth.encode_of_count? {width : CountWidth} {bytes : Bytes} {count : Nat}
    (whole : bytes.length = width.bytes) (counted : width.count? bytes = some count) :
    width.encode count = bytes := by
  have number : count = ofBigEndian bytes := by
    cases width with
    | two =>
        have digits := ofBigEndian_eq_toInt_two whole
        have bound := (ofInt16Bytes bytes).toInt_lt
        simp only [CountWidth.count?, Option.ite_none_left_eq_some, Option.some.injEq] at counted
        omega
    | four =>
        have digits := ofBigEndian_eq_toInt_four whole
        have bound := (ofInt32Bytes bytes).toInt_lt
        simp only [CountWidth.count?, Option.ite_none_left_eq_some, Option.some.injEq] at counted
        omega
  rw [CountWidth.encode, ← whole, number, bigEndian_ofBigEndian]

namespace Format

variable {α β : Type}

/-! ## Lengths -/

/-- The lengths that a reader of so many items comes upon. -/
def lengthsTimes (read : Cursor → Except CodecError α × Cursor) (lengths : Cursor → List Int) :
    Nat → Cursor → List Int
  | 0, _ => []
  | count + 1, cursor => lengths cursor ++ lengthsTimes read lengths count (read cursor).2

/-- The lengths that a reader of items up to a zero byte or the end comes upon. -/
def lengthsWhile (data : Bytes) (read : Cursor → Except CodecError α × Cursor)
    (lengths : Cursor → List Int) : (fuel : Nat) → Cursor → List Int
  | 0, _ => []
  | fuel + 1, cursor =>
    if cursor.left = 0 ∨ data[cursor.pos]?.getD 0 = 0 then []
    else lengths cursor ++ lengthsWhile data read lengths fuel (read cursor).2

/-- The lengths of values that a reader comes upon, negative ones included. -/
def lengths : (format : Format) → Bytes → Cursor → List Int
  | sized, data, cursor =>
    match take data 4 cursor with
    | (.ok bytes, _) => [(ofInt32Bytes bytes).toInt]
    | (.error _, _) => []
  | array width item, data, cursor =>
    match take data width.bytes cursor with
    | (.ok bytes, next) =>
      lengthsTimes (item.read data) (item.lengths data) ((width.count? bytes).getD 0) next
    | (.error _, _) => []
  | repeated item, data, cursor =>
    lengthsWhile data (item.read data) (item.lengths data) (cursor.left + 1) cursor
  | field first rest, data, cursor =>
    first.lengths data cursor ++ rest.lengths data (first.read data cursor).2
  | _, _, _ => []

/-- No length stands for no value but the one that is written for it. -/
def Marked (lengths : List Int) : Prop :=
  ∀ length ∈ lengths, length < 0 → length = -1

instance (lengths : List Int) : Decidable (Marked lengths) :=
  inferInstanceAs (Decidable (∀ length ∈ lengths, length < 0 → length = -1))

theorem marked_append {first second : List Int} :
    Marked (first ++ second) ↔ Marked first ∧ Marked second := by
  simp only [Marked, List.mem_append, or_imp, forall_and]

/-- What is read is written as the bytes between the places where reading began and ended. -/
def Rewrites (data : Bytes) (read : Cursor → Except CodecError α × Cursor)
    (lengths : Cursor → List Int) (write : α → Bytes) : Prop :=
  ∀ cursor value next, read cursor = (.ok value, next) → Marked (lengths cursor) →
    data.drop cursor.pos = write value ++ data.drop next.pos

/-! ## Single fields -/

theorem rewrites_string (data : Bytes) (lengths : Cursor → List Int) :
    Rewrites data (readString data) lengths (· ++ [0]) := by
  intro cursor text next found _
  simp only [readString] at found
  split at found
  · cases found
  · split at found
    · cases found
    · rename_i index zero
      cases found
      rcases List.findIdx?_eq_some_iff_getElem.mp zero with ⟨inside, isZero, _⟩
      let window := (data.drop cursor.pos).take cursor.left
      have ended : window.take (index + 1) = window.take index ++ [0] := by
        rw [← List.take_append_getElem inside, eq_of_beq isZero]
      have within : index + 1 ≤ cursor.left := by
        rw [List.length_take] at inside
        omega
      have first : window.take (index + 1) = (data.drop cursor.pos).take (index + 1) := by
        rw [List.take_take, Nat.min_eq_left within]
      have behind :
          data.drop (cursor.pos + (index + 1)) = (data.drop cursor.pos).drop (index + 1) :=
        (List.drop_drop ..).symm
      change data.drop cursor.pos = window.take index ++ [0] ++ data.drop (cursor.pos + (index + 1))
      rw [behind, ← ended, first, List.take_append_drop]

theorem rewrites_sized (data : Bytes) :
    Rewrites data (sized.read data) (sized.lengths data) sized.write := by
  intro cursor value next found marked
  simp only [read, readSized] at found
  simp only [lengths] at marked
  split at found
  · cases found
  · rename_i bytes middle counted
    rcases eq_ok_of_take counted with ⟨width, split⟩
    have digits := ofBigEndian_eq_toInt_four width
    have number := bigEndian_ofBigEndian bytes
    rw [width] at number
    rw [counted] at marked
    have isMarked : (ofInt32Bytes bytes).toInt < 0 → (ofInt32Bytes bytes).toInt = -1 := by
      exact marked _ List.mem_cons_self
    split at found
    · rename_i negative
      cases found
      have allOnes : ofBigEndian bytes = 0xFFFFFFFF := by
        have minusOne := isMarked negative
        omega
      rw [allOnes] at number
      rw [split, write, writeSized, number]
    · rename_i positive
      have small := (ofInt32Bytes bytes).toInt_lt
      split at found
      · cases found
      · rename_i text last taken
        cases found
        rcases eq_ok_of_take taken with ⟨widthText, splitText⟩
        have announced : text.length = ofBigEndian bytes := by omega
        rw [split, splitText, write, writeSized, announced, number, List.append_assoc]

/-! ## Arrays and repetitions -/

section Lists

variable {data : Bytes} {read : Cursor → Except CodecError α × Cursor}
  {lengths : Cursor → List Int} {write : α → Bytes}

theorem length_of_readTimes {count : Nat} {cursor next : Cursor} {values : List α}
    (found : readTimes read count cursor = (.ok values, next)) : values.length = count := by
  induction count generalizing cursor values with
  | zero =>
      cases found
      rfl
  | succ count inductionHypothesis =>
      rw [readTimes_succ] at found
      rcases eq_ok_of_readOn found with ⟨value, middle, -, mapped⟩
      rcases eq_ok_of_mapRead mapped with ⟨rest, others, rfl⟩
      rw [List.length_cons, inductionHypothesis others]

theorem rewrites_times (rewrites : Rewrites data read lengths write) (count : Nat) :
    Rewrites data (readTimes read count) (lengthsTimes read lengths count)
      (List.flatMap write) := by
  induction count with
  | zero =>
      intro cursor values next found _
      cases found
      rfl
  | succ count inductionHypothesis =>
      intro cursor values next found marked
      rw [readTimes_succ] at found
      rcases eq_ok_of_readOn found with ⟨value, middle, first, mapped⟩
      rcases eq_ok_of_mapRead mapped with ⟨rest, others, rfl⟩
      rw [lengthsTimes, first, marked_append] at marked
      rw [rewrites cursor value middle first marked.1,
        inductionHypothesis middle rest next others marked.2, List.flatMap_cons,
        List.append_assoc]

theorem rewrites_while (rewrites : Rewrites data read lengths write) (fuel : Nat) :
    Rewrites data (readWhile data read fuel) (lengthsWhile data read lengths fuel)
      (List.flatMap write) := by
  induction fuel with
  | zero =>
      intro cursor values next found _
      cases found
      rfl
  | succ fuel inductionHypothesis =>
      intro cursor values next found marked
      rw [readWhile_succ] at found
      split at found
      · cases found
        rfl
      · rename_i left
        split at found
        · cases found
        · rename_i head begins
          split at found
          · cases found
            rfl
          · rename_i nonzero
            rcases eq_ok_of_readOn found with ⟨value, middle, first, mapped⟩
            rcases eq_ok_of_mapRead mapped with ⟨rest, others, rfl⟩
            have goesOn : ¬ (cursor.left = 0 ∨ data[cursor.pos]?.getD 0 = 0) := by
              rw [begins]
              exact not_or.mpr ⟨left, nonzero⟩
            rw [lengthsWhile, if_neg goesOn, first, marked_append] at marked
            rw [rewrites cursor value middle first marked.1,
              inductionHypothesis middle rest next others marked.2, List.flatMap_cons,
              List.append_assoc]

end Lists

/-! ## Every format -/

/-- Whatever the format, a value is written as the bytes that it was read from. -/
theorem rewrites_format (format : Format) (data : Bytes) :
    Rewrites data (format.read data) (format.lengths data) format.write := by
  induction format with
  | unit =>
      intro cursor value next found _
      cases found
      rfl
  | byte =>
      intro cursor value next found _
      rcases eq_ok_of_mapRead found with ⟨bytes, taken, rfl⟩
      rcases eq_ok_of_take taken with ⟨width, split⟩
      rcases List.length_eq_one_iff.mp width with ⟨byte, rfl⟩
      exact split
  | int16 =>
      intro cursor value next found _
      rcases eq_ok_of_mapRead found with ⟨bytes, taken, rfl⟩
      rcases eq_ok_of_take taken with ⟨width, split⟩
      rw [write, int16Bytes_ofInt16Bytes width]
      exact split
  | int32 =>
      intro cursor value next found _
      rcases eq_ok_of_mapRead found with ⟨bytes, taken, rfl⟩
      rcases eq_ok_of_take taken with ⟨width, split⟩
      rw [write, int32Bytes_ofInt32Bytes width]
      exact split
  | cstring =>
      exact rewrites_string data _
  | remainder =>
      intro cursor value next found _
      exact (eq_ok_of_take found).2
  | sized =>
      exact rewrites_sized data
  | array width item inductionHypothesis =>
      intro cursor values next found marked
      simp only [read] at found
      simp only [lengths] at marked
      split at found
      · cases found
      · rename_i bytes middle counted
        rcases eq_ok_of_take counted with ⟨whole, split⟩
        rw [counted] at marked
        split at found
        · cases found
        · rename_i count announced
          have items := rewrites_times inductionHypothesis count middle values next found
          simp only [announced, Option.getD_some] at marked
          rw [split, items marked, write, length_of_readTimes found,
            CountWidth.encode_of_count? whole announced, List.append_assoc]
  | repeated item inductionHypothesis =>
      intro cursor values next found marked
      exact rewrites_while inductionHypothesis (cursor.left + 1) cursor values next found marked
  | field first rest firstHypothesis restHypothesis =>
      intro cursor value next found marked
      rw [read_field] at found
      rcases eq_ok_of_readOn found with ⟨head, middle, firstRead, mapped⟩
      rcases eq_ok_of_mapRead mapped with ⟨others, restRead, rfl⟩
      rw [lengths, firstRead, marked_append] at marked
      rw [firstHypothesis cursor head middle firstRead marked.1,
        restHypothesis middle others next restRead marked.2, write, List.append_assoc]

/-- No value of the format has a length. -/
def sizeless : Format → Bool
  | sized => false
  | array _ item => item.sizeless
  | repeated item => item.sizeless
  | field first rest => first.sizeless && rest.sizeless
  | _ => true

theorem lengths_of_sizeless {format : Format} (without : format.sizeless = true) (data : Bytes)
    (cursor : Cursor) : format.lengths data cursor = [] := by
  induction format generalizing cursor with
  | unit | byte | int16 | int32 | cstring | remainder =>
      rfl
  | sized =>
      cases without
  | array width item inductionHypothesis =>
      have items (count : Nat) (cursor : Cursor) :
          lengthsTimes (item.read data) (item.lengths data) count cursor = [] := by
        induction count generalizing cursor with
        | zero =>
            rfl
        | succ count others =>
            rw [lengthsTimes, inductionHypothesis without, others, List.append_nil]
      rw [lengths]
      split
      · exact items _ _
      · rfl
  | repeated item inductionHypothesis =>
      have items (fuel : Nat) (cursor : Cursor) :
          lengthsWhile data (item.read data) (item.lengths data) fuel cursor = [] := by
        induction fuel generalizing cursor with
        | zero =>
            rfl
        | succ fuel others =>
            rw [lengthsWhile, inductionHypothesis without, others, List.append_nil, ite_self]
      exact items _ _
  | field first rest firstHypothesis restHypothesis =>
      rw [sizeless, Bool.and_eq_true] at without
      rw [lengths, firstHypothesis without.1, restHypothesis without.2, List.append_nil]

end Format

/-! ## Messages -/

theorem Column.toFields_ofFields (fields : columnFormat.Value) :
    (Column.ofFields fields).toFields = fields := rfl

theorem ErrorField.toFields_ofFields (fields : errorFieldFormat.Value) :
    (ErrorField.ofFields fields).toFields = fields := rfl

/-- The tag of the messages of a kind, if the relay interprets them. -/
def BodyKind.tag? : BodyKind → Option UInt8
  | .query => some (ascii 'Q')
  | .parse => some (ascii 'P')
  | .rowDescription => some (ascii 'T')
  | .dataRow => some (ascii 'D')
  | .commandComplete => some (ascii 'C')
  | .emptyQueryResponse => some (ascii 'I')
  | .errorResponse => some (ascii 'E')
  | .readyForQuery => some (ascii 'Z')
  | _ => none

/-- Each kind that the relay interprets has one tag, on either side. -/
theorem MessageKind.tag?_ofTag (side : Side) (tag : UInt8) :
    (ofTag side tag).body.tag?.getD tag = tag := by
  cases side with
  | frontend =>
      exact of_lookup (motive := fun tag kind => kind.body.tag?.getD tag = tag) (by decide) tag rfl
  | backend =>
      exact of_lookup (motive := fun tag kind => kind.body.tag?.getD tag = tag) (by decide) tag rfl

namespace Message

/-- A body that is read as a whole is what its value is written as. -/
theorem write_of_readBody {format : Format} (sound : format.productive = true) {tag : UInt8}
    {body : Bytes} {value : format.Value} (found : readBody format tag body = .ok value)
    (marked : Format.Marked (format.lengths body ⟨0, body.length⟩)) :
    format.write value = body := by
  have whole : (⟨0, body.length⟩ : Cursor).pos + (⟨0, body.length⟩ : Cursor).left ≤ body.length :=
    Nat.le_of_eq (Nat.zero_add _)
  simp only [readBody] at found
  split at found
  · cases found
  · rename_i last next read
    split at found
    · cases found
    · rename_i ended
      cases found
      have looked := (Format.complete_iff_read sound whole next).mpr ⟨value, read⟩
      have reached := (Format.lawful_validate format).reaches body ⟨0, body.length⟩
      rw [looked] at reached
      have conserved := reached.conserved
      have split := Format.rewrites_format format body _ value next read marked
      have nothing : body.drop next.pos = [] := by
        refine List.drop_eq_nil_of_le ?_
        simp only [Decidable.of_not_not ended, Nat.add_zero, Nat.zero_add] at conserved
        exact Nat.le_of_eq conserved.symm
      rw [nothing, List.append_nil, List.drop_zero] at split
      exact split.symm

/--
Whatever is decoded from a frame is written as the frame, if no length in a row stands for no
value but the one that is written for it.
-/
theorem write_of_ofFrame {side : Side} {tag : UInt8} {body : Bytes} {message : Message}
    (read : ofFrame (MessageKind.ofTag side tag).body (some tag) (frame tag body) 5 = .ok message)
    (marked : (MessageKind.ofTag side tag).body = .dataRow →
      Format.Marked (BodyKind.dataRow.format.lengths body ⟨0, body.length⟩)) :
    message.write = frame tag body := by
  have tagged := MessageKind.tag?_ofTag side tag
  have sizeless {kind : BodyKind} (without : kind.format.sizeless = true) {letter : UInt8}
      {value : kind.format.Value} (found : readBody kind.format letter body = .ok value) :
      kind.format.write value = body := by
    refine write_of_readBody kind.productive_format found ?_
    rw [Format.lengths_of_sizeless without]
    exact List.forall_mem_nil _
  -- The kinds that are interpreted have one tag each; the others keep the bytes of the frame.
  cases kind : (MessageKind.ofTag side tag).body
  all_goals
    rw [kind] at read tagged
  case query =>
    rcases exists_of_map_eq_ok read with ⟨text, found, rfl⟩
    rw [write, sizeless rfl found, ← tagged]
    rfl
  case parse =>
    rcases exists_of_map_eq_ok read with ⟨⟨name, text, types, _⟩, found, rfl⟩
    rw [write, sizeless rfl found, ← tagged]
    rfl
  case rowDescription =>
    rcases exists_of_map_eq_ok read with ⟨columns, found, rfl⟩
    have fields : (columns.map Column.ofFields).map Column.toFields = columns := by
      simp [Function.comp_def, Column.toFields_ofFields]
    rw [write, fields, sizeless rfl found, ← tagged]
    rfl
  case dataRow =>
    rcases exists_of_map_eq_ok read with ⟨values, found, rfl⟩
    rw [write, write_of_readBody BodyKind.dataRow.productive_format found (marked kind), ← tagged]
    rfl
  case commandComplete =>
    rcases exists_of_map_eq_ok read with ⟨text, found, rfl⟩
    rw [write, sizeless rfl found, ← tagged]
    rfl
  case emptyQueryResponse =>
    rcases exists_of_map_eq_ok read with ⟨_, found, rfl⟩
    rw [write, sizeless rfl found, ← tagged]
    rfl
  case errorResponse =>
    rcases exists_of_map_eq_ok read with ⟨⟨fields, terminator, _⟩, found, rfl⟩
    have parts : (fields.map ErrorField.ofFields).map ErrorField.toFields = fields := by
      simp [Function.comp_def, ErrorField.toFields_ofFields]
    rw [write, parts, sizeless rfl found, ← tagged]
    rfl
  case readyForQuery =>
    rcases exists_of_map_eq_ok read with ⟨status, found, rfl⟩
    rw [write, sizeless rfl found, ← tagged]
    rfl
  all_goals
    cases read
    rfl

/-- A length of -2 stands for no value, for which -1 is written. -/
example :
    (ofFrame .dataRow (some (ascii 'D'))
        (frame (ascii 'D') [0, 1, 0xff, 0xff, 0xff, 0xfe]) 5).map write =
      .ok (frame (ascii 'D') [0, 1, 0xff, 0xff, 0xff, 0xff]) :=
  rfl

end Message

end Wire

end ColumnVeil
