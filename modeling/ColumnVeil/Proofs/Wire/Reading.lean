import ColumnVeil.Proofs.Wire.Looking

/-!
# Reading what has been looked at

A value is read only after it has been looked at, by another function.  Where the whole
message is in the buffer the two agree: a value that was found whole is read, from the same
bytes, and one that was refused is not.  A whole message never leaves the verdict open.

The exception are repetitions of items that may take no bytes: looking refuses such an
item, reading would not.  `productive` rules them out, and no body has one.
-/

namespace ColumnVeil.Wire.Format

variable {α β : Type}

/-- The verdict of looking is borne out by reading. -/
inductive Confirms : Outcome × Cursor → Except CodecError α × Cursor → Prop where
  | complete (next : Cursor) (value : α) : Confirms (.complete, next) (.ok value, next)
  | failed (stop stopped : Cursor) (error : CodecError) :
      Confirms (.failed, stop) (.error error, stopped)

/-- Reading bears out looking wherever the whole message is in the buffer. -/
def Agrees (data : Bytes) (look : Cursor → Outcome × Cursor)
    (read : Cursor → Except CodecError α × Cursor) : Prop :=
  ∀ cursor : Cursor, cursor.pos + cursor.left ≤ data.length → Confirms (look cursor) (read cursor)

theorem Confirms.mapRead {verdict : Outcome × Cursor} {result : Except CodecError α × Cursor}
    (confirms : Confirms verdict result) (convert : α → β) :
    Confirms verdict (mapRead convert result) := by
  cases confirms with
  | complete next value =>
      exact Confirms.complete next (convert value)
  | failed stop stopped error =>
      exact Confirms.failed stop stopped error

/-! ## Single fields -/

section Fields

variable {data : Bytes} {cursor : Cursor}

/-- All that a message still declares has arrived. -/
theorem left_le_available (whole : cursor.pos + cursor.left ≤ data.length) :
    cursor.left ≤ available data cursor.pos := by
  rw [available]
  omega

theorem take_of_le {width : Nat} (whole : cursor.pos + cursor.left ≤ data.length)
    (declared : width ≤ cursor.left) :
    take data width cursor = (.ok ((data.drop cursor.pos).take width), cursor.advance width) := by
  rw [take, if_neg (Nat.not_lt.mpr declared), if_neg (by omega)]

theorem take_of_lt {width : Nat} (short : cursor.left < width) :
    take data width cursor = (.error (.fieldExceeds width cursor.left), cursor) := by
  rw [take, if_pos short]

theorem advance_advance (cursor : Cursor) (first second : Nat) :
    (cursor.advance first).advance second = cursor.advance (second + first) := by
  simp only [Cursor.advance, Cursor.mk.injEq]
  omega

end Fields

theorem agrees_fixed (data : Bytes) (width : Nat) :
    Agrees data (validateFixed data width) (take data width) := by
  intro cursor whole
  have arrived := left_le_available whole
  rw [validateFixed]
  split
  · rename_i short
    rw [take_of_lt short]
    exact Confirms.failed _ _ _
  · rename_i declared
    rw [if_neg (by omega), take_of_le whole (Nat.le_of_not_lt declared)]
    exact Confirms.complete _ _

theorem agrees_string (data : Bytes) : Agrees data (validateString data) (readString data) := by
  intro cursor whole
  have arrived := left_le_available whole
  have inside : ¬ data.length < cursor.pos + cursor.left := Nat.not_lt.mpr whole
  simp only [validateString, readString, Nat.min_eq_right arrived, if_neg inside, if_pos arrived]
  cases ((data.drop cursor.pos).take cursor.left).findIdx? (· == 0) with
  | none =>
      exact Confirms.failed _ _ _
  | some index =>
      exact Confirms.complete _ _

theorem agrees_remainder (data : Bytes) :
    Agrees data (remainder.validate data) (remainder.read data) := by
  intro cursor whole
  have arrived := left_le_available whole
  simp only [validate, read]
  rw [if_neg (Nat.not_lt.mpr arrived), take_of_le whole (Nat.le_refl _)]
  exact Confirms.complete _ _

theorem agrees_sized (data : Bytes) : Agrees data (validateSized data) (readSized data) := by
  intro cursor whole
  have arrived := left_le_available whole
  by_cases short : cursor.left < 4
  · rw [validateSized, if_pos short, readSized, take_of_lt short]
    exact Confirms.failed _ _ _
  · have declared := Nat.le_of_not_lt short
    have counted : ¬ available data cursor.pos < 4 := by omega
    simp only [validateSized, readSized, if_neg short, if_neg counted, take_of_le whole declared]
    generalize (ofInt32Bytes ((data.drop cursor.pos).take 4)).toInt = length
    by_cases negative : length < 0
    · rw [if_pos negative, if_pos negative]
      exact Confirms.complete _ _
    · rw [if_neg negative, if_neg negative]
      -- The rest of the message is whole as well.
      have wholeNext :
          (cursor.advance 4).pos + (cursor.advance 4).left ≤ data.length := by
        simp only [Cursor.pos_advance, Cursor.left_advance]
        omega
      by_cases long : cursor.left - 4 < length.toNat
      · rw [if_pos long, take_of_lt (show (cursor.advance 4).left < length.toNat from long)]
        exact Confirms.failed _ _ _
      · have fits : length.toNat ≤ (cursor.advance 4).left := Nat.le_of_not_lt long
        rw [if_neg long, if_neg (by omega), take_of_le wholeNext fits, advance_advance]
        exact Confirms.complete _ _

/-! ## Sequences, arrays and repetitions -/

/-- What looking has found whole lies in a message that is still whole. -/
theorem whole_of_complete {look : Bytes → Cursor → Outcome × Cursor} (lawful : Lawful look)
    {data : Bytes} {cursor next : Cursor} (complete : look data cursor = (.complete, next))
    (whole : cursor.pos + cursor.left ≤ data.length) : next.pos + next.left ≤ data.length := by
  have reached := lawful.reaches data cursor
  rw [complete] at reached
  rw [reached.conserved]
  exact whole

theorem forward_of_complete {look : Bytes → Cursor → Outcome × Cursor} (lawful : Lawful look)
    {data : Bytes} {cursor next : Cursor} (complete : look data cursor = (.complete, next)) :
    cursor.pos ≤ next.pos := by
  have reached := lawful.reaches data cursor
  rw [complete] at reached
  exact reached.forward

/-- Read on from where something has been read. -/
def readOn (result : Except CodecError α × Cursor)
    (next : α → Cursor → Except CodecError β × Cursor) : Except CodecError β × Cursor :=
  match result with
  | (.error error, cursor) => (.error error, cursor)
  | (.ok value, cursor) => next value cursor

theorem readTimes_succ (item : Cursor → Except CodecError α × Cursor) (count : Nat)
    (cursor : Cursor) :
    readTimes item (count + 1) cursor =
      readOn (item cursor) fun value next =>
        mapRead (List.cons value) (readTimes item count next) := by
  rw [readTimes]
  rcases item cursor with ⟨result, next⟩
  cases result with
  | error error =>
      rfl
  | ok value =>
      simp only [readOn]
      rcases readTimes item count next with ⟨results, last⟩
      cases results <;> rfl

theorem read_field (first rest : Format) (data : Bytes) (cursor : Cursor) :
    (field first rest).read data cursor =
      readOn (first.read data cursor) fun value next =>
        mapRead (Prod.mk value) (rest.read data next) := by
  rw [read]
  rcases first.read data cursor with ⟨result, next⟩
  cases result with
  | error error =>
      rfl
  | ok value =>
      simp only [readOn]
      rcases rest.read data next with ⟨results, last⟩
      cases results <;> rfl

theorem eq_ok_of_mapRead {convert : α → β} {result : Except CodecError α × Cursor} {value : β}
    {next : Cursor} (mapped : mapRead convert result = (.ok value, next)) :
    ∃ before, result = (.ok before, next) ∧ convert before = value := by
  rcases result with ⟨error | before, cursor⟩
  · cases mapped
  · cases mapped
    exact ⟨before, rfl, rfl⟩

theorem eq_ok_of_readOn {result : Except CodecError α × Cursor}
    {readNext : α → Cursor → Except CodecError β × Cursor} {value : β} {next : Cursor}
    (went : readOn result readNext = (.ok value, next)) :
    ∃ first middle, result = (.ok first, middle) ∧ readNext first middle = (.ok value, next) := by
  rcases result with ⟨error | first, middle⟩
  · cases went
  · exact ⟨first, middle, rfl, went⟩

/-- Bytes that are taken are the next bytes of the buffer. -/
theorem eq_ok_of_take {data bytes : Bytes} {width : Nat} {cursor next : Cursor}
    (taken : take data width cursor = (.ok bytes, next)) :
    bytes.length = width ∧ data.drop cursor.pos = bytes ++ data.drop next.pos := by
  simp only [take] at taken
  split at taken
  · cases taken
  · split at taken
    · cases taken
    · rename_i inside
      cases taken
      constructor
      · rw [List.length_take, List.length_drop]
        omega
      · rw [Cursor.pos_advance, ← List.drop_drop, List.take_append_drop]

/-- A sequence agrees if its parts do, the second wherever the first may end. -/
theorem confirms_proceed {look : Outcome × Cursor} {result : Except CodecError α × Cursor}
    {next : Cursor → Outcome × Cursor} {readNext : α → Cursor → Except CodecError β × Cursor}
    (first : Confirms look result)
    (second : ∀ value stop, look = (.complete, stop) → result = (.ok value, stop) →
      Confirms (next stop) (readNext value stop)) :
    Confirms (proceed look next) (readOn result readNext) := by
  cases first with
  | complete stop value =>
      exact second value stop rfl rfl
  | failed stop stopped error =>
      exact Confirms.failed _ _ _

theorem agrees_times {look : Bytes → Cursor → Outcome × Cursor} (lawful : Lawful look)
    {data : Bytes} {item : Cursor → Except CodecError α × Cursor}
    (agrees : Agrees data (look data) item) (count : Nat) :
    Agrees data (validateTimes (look data) count) (readTimes item count) := by
  induction count with
  | zero =>
      exact fun cursor _ => Confirms.complete cursor []
  | succ count inductionHypothesis =>
      intro cursor whole
      rw [validateTimes_succ, readTimes_succ]
      refine confirms_proceed (agrees cursor whole) ?_
      intro value next complete _
      exact (inductionHypothesis next (whole_of_complete lawful complete whole)).mapRead _

/-! ## Repetitions -/

/-- Whatever is found whole takes at least one byte. -/
def Advances (look : Bytes → Cursor → Outcome × Cursor) : Prop :=
  ∀ data cursor next, look data cursor = (.complete, next) → cursor.pos < next.pos

theorem readWhile_succ (data : Bytes) (item : Cursor → Except CodecError α × Cursor)
    (fuel : Nat) (cursor : Cursor) :
    readWhile data item (fuel + 1) cursor =
      if cursor.left = 0 then (.ok [], cursor)
      else match data[cursor.pos]? with
        | none => (.error .bufferUnderrun, cursor)
        | some next =>
            if next = 0 then (.ok [], cursor)
            else readOn (item cursor) fun value next =>
              mapRead (List.cons value) (readWhile data item fuel next) := by
  rw [readWhile]
  split
  · rfl
  · cases found : data[cursor.pos]? with
    | none =>
        rfl
    | some head =>
        by_cases zero : head = 0
        · rw [zero]
          rfl
        · simp only [if_neg zero]
          rcases item cursor with ⟨result, next⟩
          cases result with
          | error error =>
              rfl
          | ok value =>
              simp only [readOn]
              rcases readWhile data item fuel next with ⟨results, last⟩
              cases results <;> rfl

theorem agrees_while {look : Bytes → Cursor → Outcome × Cursor} (lawful : Lawful look)
    (advances : Advances look) {data : Bytes} {item : Cursor → Except CodecError α × Cursor}
    (agrees : Agrees data (look data) item) (fuel : Nat) :
    Agrees data (validateWhile data (look data) fuel) (readWhile data item fuel) := by
  induction fuel with
  | zero =>
      exact fun cursor _ => Confirms.complete cursor []
  | succ fuel inductionHypothesis =>
      intro cursor whole
      rw [validateWhile_succ, readWhile_succ]
      by_cases ended : cursor.left = 0
      · rw [if_pos ended, if_pos ended]
        exact Confirms.complete _ _
      · have inside : cursor.pos < data.length := by omega
        rw [if_neg ended, if_neg ended, List.getElem?_eq_getElem inside]
        simp only
        split
        · exact Confirms.complete _ _
        · refine confirms_proceed (agrees cursor whole) ?_
          intro value next complete _
          have forward := advances data cursor next complete
          rw [continueWhile, if_neg (by omega)]
          exact (inductionHypothesis next (whole_of_complete lawful complete whole)).mapRead _

/-! ## Every format -/

/-- Every value of the format takes at least one byte. -/
def consumes : Format → Bool
  | unit => false
  | byte => true
  | int16 => true
  | int32 => true
  | cstring => true
  | remainder => false
  | sized => true
  | array _ _ => true
  | repeated _ => false
  | field first rest => first.consumes || rest.consumes

/-- Whatever is repeated in the format takes bytes. -/
def productive : Format → Bool
  | array _ item => item.productive
  | repeated item => item.consumes && item.productive
  | field first rest => first.productive && rest.productive
  | _ => true

/-- A sequence is whole exactly if its parts are, one behind the other. -/
theorem complete_of_proceed {look : Outcome × Cursor} {next : Cursor → Outcome × Cursor}
    {stop : Cursor} (complete : proceed look next = (.complete, stop)) :
    ∃ middle, look = (.complete, middle) ∧ next middle = (.complete, stop) := by
  rcases look with ⟨outcome, middle⟩
  cases outcome with
  | complete =>
      exact ⟨middle, rfl, complete⟩
  | incomplete =>
      cases complete
  | failed =>
      cases complete

theorem advances_fixed {width : Nat} (positive : 0 < width) :
    Advances fun data => validateFixed data width := by
  intro data cursor next complete
  simp only [validateFixed] at complete
  split at complete
  · cases complete
  · split at complete
    · cases complete
    · cases complete
      exact Nat.lt_add_of_pos_right positive

theorem advances_string : Advances validateString := by
  intro data cursor next complete
  simp only [validateString] at complete
  split at complete
  · cases complete
    exact Nat.lt_add_of_pos_right (Nat.succ_pos _)
  · split at complete <;> cases complete

theorem advances_sized : Advances validateSized := by
  intro data cursor next complete
  simp only [validateSized] at complete
  repeat' split at complete
  all_goals cases complete
  · exact Nat.lt_add_of_pos_right (by decide)
  · exact Nat.lt_add_of_pos_right (Nat.succ_pos _)

/-- A sequence takes a byte if one of its parts does. -/
theorem advances_field {first rest : Format}
    (either : Advances first.validate ∨ Advances rest.validate) :
    Advances (field first rest).validate := by
  intro data cursor stop complete
  rw [validate_field] at complete
  rcases complete_of_proceed complete with ⟨middle, whole, wholeRest⟩
  have forward := forward_of_complete (lawful_validate first) whole
  have forwardRest := forward_of_complete (lawful_validate rest) wholeRest
  rcases either with advances | advances
  · exact Nat.lt_of_lt_of_le (advances data cursor middle whole) forwardRest
  · exact Nat.lt_of_le_of_lt forward (advances data middle stop wholeRest)

theorem advances_of_consumes {format : Format} (takes : format.consumes = true) :
    Advances format.validate := by
  induction format with
  | unit =>
      cases takes
  | byte =>
      exact advances_fixed (by decide)
  | int16 =>
      exact advances_fixed (by decide)
  | int32 =>
      exact advances_fixed (by decide)
  | cstring =>
      exact advances_string
  | remainder =>
      cases takes
  | sized =>
      exact advances_sized
  | array width item inductionHypothesis =>
      intro data cursor stop complete
      rw [validate_array] at complete
      rcases complete_of_proceed complete with ⟨middle, counted, items⟩
      have positive : 0 < width.bytes := by cases width <;> decide
      have forward := forward_of_complete (lawful_counted (lawful_validate item) _) items
      exact Nat.lt_of_lt_of_le (advances_fixed positive data cursor middle counted) forward
  | repeated item inductionHypothesis =>
      cases takes
  | field first rest firstHypothesis restHypothesis =>
      rw [consumes, Bool.or_eq_true] at takes
      exact advances_field (takes.imp firstHypothesis restHypothesis)

/-- An array agrees if its items do. -/
theorem agrees_array {item : Format} {data : Bytes} (width : CountWidth)
    (agrees : Agrees data (item.validate data) (item.read data)) :
    Agrees data ((array width item).validate data) ((array width item).read data) := by
  intro cursor whole
  have counted := agrees_fixed data width.bytes cursor whole
  rw [validate_array, read]
  by_cases short : cursor.left < width.bytes
  · rw [validateFixed, if_pos short, take_of_lt short]
    exact Confirms.failed _ _ _
  · have declared := Nat.le_of_not_lt short
    rw [take_of_le whole declared] at counted ⊢
    rcases fixed : validateFixed data width.bytes cursor with ⟨outcome, next⟩
    rw [fixed] at counted
    cases counted
    simp only [proceed_complete]
    cases width.count? ((data.drop cursor.pos).take width.bytes) with
    | none =>
        exact Confirms.failed _ _ _
    | some count =>
        exact agrees_times (lawful_validate item) agrees count _
          (whole_of_complete (lawful_fixed width.bytes) fixed whole)

/-- Reading bears out looking for every format whose repetitions take bytes. -/
theorem agrees_of_productive {format : Format} (sound : format.productive = true)
    (data : Bytes) : Agrees data (format.validate data) (format.read data) := by
  induction format with
  | unit =>
      exact fun cursor _ => Confirms.complete cursor ()
  | byte =>
      exact fun cursor whole => (agrees_fixed data 1 cursor whole).mapRead _
  | int16 =>
      exact fun cursor whole => (agrees_fixed data 2 cursor whole).mapRead _
  | int32 =>
      exact fun cursor whole => (agrees_fixed data 4 cursor whole).mapRead _
  | cstring =>
      exact agrees_string data
  | remainder =>
      exact agrees_remainder data
  | sized =>
      exact agrees_sized data
  | array width item inductionHypothesis =>
      exact agrees_array width (inductionHypothesis sound)
  | repeated item inductionHypothesis =>
      rw [productive, Bool.and_eq_true] at sound
      intro cursor whole
      exact agrees_while (lawful_validate item) (advances_of_consumes sound.1)
        (inductionHypothesis sound.2) (cursor.left + 1) cursor whole
  | field first rest firstHypothesis restHypothesis =>
      rw [productive, Bool.and_eq_true] at sound
      intro cursor whole
      rw [validate_field, read_field]
      refine confirms_proceed (firstHypothesis sound.1 cursor whole) ?_
      intro value next complete _
      exact (restHypothesis sound.2 next
        (whole_of_complete (lawful_validate first) complete whole)).mapRead _

end ColumnVeil.Wire.Format

namespace ColumnVeil.Wire

/-- What the messages of the protocol repeat takes bytes. -/
theorem BodyKind.productive_format (kind : BodyKind) : kind.format.productive = true := by
  cases kind <;> rfl

end ColumnVeil.Wire
