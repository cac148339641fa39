import ColumnVeil.Proofs.Wire.Guarded

/-!
# Cursors are conserved and repetitions end

Lengths and counts come from the peer, and a reader adds them to its position before it
touches the buffer.  What protects it is that position and remaining bytes advance together:
their sum never changes, so that a position within the message stays within it, and each
field is compared with both before it is passed.

`Cursor.Reaches` states this of one run, and holds whether the run ends with a value or not.
A guarded reader then never meets a guard (`guards_validate`, `read?_eq`).  A repetition
ends because each round that goes on has taken something from the message: looking refuses an
item without bytes, and reading relies on items that have some (`consumes`).
-/

namespace ColumnVeil.Wire.Format

variable {α β : Type} {data : Bytes} {cursor : Cursor}

/-! ## Reading conserves its cursor -/

/-- Wherever a reader starts, and whatever it comes to, it conserves its cursor. -/
def Conserves (data : Bytes) (reader : Cursor → α × Cursor) : Prop :=
  ∀ cursor : Cursor, cursor.Reaches data (reader cursor).2

theorem Conserves.mapRead {reader : Cursor → Except CodecError α × Cursor}
    (conserves : Conserves data reader) (convert : α → β) :
    Conserves data fun cursor => Format.mapRead convert (reader cursor) := by
  intro cursor
  have reaches := conserves cursor
  dsimp only
  generalize reader cursor = result at reaches ⊢
  rcases result with ⟨_ | value, stop⟩
  · exact reaches
  · exact reaches

theorem Conserves.readOn {reader : Cursor → Except CodecError α × Cursor}
    (conserves : Conserves data reader) {next : α → Cursor → Except CodecError β × Cursor}
    (rest : ∀ value, Conserves data (next value)) :
    Conserves data fun cursor => Format.readOn (reader cursor) next := by
  intro cursor
  have reaches := conserves cursor
  dsimp only
  generalize reader cursor = result at reaches ⊢
  rcases result with ⟨_ | value, stop⟩
  · exact reaches
  · exact reaches.trans (rest value stop)

/-- Read as many bytes as a length says; a negative length stands for no value. -/
def readAnnounced (data : Bytes) (length : Int) (cursor : Cursor) :
    Except CodecError (Option Bytes) × Cursor :=
  if length < 0 then (.ok none, cursor) else mapRead some (take data length.toNat cursor)

theorem readSized_eq (data : Bytes) (cursor : Cursor) :
    readSized data cursor =
      readOn (mapRead (fun bytes => (ofInt32Bytes bytes).toInt) (take data 4 cursor))
        (readAnnounced data) := by
  rw [readSized]
  rcases take data 4 cursor with ⟨_ | bytes, next⟩
  · rfl
  · simp only [mapRead, readOn, readAnnounced]
    split
    · rfl
    · rcases take data (ofInt32Bytes bytes).toInt.toNat next with ⟨_ | _, _⟩ <;> rfl

/-- Read as many items as a count says. -/
def readCounted (item : Cursor → Except CodecError α × Cursor) (count : Option Nat)
    (cursor : Cursor) : Except CodecError (List α) × Cursor :=
  match count with
  | none => (.error .negativeLength, cursor)
  | some count => readTimes item count cursor

theorem read_array (width : CountWidth) (item : Format) (data : Bytes) (cursor : Cursor) :
    (array width item).read data cursor =
      readOn (mapRead width.count? (take data width.bytes cursor))
        (readCounted (item.read data)) := by
  rw [read]
  rcases take data width.bytes cursor with ⟨_ | bytes, next⟩
  · rfl
  · simp only [mapRead, readOn]
    cases width.count? bytes <;> rfl

theorem conserves_take (data : Bytes) (width : Nat) : Conserves data (take data width) := by
  intro cursor
  rw [take]
  split
  · exact Cursor.Reaches.refl data cursor
  · split
    · exact Cursor.Reaches.refl data cursor
    · rename_i declared arrived
      exact Cursor.reaches_advance (Nat.le_of_not_lt declared) fun _ => Nat.le_of_not_lt arrived

theorem conserves_readString (data : Bytes) : Conserves data (readString data) := by
  intro cursor
  rw [readString]
  split
  · exact Cursor.Reaches.refl data cursor
  · dsimp only
    split
    · exact Cursor.Reaches.refl data cursor
    · rename_i arrived _ index found
      have bound := (List.findIdx?_eq_some_iff_getElem.mp found).1
      rw [List.length_take, List.length_drop] at bound
      exact Cursor.reaches_advance (by omega) (by omega)

theorem conserves_readAnnounced (data : Bytes) (length : Int) :
    Conserves data (readAnnounced data length) := by
  intro cursor
  rw [readAnnounced]
  split
  · exact Cursor.Reaches.refl data cursor
  · exact (conserves_take data _).mapRead some cursor

theorem conserves_readSized (data : Bytes) : Conserves data (readSized data) := by
  intro cursor
  rw [readSized_eq]
  exact ((conserves_take data 4).mapRead _).readOn (conserves_readAnnounced data) cursor

theorem conserves_readTimes {item : Cursor → Except CodecError α × Cursor}
    (conserves : Conserves data item) (count : Nat) : Conserves data (readTimes item count) := by
  induction count with
  | zero =>
      exact fun cursor => Cursor.Reaches.refl data cursor
  | succ count inductionHypothesis =>
      intro cursor
      rw [readTimes_succ]
      exact conserves.readOn (fun value => inductionHypothesis.mapRead _) cursor

theorem conserves_readCounted {item : Cursor → Except CodecError α × Cursor}
    (conserves : Conserves data item) (count : Option Nat) :
    Conserves data (readCounted item count) := by
  cases count with
  | none =>
      exact fun cursor => Cursor.Reaches.refl data cursor
  | some count =>
      exact conserves_readTimes conserves count

theorem conserves_readWhile {item : Cursor → Except CodecError α × Cursor}
    (conserves : Conserves data item) (fuel : Nat) :
    Conserves data (readWhile data item fuel) := by
  induction fuel with
  | zero =>
      exact fun cursor => Cursor.Reaches.refl data cursor
  | succ fuel inductionHypothesis =>
      intro cursor
      rw [readWhile_succ]
      split
      · exact Cursor.Reaches.refl data cursor
      · split
        · exact Cursor.Reaches.refl data cursor
        · split
          · exact Cursor.Reaches.refl data cursor
          · exact conserves.readOn (fun value => inductionHypothesis.mapRead _) cursor

/-- Reading any format conserves its cursor. -/
theorem conserves_read (format : Format) (data : Bytes) : Conserves data (format.read data) := by
  induction format with
  | unit =>
      exact fun cursor => Cursor.Reaches.refl data cursor
  | byte =>
      exact (conserves_take data 1).mapRead _
  | int16 =>
      exact (conserves_take data 2).mapRead _
  | int32 =>
      exact (conserves_take data 4).mapRead _
  | cstring =>
      exact conserves_readString data
  | remainder =>
      exact fun cursor => conserves_take data cursor.left cursor
  | sized =>
      exact conserves_readSized data
  | array width item inductionHypothesis =>
      intro cursor
      rw [read_array]
      exact ((conserves_take data width.bytes).mapRead _).readOn
        (conserves_readCounted inductionHypothesis) cursor
  | repeated item inductionHypothesis =>
      exact fun cursor => conserves_readWhile inductionHypothesis (cursor.left + 1) cursor
  | field first rest firstHypothesis restHypothesis =>
      intro cursor
      rw [read_field]
      exact firstHypothesis.readOn (fun value => restHypothesis.mapRead _) cursor

/-- Looking at any format conserves its cursor. -/
theorem conserves_validate (format : Format) (data : Bytes) :
    Conserves data (format.validate data) :=
  (lawful_validate format).reaches data

/-! ## Reading takes bytes -/

/-- Whatever is read takes at least one byte. -/
def Spends (reader : Cursor → Except CodecError α × Cursor) : Prop :=
  ∀ cursor value next, reader cursor = (.ok value, next) → cursor.pos < next.pos

theorem Spends.mapRead {reader : Cursor → Except CodecError α × Cursor} (spends : Spends reader)
    (convert : α → β) : Spends fun cursor => Format.mapRead convert (reader cursor) := by
  intro cursor value next done
  rcases eq_ok_of_mapRead done with ⟨found, read, _⟩
  exact spends cursor found next read

/-- A reading takes a byte if its first part does. -/
theorem Spends.readOn {reader : Cursor → Except CodecError α × Cursor} (spends : Spends reader)
    {next : α → Cursor → Except CodecError β × Cursor}
    (conserves : ∀ value, Conserves data (next value)) :
    Spends fun cursor => Format.readOn (reader cursor) next := by
  intro cursor value stop done
  rcases eq_ok_of_readOn done with ⟨found, middle, read, readNext⟩
  have forward := (conserves found middle).forward
  rw [readNext] at forward
  exact Nat.lt_of_lt_of_le (spends cursor found middle read) forward

/-- A reading takes a byte if what it goes on with does. -/
theorem Conserves.spends_readOn {reader : Cursor → Except CodecError α × Cursor}
    (conserves : Conserves data reader) {next : α → Cursor → Except CodecError β × Cursor}
    (spends : ∀ value, Spends (next value)) :
    Spends fun cursor => Format.readOn (reader cursor) next := by
  intro cursor value stop done
  rcases eq_ok_of_readOn done with ⟨found, middle, read, readNext⟩
  have forward := (conserves cursor).forward
  rw [read] at forward
  exact Nat.lt_of_le_of_lt forward (spends found middle value stop readNext)

theorem spends_take (data : Bytes) {width : Nat} (positive : 0 < width) :
    Spends (take data width) := by
  intro cursor value next done
  rw [take] at done
  split at done
  · cases done
  · split at done
    · cases done
    · cases done
      exact Nat.lt_add_of_pos_right positive

theorem spends_readString (data : Bytes) : Spends (readString data) := by
  intro cursor value next done
  simp only [readString] at done
  split at done
  · cases done
  · split at done
    · cases done
    · cases done
      exact Nat.lt_add_of_pos_right (Nat.succ_pos _)

theorem spends_of_consumes {format : Format} (takes : format.consumes = true) (data : Bytes) :
    Spends (format.read data) := by
  induction format with
  | unit =>
      cases takes
  | byte =>
      exact (spends_take data (by decide)).mapRead _
  | int16 =>
      exact (spends_take data (by decide)).mapRead _
  | int32 =>
      exact (spends_take data (by decide)).mapRead _
  | cstring =>
      exact spends_readString data
  | remainder =>
      cases takes
  | sized =>
      intro cursor value next done
      rw [read, readSized_eq] at done
      exact ((spends_take data (by decide)).mapRead _).readOn (conserves_readAnnounced data)
        cursor value next done
  | array width item inductionHypothesis =>
      intro cursor value next done
      rw [read_array] at done
      have positive : 0 < width.bytes := by cases width <;> decide
      exact ((spends_take data positive).mapRead _).readOn
        (conserves_readCounted (conserves_read item data)) cursor value next done
  | repeated item inductionHypothesis =>
      cases takes
  | field first rest firstHypothesis restHypothesis =>
      intro cursor value next done
      rw [consumes, Bool.or_eq_true] at takes
      rw [read_field] at done
      rcases takes with takes | takes
      · exact (firstHypothesis takes).readOn
          (fun _ => (conserves_read rest data).mapRead _) cursor value next done
      · exact (conserves_read first data).spends_readOn
          (fun _ => (restHypothesis takes).mapRead _) cursor value next done

/-! ## Single fields meet no guard -/

/-- Wherever it starts in the buffer, a guarded reader comes to what the plain one comes to. -/
def Guards (data : Bytes) (guarded : Cursor → Option α) (plain : Cursor → α) : Prop :=
  ∀ cursor : Cursor, cursor.pos ≤ data.length → guarded cursor = some (plain cursor)

theorem guards_fixed (data : Bytes) (width : Nat) :
    Guards data (validateFixed? data width) (validateFixed data width) := by
  intro cursor _
  rw [validateFixed?, validateFixed]
  split
  · rfl
  · split
    · rfl
    · rename_i declared _
      rw [Cursor.advance?_of_le (Nat.le_of_not_lt declared)]
      rfl

theorem guards_string (data : Bytes) : Guards data (validateString? data) (validateString data) := by
  intro cursor inside
  have window : cursor.pos + min (available data cursor.pos) cursor.left ≤ data.length := by
    rw [available]
    omega
  simp only [validateString?, validateString, slice?_of_le window, Option.bind_eq_bind,
    Option.bind_some]
  cases found : ((data.drop cursor.pos).take
      (min (available data cursor.pos) cursor.left)).findIdx? (· == 0) with
  | none =>
      dsimp only
      split <;> rfl
  | some index =>
      have bound := (List.findIdx?_eq_some_iff_getElem.mp found).1
      rw [List.length_take] at bound
      simp only [Cursor.advance?_of_le (show index + 1 ≤ cursor.left by omega), Option.bind_some]
      rfl

theorem guards_sized (data : Bytes) : Guards data (validateSized? data) (validateSized data) := by
  intro cursor inside
  rw [validateSized?, validateSized]
  by_cases short : cursor.left < 4
  · rw [if_pos short, if_pos short]
  · by_cases missing : available data cursor.pos < 4
    · rw [if_neg short, if_neg short, if_pos missing, if_pos missing]
    · have arrived : cursor.pos + 4 ≤ data.length := by
        rw [available] at missing
        omega
      have declared : 4 ≤ cursor.left := Nat.le_of_not_lt short
      simp only [if_neg short, if_neg missing, slice?_of_le arrived,
        Cursor.advance?_of_le declared, Option.bind_eq_bind, Option.bind_some]
      generalize (ofInt32Bytes ((data.drop cursor.pos).take 4)).toInt = length
      by_cases negative : length < 0
      · rw [if_pos negative, if_pos negative]
        rfl
      · rw [if_neg negative, if_neg negative]
        by_cases long : cursor.left - 4 < length.toNat
        · rw [if_pos long, if_pos (show (cursor.advance 4).left < length.toNat from long)]
        · rw [if_neg long, if_neg (show ¬ (cursor.advance 4).left < length.toNat from long),
            Cursor.advance?_of_le (by omega)]
          split <;> rfl

/-- Taking bytes tests both ends, so it has no guard to meet wherever it starts. -/
theorem take?_eq (data : Bytes) (width : Nat) (cursor : Cursor) :
    take? data width cursor = some (take data width cursor) := by
  rw [take?, take]
  by_cases short : cursor.left < width
  · rw [if_pos short, if_pos short]
  · rw [if_neg short, if_neg short]
    by_cases outside : data.length < cursor.pos + width
    · rw [if_pos outside, slice?_of_lt outside]
    · rw [if_neg outside, slice?_of_le (Nat.le_of_not_lt outside)]
      simp only [Cursor.advance?_of_le (Nat.le_of_not_lt short)]
      rfl

/-- Reading on meets no guard if what follows a value does not. -/
theorem readOn?_eq {result : Except CodecError α × Cursor}
    {guarded : α → Cursor → Option (Except CodecError β × Cursor)}
    {plain : α → Cursor → Except CodecError β × Cursor}
    (rest : ∀ value stop, result = (.ok value, stop) →
      guarded value stop = some (plain value stop)) :
    readOn? (some result) guarded = some (readOn result plain) := by
  rcases result with ⟨_ | value, stop⟩
  · rfl
  · exact rest value stop rfl

theorem mapRead_id (result : Except CodecError α × Cursor) : mapRead id result = result := by
  rcases result with ⟨_ | _, _⟩ <;> rfl

theorem mapRead_mapRead {γ : Type} (first : α → β) (second : β → γ)
    (result : Except CodecError α × Cursor) :
    mapRead second (mapRead first result) = mapRead (second ∘ first) result := by
  rcases result with ⟨_ | _, _⟩ <;> rfl

theorem mapRead_eq_readOn (convert : α → β) (result : Except CodecError α × Cursor) :
    mapRead convert result = readOn result fun value next => (.ok (convert value), next) := by
  rcases result with ⟨_ | _, _⟩ <;> rfl

theorem readFixed?_eq (convert : Bytes → α) (data : Bytes) (width : Nat) (cursor : Cursor) :
    readFixed? convert data width cursor = some (mapRead convert (take data width cursor)) := by
  rw [readFixed?, take?_eq, mapRead_eq_readOn]
  apply readOn?_eq
  intro bytes next taken
  have length := (eq_ok_of_take taken).1
  rw [slice?_zero (Nat.le_of_eq length.symm), ← length, List.take_length]
  rfl

theorem readString?_eq (data : Bytes) (cursor : Cursor) :
    readString? data cursor = some (readString data cursor) := by
  rw [readString?, readString]
  by_cases outside : data.length < cursor.pos + cursor.left
  · rw [if_pos outside, slice?_of_lt outside]
  · have inside := Nat.le_of_not_lt outside
    rw [if_neg outside, slice?_of_le inside]
    dsimp only
    cases found : ((data.drop cursor.pos).take cursor.left).findIdx? (· == 0) with
    | none =>
        rfl
    | some index =>
        have bound := (List.findIdx?_eq_some_iff_getElem.mp found).1
        rw [List.length_take, List.length_drop] at bound
        have declared : index + 1 ≤ cursor.left := by omega
        -- The string is taken with its zero byte, which is cut off again.
        dsimp only
        rw [take?_eq, take_of_le inside declared]
        have enough : index ≤ ((data.drop cursor.pos).take (index + 1)).length := by
          rw [List.length_take, List.length_drop]
          omega
        simp only [readOn?, Option.bind_eq_bind, Option.bind_some, slice?_zero enough,
          List.take_take]
        rw [Nat.min_eq_left (Nat.le_succ index), Nat.min_eq_left (by omega)]
        rfl

theorem readSized?_eq (data : Bytes) (cursor : Cursor) :
    readSized? data cursor = some (readSized data cursor) := by
  rw [readSized?, readFixed?_eq, readSized_eq]
  apply readOn?_eq
  intro length next _
  rw [readAnnounced]
  split
  · rfl
  · rw [take?_eq]
    rfl

/-! ## Looking meets no guard -/

/-- Going on meets no guard if what follows something whole does not. -/
theorem proceed?_eq {result : Outcome × Cursor} {guarded : Cursor → Option (Outcome × Cursor)}
    {plain : Cursor → Outcome × Cursor}
    (rest : ∀ stop, result = (.complete, stop) → guarded stop = some (plain stop)) :
    proceed? (some result) guarded = some (proceed result plain) := by
  rcases result with ⟨outcome, stop⟩
  cases outcome with
  | complete =>
      exact rest stop rfl
  | incomplete =>
      rfl
  | failed =>
      rfl

section Looking

variable {guarded : Cursor → Option (Outcome × Cursor)} {look : Cursor → Outcome × Cursor}

/-- What is found whole ends in the buffer if it begins there. -/
theorem Conserves.inside_of_complete {next : Cursor} (conserves : Conserves data look)
    (complete : look cursor = (.complete, next)) (inside : cursor.pos ≤ data.length) :
    next.pos ≤ data.length := by
  have reaches := conserves cursor
  rw [complete] at reaches
  exact reaches.inside inside

theorem guards_times (guards : Guards data guarded look) (conserves : Conserves data look)
    (count : Nat) : Guards data (validateTimes? guarded count) (validateTimes look count) := by
  induction count with
  | zero =>
      exact fun _ _ => rfl
  | succ count inductionHypothesis =>
      intro cursor inside
      rw [validateTimes?, validateTimes_succ, guards cursor inside]
      apply proceed?_eq
      intro next complete
      exact inductionHypothesis next (conserves.inside_of_complete complete inside)

theorem guards_counted (guards : Guards data guarded look) (conserves : Conserves data look)
    (count : Option Nat) :
    Guards data (validateCounted? guarded count) (validateCounted look count) := by
  cases count with
  | none =>
      exact fun _ _ => rfl
  | some count =>
      exact guards_times guards conserves count

/-- A count that has been found whole is read again without a defect. -/
theorem countAt?_eq (width : CountWidth) (inside : cursor.pos ≤ data.length)
    (arrived : width.bytes ≤ available data cursor.pos) :
    countAt? width data cursor.pos =
      some (width.count? ((data.drop cursor.pos).take width.bytes)) := by
  have declared : ¬ UInt64.size - 1 < width.bytes := by cases width <;> decide
  have whole : ¬ data.length < cursor.pos + width.bytes := by
    rw [available] at arrived
    omega
  rw [countAt?, readFixed?_eq, take, if_neg declared, if_neg whole]
  rfl

/--
All that a round of looking can come to.  It ends the repetition with its result, or it has
found an item with bytes, and the rest of the repetition follows behind it.
-/
theorem validateRound?_cases (guards : Guards data guarded look)
    (inside : cursor.pos ≤ data.length) :
    (∃ result, validateRound? data guarded cursor = some (.inl result) ∧
        ∀ fuel, validateWhile data look (fuel + 1) cursor = result) ∨
      ∃ next, look cursor = (.complete, next) ∧ next.pos ≠ cursor.pos ∧
        validateRound? data guarded cursor = some (.inr next) ∧
        ∀ fuel, validateWhile data look (fuel + 1) cursor = validateWhile data look fuel next := by
  by_cases ended : cursor.left = 0
  · refine .inl ⟨(.complete, cursor), if_pos ended, fun fuel => ?_⟩
    rw [validateWhile_succ, if_pos ended]
  · simp only [validateRound?, validateWhile_succ, if_neg ended]
    cases data[cursor.pos]? with
    | none =>
        exact .inl ⟨_, rfl, fun _ => rfl⟩
    | some head =>
        by_cases zero : head = 0
        · simp only [if_pos zero]
          exact .inl ⟨_, rfl, fun _ => rfl⟩
        · simp only [if_neg zero, guards cursor inside, Option.bind_eq_bind, Option.bind_some]
          rcases look cursor with ⟨outcome, next⟩
          cases outcome with
          | complete =>
              by_cases still : next.pos = cursor.pos
              · simp only [if_pos still, proceed_complete, continueWhile]
                exact .inl ⟨_, rfl, fun _ => rfl⟩
              · simp only [if_neg still, proceed_complete, continueWhile]
                exact .inr ⟨next, rfl, still, rfl, fun _ => rfl⟩
          | incomplete =>
              exact .inl ⟨_, rfl, fun _ => rfl⟩
          | failed =>
              exact .inl ⟨_, rfl, fun _ => rfl⟩

/-- A reader that has moved leaves less of its message. -/
theorem left_lt_of_reaches {start stop : Cursor} (reaches : start.Reaches data stop)
    (moved : stop.pos ≠ start.pos) : stop.left < start.left := by
  have conserved := reaches.conserved
  have forward := reaches.forward
  omega

/-- A round of looking that goes on leaves less of the message. -/
theorem left_lt_of_validateRound? (guards : Guards data guarded look)
    (conserves : Conserves data look) (inside : cursor.pos ≤ data.length) {next : Cursor}
    (goesOn : validateRound? data guarded cursor = some (.inr next)) : next.left < cursor.left := by
  have reaches := conserves cursor
  rcases validateRound?_cases guards inside with
    ⟨result, ends, _⟩ | ⟨found, complete, moved, round, _⟩
  · rw [ends] at goesOn
    cases goesOn
  · rw [round] at goesOn
    cases goesOn
    rw [complete] at reaches
    exact left_lt_of_reaches reaches moved

/-- The rounds of looking end, as each that goes on leaves less of the message. -/
theorem loop?_validateRound? (guards : Guards data guarded look) (conserves : Conserves data look)
    (fuel : Nat) (cursor : Cursor) (inside : cursor.pos ≤ data.length)
    (enough : cursor.left < fuel) :
    loop? (validateRound? data guarded) cursor = some (validateWhile data look fuel cursor) := by
  -- Each round takes at least one byte, so the fuel always exceeds what is left.
  induction fuel generalizing cursor with
  | zero =>
      exact absurd enough (Nat.not_lt_zero _)
  | succ fuel inductionHypothesis =>
      rcases validateRound?_cases guards inside with
        ⟨result, ends, same⟩ | ⟨next, complete, moved, goesOn, same⟩
      · rw [loop?_of_inl ends, same fuel]
      · have reaches := conserves cursor
        rw [complete] at reaches
        have less := left_lt_of_validateRound? guards conserves inside goesOn
        rw [loop?_of_inr goesOn, same fuel]
        exact inductionHypothesis next (reaches.inside inside) (by omega)

end Looking

/-- Looking at any format ends and meets no guard. -/
theorem guards_validate (format : Format) (data : Bytes) :
    Guards data (format.validate? data) (format.validate data) := by
  induction format with
  | unit =>
      exact fun _ _ => rfl
  | byte =>
      exact guards_fixed data 1
  | int16 =>
      exact guards_fixed data 2
  | int32 =>
      exact guards_fixed data 4
  | cstring =>
      exact guards_string data
  | remainder =>
      intro cursor _
      rw [validate?, validate, Cursor.advance?_of_le (Nat.le_refl _)]
      split <;> rfl
  | sized =>
      exact guards_sized data
  | array width item inductionHypothesis =>
      intro cursor inside
      rw [validate?, validate_array, guards_fixed data width.bytes cursor inside]
      apply proceed?_eq
      intro next complete
      rw [countAt?_eq width inside (arrived_of_complete complete)]
      have conserves : Conserves data (validateFixed data width.bytes) :=
        (lawful_fixed width.bytes).reaches data
      exact guards_counted inductionHypothesis (conserves_validate item data) _ next
        (conserves.inside_of_complete complete inside)
  | repeated item inductionHypothesis =>
      intro cursor inside
      exact loop?_validateRound? inductionHypothesis (conserves_validate item data)
        (cursor.left + 1) cursor inside (Nat.lt_succ_self _)
  | field first rest firstHypothesis restHypothesis =>
      intro cursor inside
      rw [validate?, validate_field, firstHypothesis cursor inside]
      apply proceed?_eq
      intro next complete
      exact restHypothesis next
        ((conserves_validate first data).inside_of_complete complete inside)

/-! ## Reading meets no guard -/

section Reading

variable {guarded : Cursor → Option (Except CodecError α × Cursor)}
  {item : Cursor → Except CodecError α × Cursor}

theorem readTimes?_eq (agrees : ∀ cursor, guarded cursor = some (item cursor)) (count : Nat)
    (cursor : Cursor) : readTimes? guarded count cursor = some (readTimes item count cursor) := by
  induction count generalizing cursor with
  | zero =>
      rfl
  | succ count inductionHypothesis =>
      rw [readTimes?, readTimes_succ, agrees cursor]
      apply readOn?_eq
      intro value next _
      rw [inductionHypothesis next]
      rfl

theorem readCounted?_eq (agrees : ∀ cursor, guarded cursor = some (item cursor))
    (count : Option Nat) (cursor : Cursor) :
    readCounted? guarded count cursor = some (readCounted item count cursor) := by
  cases count with
  | none =>
      rfl
  | some count =>
      exact readTimes?_eq agrees count cursor

/--
All that a round of reading can come to, after the items that have been read.  It ends the
repetition, or it has read one more item, and the rest of the repetition follows behind it.
-/
theorem readRound?_cases (agrees : ∀ cursor, guarded cursor = some (item cursor))
    (values : List α) (cursor : Cursor) :
    (∃ result, readRound? data guarded (values, cursor) =
          some (.inl (mapRead (values ++ ·) result)) ∧
        ∀ fuel, readWhile data item (fuel + 1) cursor = result) ∨
      ∃ value next, item cursor = (.ok value, next) ∧
        readRound? data guarded (values, cursor) = some (.inr (values ++ [value], next)) ∧
        ∀ fuel, readWhile data item (fuel + 1) cursor =
          mapRead (List.cons value) (readWhile data item fuel next) := by
  by_cases ended : cursor.left = 0
  · refine .inl ⟨(.ok [], cursor), ?_, fun fuel => ?_⟩
    · rw [readRound?, if_pos ended, mapRead, List.append_nil]
    · rw [readWhile_succ, if_pos ended]
  · simp only [readRound?, readWhile_succ, if_neg ended]
    cases data[cursor.pos]? with
    | none =>
        exact .inl ⟨_, rfl, fun _ => rfl⟩
    | some head =>
        by_cases zero : head = 0
        · simp only [if_pos zero]
          refine .inl ⟨(.ok [], cursor), ?_, fun _ => rfl⟩
          rw [mapRead, List.append_nil]
        · simp only [if_neg zero, agrees cursor, Option.bind_eq_bind, Option.bind_some]
          rcases item cursor with ⟨_ | value, next⟩
          · exact .inl ⟨_, rfl, fun _ => rfl⟩
          · exact .inr ⟨value, next, rfl, rfl, fun _ => rfl⟩

/-- A reading that takes a byte leaves less of its message. -/
theorem Conserves.left_lt_of_ok {value : α} {next : Cursor} (conserves : Conserves data item)
    (spends : Spends item) (done : item cursor = (.ok value, next)) : next.left < cursor.left := by
  have reaches := conserves cursor
  rw [done] at reaches
  exact left_lt_of_reaches reaches (Nat.ne_of_gt (spends cursor value next done))

/-- A round of reading that goes on leaves less of the message. -/
theorem left_lt_of_readRound? (agrees : ∀ cursor, guarded cursor = some (item cursor))
    (conserves : Conserves data item) (spends : Spends item) {values later : List α}
    {next : Cursor}
    (goesOn : readRound? data guarded (values, cursor) = some (.inr (later, next))) :
    next.left < cursor.left := by
  rcases readRound?_cases agrees values cursor with
    ⟨result, ends, _⟩ | ⟨value, found, done, round, _⟩
  · rw [ends] at goesOn
    cases goesOn
  · rw [round] at goesOn
    cases goesOn
    exact conserves.left_lt_of_ok spends done

/-- The rounds of reading end if every item takes a byte. -/
theorem loop?_readRound? (agrees : ∀ cursor, guarded cursor = some (item cursor))
    (conserves : Conserves data item) (spends : Spends item) (fuel : Nat) (values : List α)
    (cursor : Cursor) (enough : cursor.left < fuel) :
    loop? (readRound? data guarded) (values, cursor) =
      some (mapRead (values ++ ·) (readWhile data item fuel cursor)) := by
  -- The items read so far stand in front of those that the plain reader has still to read.
  induction fuel generalizing values cursor with
  | zero =>
      exact absurd enough (Nat.not_lt_zero _)
  | succ fuel inductionHypothesis =>
      rcases readRound?_cases agrees values cursor with
        ⟨result, ends, same⟩ | ⟨value, next, done, goesOn, same⟩
      · rw [loop?_of_inl ends, same fuel]
      · have less := conserves.left_lt_of_ok spends done
        rw [loop?_of_inr goesOn, same fuel, inductionHypothesis _ next (by omega),
          mapRead_mapRead]
        simp only [Function.comp_def, List.append_assoc, List.singleton_append]

end Reading

/-- Reading a format whose repetitions take bytes ends and meets no guard. -/
theorem read?_eq {format : Format} (sound : format.productive = true) (data : Bytes)
    (cursor : Cursor) : format.read? data cursor = some (format.read data cursor) := by
  induction format generalizing cursor with
  | unit =>
      rfl
  | byte =>
      exact readFixed?_eq _ data 1 cursor
  | int16 =>
      exact readFixed?_eq _ data 2 cursor
  | int32 =>
      exact readFixed?_eq _ data 4 cursor
  | cstring =>
      exact readString?_eq data cursor
  | remainder =>
      exact take?_eq data cursor.left cursor
  | sized =>
      exact readSized?_eq data cursor
  | array width item inductionHypothesis =>
      rw [read?, readFixed?_eq, read_array]
      apply readOn?_eq
      intro count next _
      exact readCounted?_eq (inductionHypothesis sound) count next
  | repeated item inductionHypothesis =>
      rw [productive, Bool.and_eq_true] at sound
      have loop := loop?_readRound? (inductionHypothesis sound.2) (conserves_read item data)
        (spends_of_consumes sound.1 data) (cursor.left + 1) [] cursor (Nat.lt_succ_self _)
      rw [read?, loop, read]
      exact congrArg some (mapRead_id _)
  | field first rest firstHypothesis restHypothesis =>
      rw [productive, Bool.and_eq_true] at sound
      rw [read?, firstHypothesis sound.1 cursor, read_field]
      apply readOn?_eq
      intro value next _
      rw [restHypothesis sound.2 next]
      rfl

/-! ## Every run -/

/--
A run of a reader from a cursor.  Its guarded form comes to the same result, so the run ends
and uses no index outside the buffer, and whatever the result is, the cursor is conserved.
-/
structure Contained (data : Bytes) (start : Cursor) (guarded : Option (α × Cursor))
    (plain : α × Cursor) : Prop where
  ends : guarded = some plain
  conserved : plain.2.pos + plain.2.left = start.pos + start.left
  forward : start.pos ≤ plain.2.pos
  inside : plain.2.pos ≤ data.length

theorem Contained.of_reaches {start : Cursor} {guarded : Option (α × Cursor)}
    {plain : α × Cursor} (ends : guarded = some plain) (reaches : start.Reaches data plain.2)
    (inside : start.pos ≤ data.length) : Contained data start guarded plain :=
  ⟨ends, reaches.conserved, reaches.forward, reaches.inside inside⟩

theorem contained_read {format : Format} (sound : format.productive = true) {start : Cursor}
    (inside : start.pos ≤ data.length) :
    Contained data start (format.read? data start) (format.read data start) :=
  Contained.of_reaches (read?_eq sound data start) (conserves_read format data start) inside

/--
Wherever in a buffer they start, looking at any format and reading any format whose repetitions
take bytes end, stay inside the buffer and conserve their cursor.  Reading conserves it in
every other format too.  A round of looking at a repetition that goes on leaves less of the
message, whatever is repeated.  So does a round of reading strings or the fields of an error,
and these repetitions can be read.
-/
theorem readers_conserve_their_cursor (data : Bytes) (start : Cursor)
    (inside : start.pos ≤ data.length) :
    (∀ format : Format,
      Contained data start (format.validate? data start) (format.validate data start) ∧
      start.Reaches data (format.read data start).2 ∧
      (format.productive = true →
        Contained data start (format.read? data start) (format.read data start))) ∧
    (∀ (item : Format) (next : Cursor),
      validateRound? data (item.validate? data) start = some (.inr next) →
        next.left < start.left) ∧
    ∀ item : Format, item = .cstring ∨ item = errorFieldFormat →
      Contained data start ((repeated item).read? data start) ((repeated item).read data start) ∧
      ∀ values later next,
        readRound? data (item.read? data) (values, start) = some (.inr (later, next)) →
          next.left < start.left := by
  refine ⟨fun format => ⟨?_, conserves_read format data start, ?_⟩, ?_, ?_⟩
  · exact Contained.of_reaches (guards_validate format data start inside)
      (conserves_validate format data start) inside
  · exact fun sound => contained_read sound inside
  · intro item next goesOn
    exact left_lt_of_validateRound? (guards_validate item data) (conserves_validate item data)
      inside goesOn
  · intro item either
    have consumes : item.consumes = true := by rcases either with rfl | rfl <;> rfl
    have sound : item.productive = true := by rcases either with rfl | rfl <;> rfl
    refine ⟨contained_read (by rw [productive, consumes, sound]; rfl) inside, ?_⟩
    intro values later next goesOn
    exact left_lt_of_readRound? (read?_eq sound data) (conserves_read item data)
      (spends_of_consumes consumes data) goesOn

/--
The second field of an error is cut off by the end of its message, though the buffer goes on.
Looking and reading stop in front of its text, with the sum that they started with.
-/
theorem cut_error_field_conserves :
    let data : Bytes := [84, 0, 83, 69, 0, 77, 104, 105, 0, 0]
    let start : Cursor := ⟨2, 6⟩
    start.pos ≤ data.length ∧
    Contained data start ((repeated errorFieldFormat).validate? data start) (.failed, ⟨6, 2⟩) ∧
    Contained data start ((repeated errorFieldFormat).read? data start)
      (.error .missingTerminator, ⟨6, 2⟩) ∧
    validateRound? data (errorFieldFormat.validate? data) start = some (.inr ⟨5, 3⟩) ∧
    (3 : Nat) < start.left := by
  intro data start
  have inside : start.pos ≤ data.length := by decide
  have goesOn : validateRound? data (errorFieldFormat.validate? data) start =
      some (.inr ⟨5, 3⟩) := by decide
  rcases readers_conserve_their_cursor data start inside with ⟨runs, looking, reading⟩
  exact ⟨inside, (runs _).1, (reading errorFieldFormat (.inr rfl)).1, goesOn,
    looking _ _ goesOn⟩

end ColumnVeil.Wire.Format
