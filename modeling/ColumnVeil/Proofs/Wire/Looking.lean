import ColumnVeil.Wire.Message

/-!
# Looking at a value

A message is looked at as soon as its first bytes are there, and again whenever more have
arrived.  Three laws make this sound, and every format obeys them: the cursor stays within
the buffer and within the message; a verdict that has been reached does not change when
more bytes arrive; and what stands in front of a value does not matter to it.

The laws are stated for any way of looking (`Lawful`) and carried through sequences,
arrays and repetitions, so that a format obeys them by induction on its layout.
-/

namespace ColumnVeil.Wire

namespace Cursor

/--
A reader that starts at one cursor may stop at the other: it only goes forward, it
takes from the message what it passes, and it does not leave the buffer.
-/
structure Reaches (data : Bytes) (start stop : Cursor) : Prop where
  conserved : stop.pos + stop.left = start.pos + start.left
  forward : start.pos ≤ stop.pos
  inside : start.pos ≤ data.length → stop.pos ≤ data.length

/-- The same place in a message that begins later in its buffer. -/
def shift (width : Nat) (cursor : Cursor) : Cursor :=
  ⟨width + cursor.pos, cursor.left⟩

@[simp]
theorem pos_shift (width : Nat) (cursor : Cursor) :
    (cursor.shift width).pos = width + cursor.pos := rfl

@[simp]
theorem left_shift (width : Nat) (cursor : Cursor) :
    (cursor.shift width).left = cursor.left := rfl

@[simp]
theorem pos_advance (width : Nat) (cursor : Cursor) :
    (cursor.advance width).pos = cursor.pos + width := rfl

@[simp]
theorem left_advance (width : Nat) (cursor : Cursor) :
    (cursor.advance width).left = cursor.left - width := rfl

theorem advance_shift (before width : Nat) (cursor : Cursor) :
    (cursor.shift before).advance width = (cursor.advance width).shift before := by
  simp [shift, advance, Nat.add_assoc]

variable {data : Bytes} {start middle stop : Cursor}

theorem Reaches.refl (data : Bytes) (cursor : Cursor) : Reaches data cursor cursor :=
  ⟨rfl, Nat.le_refl _, id⟩

theorem Reaches.trans (first : Reaches data start middle) (second : Reaches data middle stop) :
    Reaches data start stop where
  conserved := second.conserved.trans first.conserved
  forward := Nat.le_trans first.forward second.forward
  inside := fun begun => second.inside (first.inside begun)

theorem reaches_advance {width : Nat} (declared : width ≤ start.left)
    (arrived : start.pos ≤ data.length → start.pos + width ≤ data.length) :
    Reaches data start (start.advance width) where
  conserved := by
    simp only [pos_advance, left_advance]
    omega
  forward := Nat.le_add_right _ _
  inside := arrived

end Cursor

namespace Format

/-! ## Sequences -/

/-- Go on from where something whole ends. -/
def proceed (result : Outcome × Cursor) (next : Cursor → Outcome × Cursor) : Outcome × Cursor :=
  match result with
  | (.complete, cursor) => next cursor
  | stopped => stopped

@[simp]
theorem proceed_complete (cursor : Cursor) (next : Cursor → Outcome × Cursor) :
    proceed (.complete, cursor) next = next cursor := rfl

theorem validateTimes_succ (item : Cursor → Outcome × Cursor) (count : Nat) (cursor : Cursor) :
    validateTimes item (count + 1) cursor = proceed (item cursor) (validateTimes item count) := rfl

theorem validate_field (first rest : Format) (data : Bytes) (cursor : Cursor) :
    (field first rest).validate data cursor =
      proceed (first.validate data cursor) (rest.validate data) := rfl

/-- Look at as many items as a count says. -/
def validateCounted (item : Cursor → Outcome × Cursor) (count : Option Nat) (cursor : Cursor) :
    Outcome × Cursor :=
  match count with
  | none => (.failed, cursor)
  | some count => validateTimes item count cursor

theorem validate_array (width : CountWidth) (item : Format) (data : Bytes) (cursor : Cursor) :
    (array width item).validate data cursor =
      proceed (validateFixed data width.bytes cursor)
        (validateCounted (item.validate data)
          (width.count? ((data.drop cursor.pos).take width.bytes))) := rfl

/-! ## The laws of looking -/

/-- The laws of a way of looking at a value. -/
structure Lawful (look : Bytes → Cursor → Outcome × Cursor) : Prop where
  /-- The cursor stays within the buffer and the message. -/
  reaches (data : Bytes) (cursor : Cursor) : cursor.Reaches data (look data cursor).2
  /-- A verdict stands whatever arrives later. -/
  settled (data more : Bytes) (cursor : Cursor) :
    (look data cursor).1 ≠ .incomplete → look (data ++ more) cursor = look data cursor
  /-- What stands in front of the value does not matter. -/
  shifted (before data : Bytes) (cursor : Cursor) :
    look (before ++ data) (cursor.shift before.length) =
      (look data cursor).map id (Cursor.shift before.length)

theorem drop_shift (before data : Bytes) (cursor : Cursor) :
    (before ++ data).drop (cursor.shift before.length).pos = data.drop cursor.pos := by
  rw [Cursor.pos_shift, ← List.drop_drop, List.drop_left]

theorem available_shift (before data : Bytes) (cursor : Cursor) :
    available (before ++ data) (cursor.shift before.length).pos = available data cursor.pos := by
  simp only [available, List.length_append, Cursor.pos_shift]
  omega

/-- Bytes that have arrived stay the same when more arrive. -/
theorem take_drop_append {data : Bytes} {pos width : Nat} (arrived : width ≤ available data pos)
    (more : Bytes) : ((data ++ more).drop pos).take width = (data.drop pos).take width := by
  rw [available] at arrived
  by_cases inside : pos ≤ data.length
  · rw [List.drop_append_of_le_length inside, List.take_append_of_le_length]
    rw [List.length_drop]
    exact arrived
  · have empty : width = 0 := by omega
    rw [empty, List.take_zero, List.take_zero]

theorem available_append (data more : Bytes) (pos : Nat) :
    available data pos ≤ available (data ++ more) pos := by
  simp only [available, List.length_append]
  omega

theorem lawful_fixed (width : Nat) : Lawful fun data => validateFixed data width where
  reaches := by
    intro data cursor
    simp only [validateFixed]
    split
    · exact Cursor.Reaches.refl data cursor
    · split
      · exact Cursor.Reaches.refl data cursor
      · rename_i declared arrived
        refine Cursor.reaches_advance (Nat.le_of_not_lt declared) ?_
        rw [available] at arrived
        omega
  settled := by
    intro data more cursor
    have grows := available_append data more cursor.pos
    simp only [validateFixed]
    split
    · exact fun _ => rfl
    · split
      · exact fun undecided => absurd rfl undecided
      · rw [if_neg (by omega)]
        exact fun _ => rfl
  shifted := by
    intro before data cursor
    simp only [validateFixed, available_shift, Cursor.left_shift, Cursor.advance_shift]
    split
    · rfl
    · split <;> rfl

/-- What is found whole has arrived. -/
theorem arrived_of_complete {data : Bytes} {width : Nat} {cursor next : Cursor}
    (complete : validateFixed data width cursor = (.complete, next)) :
    width ≤ available data cursor.pos := by
  rw [validateFixed] at complete
  split at complete
  · cases complete
  · split at complete
    · cases complete
    · rename_i arrived
      exact Nat.le_of_not_lt arrived

/-- What has arrived of a message is the start of what will have arrived of it. -/
theorem window_append (data more : Bytes) (cursor : Cursor) :
    ∃ later,
      ((data ++ more).drop cursor.pos).take
          (min (available (data ++ more) cursor.pos) cursor.left) =
        (data.drop cursor.pos).take (min (available data cursor.pos) cursor.left) ++ later := by
  have grows := available_append data more cursor.pos
  have kept := take_drop_append (Nat.min_le_left (available data cursor.pos) cursor.left) more
  have width : min (available (data ++ more) cursor.pos) cursor.left =
      min (available data cursor.pos) cursor.left +
        (min (available (data ++ more) cursor.pos) cursor.left
          - min (available data cursor.pos) cursor.left) := by
    omega
  rw [width, List.take_add, kept]
  exact ⟨_, rfl⟩

theorem lawful_string : Lawful validateString where
  reaches := by
    intro data cursor
    simp only [validateString]
    split
    · rename_i index found
      have bound := (List.findIdx?_eq_some_iff_getElem.mp found).1
      rw [List.length_take, List.length_drop] at bound
      simp only [available] at bound
      exact Cursor.reaches_advance (by omega) (by omega)
    · split <;> exact Cursor.Reaches.refl data cursor
  settled := by
    intro data more cursor
    have grows := available_append data more cursor.pos
    rcases window_append data more cursor with ⟨later, window⟩
    simp only [validateString, window, List.findIdx?_append]
    split
    · rename_i index found
      intro _
      rw [found]
      rfl
    · rename_i absent
      split
      · rename_i whole
        intro _
        -- Nothing more of the message can arrive.
        have nothing : later = [] := by
          have lengths := congrArg List.length window
          rw [List.length_append, List.length_take, List.length_take, List.length_drop,
            List.length_drop] at lengths
          simp only [available] at lengths whole
          exact List.length_eq_zero_iff.mp (by omega)
        rw [absent, nothing]
        simp only [List.findIdx?_nil, Option.map_none, Option.or_none]
        rw [if_pos (Nat.le_trans whole grows)]
      · exact fun undecided => absurd rfl undecided
  shifted := by
    intro before data cursor
    simp only [validateString, available_shift, drop_shift, Cursor.left_shift,
      Cursor.advance_shift]
    split
    · rfl
    · split <;> rfl

theorem lawful_remainder : Lawful remainder.validate where
  reaches := by
    intro data cursor
    simp only [validate]
    split
    · exact Cursor.Reaches.refl data cursor
    · rename_i arrived
      refine Cursor.reaches_advance (Nat.le_refl _) ?_
      rw [available] at arrived
      omega
  settled := by
    intro data more cursor
    have grows := available_append data more cursor.pos
    simp only [validate]
    split
    · exact fun undecided => absurd rfl undecided
    · rw [if_neg (by omega)]
      exact fun _ => rfl
  shifted := by
    intro before data cursor
    simp only [validate, available_shift, Cursor.left_shift, Cursor.advance_shift]
    split <;> rfl

theorem lawful_sized : Lawful validateSized where
  reaches := by
    intro data cursor
    simp only [validateSized]
    split
    · exact Cursor.Reaches.refl data cursor
    · split
      · exact Cursor.Reaches.refl data cursor
      · rename_i declared arrived
        rw [available] at arrived
        split
        · exact Cursor.reaches_advance (by omega) (by omega)
        · split
          · exact Cursor.Reaches.refl data cursor
          · split
            · exact Cursor.Reaches.refl data cursor
            · rename_i fits whole
              rw [available] at whole
              exact Cursor.reaches_advance (by omega) (by omega)
  settled := by
    intro data more cursor
    have grows := available_append data more cursor.pos
    simp only [validateSized]
    split
    · exact fun _ => rfl
    · split
      · exact fun undecided => absurd rfl undecided
      · rename_i arrived
        have arrivedLater : ¬ available (data ++ more) cursor.pos < 4 := by omega
        rw [if_neg arrivedLater, take_drop_append (Nat.le_of_not_lt arrived)]
        split
        · exact fun _ => rfl
        · split
          · exact fun _ => rfl
          · split
            · exact fun undecided => absurd rfl undecided
            · rename_i whole
              rw [if_neg (Nat.not_lt.mpr (Nat.le_trans (Nat.le_of_not_lt whole) grows))]
              exact fun _ => rfl
  shifted := by
    intro before data cursor
    simp only [validateSized, available_shift, drop_shift, Cursor.left_shift,
      Cursor.advance_shift]
    repeat' split
    all_goals rfl

/-! ## Sequences, arrays and repetitions -/

theorem lawful_complete : Lawful fun _ cursor => (.complete, cursor) where
  reaches := fun data cursor => Cursor.Reaches.refl data cursor
  settled := fun _ _ _ _ => rfl
  shifted := fun _ _ _ => rfl

theorem lawful_failed : Lawful fun _ cursor => (.failed, cursor) where
  reaches := fun data cursor => Cursor.Reaches.refl data cursor
  settled := fun _ _ _ _ => rfl
  shifted := fun _ _ _ => rfl

section Proceeding

variable {data : Bytes} {start : Cursor} {result later : Outcome × Cursor}
  {next nextLater : Cursor → Outcome × Cursor}

theorem reaches_proceed (first : start.Reaches data result.2)
    (rest : ∀ cursor : Cursor, cursor.Reaches data (next cursor).2) :
    start.Reaches data (proceed result next).2 := by
  rcases result with ⟨outcome, cursor⟩
  cases outcome with
  | complete =>
      exact first.trans (rest cursor)
  | incomplete =>
      exact first
  | failed =>
      exact first

theorem settled_proceed (first : result.1 ≠ .incomplete → later = result)
    (rest : result.1 = .complete → (next result.2).1 ≠ .incomplete →
      nextLater result.2 = next result.2) :
    (proceed result next).1 ≠ .incomplete → proceed later nextLater = proceed result next := by
  intro decided
  rcases result with ⟨outcome, cursor⟩
  cases outcome with
  | complete =>
      rw [first Outcome.noConfusion]
      exact rest rfl decided
  | incomplete =>
      exact absurd rfl decided
  | failed =>
      rw [first Outcome.noConfusion]
      rfl

theorem shifted_proceed {width : Nat}
    (rest : ∀ cursor : Cursor,
      nextLater (cursor.shift width) = (next cursor).map id (Cursor.shift width)) :
    proceed (result.map id (Cursor.shift width)) nextLater =
      (proceed result next).map id (Cursor.shift width) := by
  rcases result with ⟨outcome, cursor⟩
  cases outcome with
  | complete =>
      exact rest cursor
  | incomplete =>
      rfl
  | failed =>
      rfl

end Proceeding

/--
Two ways of looking in a row.  The second may depend on a key, which is taken from what
the first has found whole.
-/
theorem Lawful.proceed {κ : Type} {first : Bytes → Cursor → Outcome × Cursor}
    (lawful : Lawful first) (second : κ → Bytes → Cursor → Outcome × Cursor)
    (key : Bytes → Cursor → κ) (lawfulNext : ∀ found, Lawful (second found))
    (keySettled : ∀ data more cursor,
      (first data cursor).1 = .complete → key (data ++ more) cursor = key data cursor)
    (keyShifted : ∀ before data cursor,
      key (before ++ data) (cursor.shift before.length) = key data cursor) :
    Lawful fun data cursor =>
      Format.proceed (first data cursor) (second (key data cursor) data) where
  reaches := by
    intro data cursor
    exact reaches_proceed (lawful.reaches data cursor) ((lawfulNext _).reaches data)
  settled := by
    intro data more cursor
    apply settled_proceed (lawful.settled data more cursor)
    intro complete
    rw [keySettled data more cursor complete]
    exact (lawfulNext _).settled data more _
  shifted := by
    intro before data cursor
    rw [keyShifted, lawful.shifted]
    exact shifted_proceed ((lawfulNext _).shifted before data)

theorem lawful_times {item : Bytes → Cursor → Outcome × Cursor} (lawful : Lawful item)
    (count : Nat) : Lawful fun data => validateTimes (item data) count := by
  induction count with
  | zero =>
      exact lawful_complete
  | succ count inductionHypothesis =>
      exact lawful.proceed (fun _ : Unit => _) (fun _ _ => ()) (fun _ => inductionHypothesis)
        (fun _ _ _ _ => rfl) (fun _ _ _ => rfl)

theorem lawful_counted {item : Bytes → Cursor → Outcome × Cursor} (lawful : Lawful item)
    (count : Option Nat) : Lawful fun data => validateCounted (item data) count := by
  cases count with
  | none =>
      exact lawful_failed
  | some count =>
      exact lawful_times lawful count

/-- What a repetition makes of an item: an item without bytes is refused. -/
def continueWhile (data : Bytes) (item : Cursor → Outcome × Cursor) (fuel : Nat)
    (cursor next : Cursor) : Outcome × Cursor :=
  if next.pos = cursor.pos then (.failed, next) else validateWhile data item fuel next

/-- A round of a repetition: the end, the zero byte behind the items, or one more item. -/
theorem validateWhile_succ (data : Bytes) (item : Cursor → Outcome × Cursor) (fuel : Nat)
    (cursor : Cursor) :
    validateWhile data item (fuel + 1) cursor =
      if cursor.left = 0 then (.complete, cursor)
      else match data[cursor.pos]? with
        | none => (.incomplete, cursor)
        | some next =>
            if next = 0 then (.complete, cursor)
            else proceed (item cursor) (continueWhile data item fuel cursor) := by
  rw [validateWhile]
  split
  · rfl
  · cases found : data[cursor.pos]? with
    | none =>
        rfl
    | some next =>
        by_cases zero : next = 0
        · rw [zero]
          rfl
        · simp only [if_neg zero]
          rcases item cursor with ⟨outcome, stop⟩
          cases outcome <;> rfl

theorem lawful_while {item : Bytes → Cursor → Outcome × Cursor} (lawful : Lawful item)
    (fuel : Nat) : Lawful fun data => validateWhile data (item data) fuel := by
  induction fuel with
  | zero =>
      exact lawful_complete
  | succ fuel inductionHypothesis =>
      constructor
      case reaches =>
        intro data cursor
        have round (next : Cursor) :
            next.Reaches data (continueWhile data (item data) fuel cursor next).2 := by
          rw [continueWhile]
          split
          · exact Cursor.Reaches.refl data next
          · exact inductionHypothesis.reaches data next
        rw [validateWhile_succ]
        split
        · exact Cursor.Reaches.refl data cursor
        · split
          · exact Cursor.Reaches.refl data cursor
          · split
            · exact Cursor.Reaches.refl data cursor
            · exact reaches_proceed (lawful.reaches data cursor) round
      case settled =>
        intro data more cursor
        rw [validateWhile_succ, validateWhile_succ]
        split
        · exact fun _ => rfl
        · cases found : data[cursor.pos]? with
          | none =>
              exact fun undecided => absurd rfl undecided
          | some head =>
              have inside := (List.getElem?_eq_some_iff.mp found).1
              rw [List.getElem?_append_left inside, found]
              simp only
              split
              · exact fun _ => rfl
              · apply settled_proceed (lawful.settled data more cursor)
                intro _
                rw [continueWhile, continueWhile]
                split
                · exact fun _ => rfl
                · exact inductionHypothesis.settled data more _
      case shifted =>
        intro before data cursor
        have place : (before ++ data)[(cursor.shift before.length).pos]? = data[cursor.pos]? := by
          rw [Cursor.pos_shift, List.getElem?_append_right (Nat.le_add_right _ _),
            Nat.add_sub_cancel_left]
        rw [validateWhile_succ, validateWhile_succ, place, Cursor.left_shift, lawful.shifted]
        split
        · rfl
        · cases data[cursor.pos]? with
          | none =>
              rfl
          | some head =>
              simp only
              split
              · rfl
              · apply shifted_proceed
                intro next
                simp only [continueWhile, Cursor.pos_shift, Nat.add_left_cancel_iff]
                split
                · rfl
                · exact inductionHypothesis.shifted before data next

/-- Every format obeys the laws of looking. -/
theorem lawful_validate (format : Format) : Lawful format.validate := by
  induction format with
  | unit =>
      exact lawful_complete
  | byte =>
      exact lawful_fixed 1
  | int16 =>
      exact lawful_fixed 2
  | int32 =>
      exact lawful_fixed 4
  | cstring =>
      exact lawful_string
  | remainder =>
      exact lawful_remainder
  | sized =>
      exact lawful_sized
  | array width item inductionHypothesis =>
      refine (lawful_fixed width.bytes).proceed
        (fun count data => validateCounted (item.validate data) count)
        (fun data cursor => width.count? ((data.drop cursor.pos).take width.bytes))
        (lawful_counted inductionHypothesis) ?_ ?_
      · intro data more cursor complete
        have arrived := arrived_of_complete (Prod.ext complete rfl)
        simp only [take_drop_append arrived more]
      · intro before data cursor
        simp only [drop_shift]
  | repeated item inductionHypothesis =>
      have lawful (fuel : Nat) := lawful_while inductionHypothesis fuel
      exact
        { reaches := fun data cursor => (lawful (cursor.left + 1)).reaches data cursor
          settled := fun data more cursor => (lawful (cursor.left + 1)).settled data more cursor
          shifted := fun before data cursor =>
            (lawful (cursor.left + 1)).shifted before data cursor }
  | field first rest firstHypothesis restHypothesis =>
      exact firstHypothesis.proceed (fun _ : Unit => _) (fun _ _ => ()) (fun _ => restHypothesis)
        (fun _ _ _ _ => rfl) (fun _ _ _ => rfl)

end Format

end ColumnVeil.Wire
