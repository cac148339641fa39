import ColumnVeil.Proofs.Wire.Reading

/-!
# Verdicts on what has arrived

Looking at a message either waits for more bytes or gives a verdict.  Waiting makes sense
only while bytes of the message are missing: where all of them are in the buffer there is a
verdict, whatever the format.  `Decisive` says so of a way of looking and is carried through
sequences, arrays and repetitions, as the laws of looking are.

The main statement puts the two together: starting afresh whenever bytes arrive, looking
never takes a verdict back and never waits for a byte too many.
-/

namespace ColumnVeil.Wire.Format

/-- Nothing is left open where the whole message is in the buffer. -/
def Decisive (look : Bytes → Cursor → Outcome × Cursor) : Prop :=
  ∀ data cursor, cursor.pos + cursor.left ≤ data.length → (look data cursor).1 ≠ .incomplete

/-! ## Single fields -/

theorem decisive_fixed (width : Nat) : Decisive fun data => validateFixed data width := by
  intro data cursor whole
  have arrived := left_le_available whole
  simp only [validateFixed]
  split
  · exact Outcome.noConfusion
  · rw [if_neg (by omega)]
    exact Outcome.noConfusion

theorem decisive_string : Decisive validateString := by
  intro data cursor whole
  have arrived := left_le_available whole
  simp only [validateString, if_pos arrived]
  split <;> exact Outcome.noConfusion

theorem decisive_remainder : Decisive remainder.validate := by
  intro data cursor whole
  have arrived := left_le_available whole
  simp only [validate, if_neg (Nat.not_lt.mpr arrived)]
  exact Outcome.noConfusion

theorem decisive_sized : Decisive validateSized := by
  intro data cursor whole
  have arrived := left_le_available whole
  simp only [validateSized]
  split
  · exact Outcome.noConfusion
  · rw [if_neg (by omega)]
    split
    · exact Outcome.noConfusion
    · split
      · exact Outcome.noConfusion
      · rw [if_neg (by omega)]
        exact Outcome.noConfusion

/-! ## Sequences, arrays and repetitions -/

theorem decisive_complete : Decisive fun _ cursor => (.complete, cursor) :=
  fun _ _ _ => Outcome.noConfusion

theorem decisive_failed : Decisive fun _ cursor => (.failed, cursor) :=
  fun _ _ _ => Outcome.noConfusion

/-- What follows something whole in a whole message is looked at in a whole message. -/
theorem Decisive.proceed {first : Bytes → Cursor → Outcome × Cursor} (lawful : Lawful first)
    (decisive : Decisive first) {data : Bytes} {cursor : Cursor}
    {next : Cursor → Outcome × Cursor} (whole : cursor.pos + cursor.left ≤ data.length)
    (decisiveNext : ∀ stop : Cursor, stop.pos + stop.left ≤ data.length →
      (next stop).1 ≠ .incomplete) :
    (Format.proceed (first data cursor) next).1 ≠ .incomplete := by
  have decided := decisive data cursor whole
  rcases looked : first data cursor with ⟨outcome, stop⟩
  rw [looked] at decided
  cases outcome with
  | complete =>
      exact decisiveNext stop (whole_of_complete lawful looked whole)
  | incomplete =>
      exact absurd rfl decided
  | failed =>
      exact Outcome.noConfusion

section Items

variable {item : Bytes → Cursor → Outcome × Cursor}

theorem decisive_times (lawful : Lawful item) (decisive : Decisive item) (count : Nat) :
    Decisive fun data => validateTimes (item data) count := by
  induction count with
  | zero =>
      exact decisive_complete
  | succ count inductionHypothesis =>
      intro data cursor whole
      exact decisive.proceed lawful whole fun stop wholeRest =>
        inductionHypothesis data stop wholeRest

theorem decisive_counted (lawful : Lawful item) (decisive : Decisive item)
    (count : Option Nat) : Decisive fun data => validateCounted (item data) count := by
  cases count with
  | none =>
      exact decisive_failed
  | some count =>
      exact decisive_times lawful decisive count

theorem decisive_while (lawful : Lawful item) (decisive : Decisive item) (fuel : Nat) :
    Decisive fun data => validateWhile data (item data) fuel := by
  induction fuel with
  | zero =>
      exact decisive_complete
  | succ fuel inductionHypothesis =>
      intro data cursor whole
      simp only [validateWhile_succ]
      by_cases ended : cursor.left = 0
      · rw [if_pos ended]
        exact Outcome.noConfusion
      · have inside : cursor.pos < data.length := by omega
        rw [if_neg ended, List.getElem?_eq_getElem inside]
        simp only
        split
        · exact Outcome.noConfusion
        · refine decisive.proceed lawful whole ?_
          intro stop wholeRest
          rw [continueWhile]
          split
          · exact Outcome.noConfusion
          · exact inductionHypothesis data stop wholeRest

end Items

/-! ## Every format -/

/-- No format leaves anything open where the whole message is in the buffer. -/
theorem decisive_validate (format : Format) : Decisive format.validate := by
  induction format with
  | unit =>
      exact decisive_complete
  | byte =>
      exact decisive_fixed 1
  | int16 =>
      exact decisive_fixed 2
  | int32 =>
      exact decisive_fixed 4
  | cstring =>
      exact decisive_string
  | remainder =>
      exact decisive_remainder
  | sized =>
      exact decisive_sized
  | array width item inductionHypothesis =>
      intro data cursor whole
      rw [validate_array]
      exact (decisive_fixed width.bytes).proceed (lawful_fixed width.bytes) whole
        fun stop wholeRest =>
          decisive_counted (lawful_validate item) inductionHypothesis _ data stop wholeRest
  | repeated item inductionHypothesis =>
      intro data cursor whole
      exact decisive_while (lawful_validate item) inductionHypothesis (cursor.left + 1) data
        cursor whole
  | field first rest firstHypothesis restHypothesis =>
      intro data cursor whole
      rw [validate_field]
      exact firstHypothesis.proceed (lawful_validate first) whole fun stop wholeRest =>
        restHypothesis data stop wholeRest

/--
A verdict on a value is the same, with the same cursor, however many bytes arrive behind
those that it was reached on; and once all bytes that the message declares have arrived
there is a verdict.
-/
theorem verdicts_stand_and_are_reached (format : Format) (received more : Bytes)
    (cursor : Cursor) :
    ((format.validate received cursor).1 ≠ .incomplete →
        format.validate (received ++ more) cursor = format.validate received cursor) ∧
      (cursor.pos + cursor.left ≤ received.length →
        (format.validate received cursor).1 ≠ .incomplete) := by
  constructor
  · exact (lawful_validate format).settled received more cursor
  · exact decisive_validate format received cursor

/-- Five bytes of a row with one value of one byte leave its length open; the last decides. -/
example :
    ((BodyKind.dataRow.format.validate [0, 1, 0, 0, 0] ⟨0, 7⟩).1,
      (BodyKind.dataRow.format.validate [0, 1, 0, 0, 0, 1, 65] ⟨0, 7⟩)) =
      (.incomplete, .complete, ⟨7, 0⟩) := by
  decide +kernel

end ColumnVeil.Wire.Format
