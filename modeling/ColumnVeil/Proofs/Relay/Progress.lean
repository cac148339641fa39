import ColumnVeil.Proofs.Relay.Securing

/-!
# Progress of the framing

A call upon the framing passes the bytes at hand on, or cuts off a packet or a frame that is
there with all the bytes that it declares, or waits.  Dealing with anything but the server's
answer leaves fewer bytes, so a buffer is dealt with in at most as many rounds as it has bytes.
Waiting is a matter of the bytes alone: no handler is called upon, and nothing changes.
-/

namespace ColumnVeil.Relay

open Wire

/-- What a buffer comes to with its last call: the packet that stops a stream is not passed on. -/
def Taken.concluded {τ : Type} (side : Side) (taken : Taken τ) : Taken τ :=
  if taken.progress = .stopped then { taken with output := taken.output.withhold side } else taken

namespace Framing

variable {τ : Type} {limit : Nat} {handler : Handler τ} {framing : Framing} {state : τ}
  {side : Side} {data : Bytes}

/-! ## One call -/

/-- What a call upon the framing does with the bytes at hand.  A startup packet or a frame that
is cut off has as many bytes as it declares. -/
inductive Deals (limit : Nat) (handler : Handler τ) (framing : Framing) (state : τ) :
    Side → Bytes → Taken τ → Prop
  | waits (side : Side) (data : Bytes) :
      Deals limit handler framing state side data (framing.wait state data)
  | passes (side : Side) (data : Bytes) :
      Deals limit handler framing state side data (framing.passOn state side data)
  | leaves (side : Side) (data : Bytes) (violation : Violation) :
      Deals limit handler framing state side data
        (framing.leave handler state side data violation)
  | reply (data : Bytes) :
      Deals limit handler framing state .backend data (framing.onReply handler state data)
  | startup {data packet rest : Bytes} (split : data = packet ++ rest)
      (declared : packet.length = ofBigEndian (data.take 4)) (header : 8 ≤ packet.length) :
      Deals limit handler framing state .frontend data
        (framing.takeStartup handler state packet rest)
  | message {side : Side} {data frame rest : Bytes} {message : Message}
      (split : data = frame ++ rest)
      (declared : frame.length = ofBigEndian ((data.drop 1).take 4) + 1)
      (header : 5 ≤ frame.length)
      (decoded : Message.ofFrame (MessageKind.ofTag side (data.headD 0)).body
        (some (data.headD 0)) frame 5 = .ok message) :
      Deals limit handler framing state side data
        { progress := .ready, framing, handler := (handler.onMessage side message state).1, rest,
          output := (handler.onMessage side message state).2 }

/-- A startup packet that is cut off takes the bytes that it declares, its header among them. -/
theorem declared_of_startup {length : Nat} (found : startupBeginning data = .message length) :
    length = ofBigEndian (data.take 4) ∧ 8 ≤ length := by
  simp only [startupBeginning] at found
  split at found
  · cases found
  · split at found
    · cases found
    · rename_i fits
      split at found
      · cases found
      · cases found
      · cases found
        exact ⟨rfl, by omega⟩

theorem deals_onStarting :
    Deals limit handler framing state .frontend data (framing.onStarting handler state data) := by
  rw [onStarting_eq]
  cases found : startupBeginning data with
  | undecided =>
      exact .waits .frontend data
  | violation violation =>
      exact .leaves .frontend data violation
  | message length =>
      have inside := length_le_of_startup found
      rcases declared_of_startup found with ⟨declared, header⟩
      have width : (data.take length).length = length := List.length_take_of_le inside
      refine .startup (List.take_append_drop length data).symm ?_ ?_
      · rw [width, declared]
      · rw [width]
        exact header

theorem deals_onMessages :
    Deals limit handler framing state side data
      (framing.onMessages limit handler state side data) := by
  cases found : beginning limit side data with
  | undecided =>
      rw [onMessages_eq, found]
      exact .waits side data
  | violation violation =>
      rw [onMessages_eq, found]
      exact .leaves side data violation
  | message length =>
      rcases whole_of_beginning found with ⟨-, header, declared, -⟩
      have width := List.length_take_of_le (decoded_of_beginning found).1
      rcases onMessages_of_message handler framing state found with ⟨message, decoded, step⟩
      rw [step]
      refine .message (List.take_append_drop length data).symm ?_ ?_ decoded
      · rw [width, declared]
      · rw [width, declared]
        omega

/-- The step lemma: what is cut off the bytes at hand is among them. -/
theorem deals_take :
    Deals limit handler framing state side data
      (framing.take limit handler state side data) := by
  cases phase : framing.phase with
  | outOfSync | encrypted =>
      simp only [take, phase]
      exact .passes side data
  | starting =>
      cases side with
      | backend =>
          simp only [take, phase]
          exact .passes .backend data
      | frontend =>
          simp only [take, phase]
          exact deals_onStarting
  | negotiating =>
      cases side with
      | backend =>
          simp only [take, phase]
          exact .reply data
      | frontend =>
          simp only [take, phase]
          exact .leaves .frontend data _
  | inSync =>
      simp only [take, phase]
      exact deals_onMessages

/-- What is left are the last of the bytes at hand. -/
theorem Deals.exists_split {taken : Taken τ}
    (deals : Deals limit handler framing state side data taken) :
    ∃ front, data = front ++ taken.rest := by
  cases deals with
  | waits side data =>
      exact ⟨[], rfl⟩
  | passes side data | leaves side data violation | reply data =>
      exact ⟨data, (List.append_nil data).symm⟩
  | @startup data packet rest split declared header =>
      rw [rest_takeStartup]
      exact ⟨packet, split⟩
  | @message side data frame rest message split declared header decoded =>
      exact ⟨frame, split⟩

/-! ## Waiting -/

theorem progress_takeStartup (packet rest : Bytes) :
    (framing.takeStartup handler state packet rest).progress ≠ .needMore := by
  simp only [takeStartup]
  split
  · split <;> split <;> exact Progress.noConfusion
  · split <;> exact Progress.noConfusion

/-- Where the framing waits, nothing has changed.  Whether it waits is a matter of the bytes, and
not of the handler. -/
theorem take_eq_wait_of_needMore {κ : Type}
    (waits : (framing.take limit handler state side data).progress = .needMore)
    (other : Handler κ) (others : κ) :
    framing.take limit other others side data = framing.wait others data := by
  cases phase : framing.phase with
  | outOfSync | encrypted =>
      simp only [take, phase] at waits
      cases waits
  | starting =>
      cases side with
      | backend =>
          simp only [take, phase] at waits
          cases waits
      | frontend =>
          simp only [take, phase, onStarting_eq] at waits ⊢
          cases found : startupBeginning data with
          | undecided =>
              rfl
          | violation violation =>
              rw [found] at waits
              cases waits
          | message length =>
              rw [found] at waits
              exact absurd waits (progress_takeStartup _ _)
  | negotiating =>
      cases side <;> simp only [take, phase] at waits <;> cases waits
  | inSync =>
      simp only [take, phase, onMessages_eq] at waits ⊢
      cases found : beginning limit side data with
      | undecided =>
          rfl
      | violation violation =>
          rw [found] at waits
          cases waits
      | message length =>
          have handed := onMessages_of_message handler framing state found
          rw [onMessages_eq, found] at handed
          rcases handed with ⟨message, -, step⟩
          rw [found] at waits
          simp only [step] at waits
          cases waits

/-! ## Whole buffers -/

/-- A buffer is dealt with in some number of calls, and each but the last leaves the rest of the
buffer to the next. -/
inductive Rounds (limit : Nat) (handler : Handler τ) (side : Side) :
    Nat → Framing → τ → Bytes → Taken τ → Prop
  | done (framing : Framing) (state : τ) :
      Rounds limit handler side 0 framing state []
        { progress := .ready, framing, handler := state, rest := [] }
  | last {framing : Framing} {state : τ} {data : Bytes} {taken : Taken τ} (nonempty : data ≠ [])
      (step : framing.take limit handler state side data = taken)
      (rests : taken.progress ≠ .ready) :
      Rounds limit handler side 1 framing state data (taken.concluded side)
  | next {count : Nat} {framing : Framing} {state : τ} {data : Bytes} {taken later : Taken τ}
      (nonempty : data ≠ [])
      (step : framing.take limit handler state side data = taken)
      (ready : taken.progress = .ready)
      (rounds : Rounds limit handler side count taken.framing taken.handler taken.rest later) :
      Rounds limit handler side (count + 1) framing state data (later.after taken.output)

/-- The run lemma: a buffer is dealt with in at most as many calls as it has bytes. -/
theorem exists_rounds (limit : Nat) (handler : Handler τ) (framing : Framing) (state : τ)
    (side : Side) (data : Bytes) :
    ∃ count ≤ data.length, Rounds limit handler side count framing state data
      (framing.drain limit handler state side data) := by
  -- On the length of the buffer, for every state: a call that goes on takes a byte of it.
  induction width : data.length using Nat.strongRecOn generalizing framing state data with
  | ind size inductionHypothesis =>
      by_cases empty : data = []
      · subst empty
        rw [drain_nil]
        exact ⟨0, Nat.zero_le size, .done framing state⟩
      · have positive : 0 < data.length := List.length_pos_iff.mpr empty
        have shorter := length_rest_take handler framing state side limit data empty
        generalize step : framing.take limit handler state side data = taken at shorter
        cases progress : taken.progress with
        | ready =>
            rcases inductionHypothesis taken.rest.length (width ▸ shorter progress) taken.framing
              taken.handler taken.rest rfl with ⟨count, bound, rounds⟩
            rw [drain_of_ready limit handler framing state side empty step progress]
            have fewer := shorter progress
            exact ⟨count + 1, by omega, .next empty step progress rounds⟩
        | needMore =>
            have rests : taken.progress ≠ .ready := by
              rw [progress]
              exact Progress.noConfusion
            have waits : taken = framing.wait state data := by
              rw [← step]
              exact take_eq_wait_of_needMore (step ▸ progress) handler state
            have concluded : taken.concluded side = framing.wait state data := by
              rw [Taken.concluded, progress, if_neg Progress.noConfusion, waits]
            rw [drain_of_needMore limit handler framing state side empty (step.trans waits),
              ← concluded]
            exact ⟨1, by omega, .last empty step rests⟩
        | stopped =>
            have rests : taken.progress ≠ .ready := by
              rw [progress]
              exact Progress.noConfusion
            have concluded : taken.concluded side =
                { taken with output := taken.output.withhold side } := by
              rw [Taken.concluded, if_pos progress]
            rw [drain_of_stopped limit handler framing state side empty step progress,
              ← concluded]
            exact ⟨1, by omega, .last empty step rests⟩

/-! ## The main result -/

/--
The framing progresses, and stays within its buffer.  For every state, side, limit, handler and
non-empty buffer, a call deals with the bytes at hand, and what is cut off has the declared
length and is among them; what is left are the last of them.  If the call goes on, at least one
byte has been dealt with, so a whole buffer is dealt with in at most as many calls as it has
bytes.  If it waits for more bytes, then nothing has changed and there is no output: calling
again comes to the same, and so it does with any other handler in any state, so none is called
upon.
-/
theorem taking_progresses_within_the_buffer (limit : Nat) (handler : Handler τ)
    (framing : Framing) (state : τ) (side : Side) {data : Bytes} (nonempty : data ≠ []) :
    let taken := framing.take limit handler state side data
    Deals limit handler framing state side data taken ∧
    (∃ front, data = front ++ taken.rest ∧ (taken.progress = .ready → front ≠ [])) ∧
    (∃ count ≤ data.length, Rounds limit handler side count framing state data
      (framing.drain limit handler state side data)) ∧
    (taken.progress = .needMore →
      taken = { progress := .needMore, framing, handler := state, rest := data, output := {} } ∧
      taken.framing.take limit handler taken.handler side taken.rest = taken ∧
      ∀ (κ : Type) (other : Handler κ) (others : κ),
        framing.take limit other others side data = framing.wait others data) := by
  intro taken
  have deals : Deals limit handler framing state side data taken := deals_take
  refine ⟨deals, ?_, exists_rounds limit handler framing state side data, fun waits => ?_⟩
  · rcases deals.exists_split with ⟨front, split⟩
    refine ⟨front, split, fun ready none => ?_⟩
    have shorter := length_rest_take handler framing state side limit data nonempty ready
    rw [none, List.nil_append] at split
    exact absurd (congrArg List.length split).symm (Nat.ne_of_lt shorter)
  · have same : taken = framing.wait state data := take_eq_wait_of_needMore waits handler state
    refine ⟨same, ?_, fun κ => take_eq_wait_of_needMore waits⟩
    rw [same]
    exact same

/-- Four bytes of a Sync, which has five, wait for the last one. -/
theorem startOfSync_waits :
    let data : Bytes := [ascii 'S', 0, 0, 0]
    let framing : Framing := { phase := .inSync }
    data ≠ [] ∧
      framing.take 16 Course.securing () .frontend data = framing.wait () data ∧
      ∃ count ≤ 4, Rounds 16 Course.securing .frontend count framing () data
        (framing.drain 16 Course.securing () .frontend data) := by
  intro data framing
  have nonempty : data ≠ [] := List.cons_ne_nil _ _
  rcases taking_progresses_within_the_buffer 16 Course.securing framing () .frontend nonempty with
    ⟨-, -, rounds, waits⟩
  exact ⟨nonempty, (waits rfl).1, rounds⟩

end Framing

end ColumnVeil.Relay
