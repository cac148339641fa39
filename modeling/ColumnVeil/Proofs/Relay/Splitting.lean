import ColumnVeil.Proofs.Relay.Frames
import ColumnVeil.Proofs.Relay.Release
import ColumnVeil.Relay.Session

/-!
# Splitting a stream into reads

The bytes of a stream arrive in reads that may end anywhere.  What a session does does not
depend on where: the bytes of two reads, received one after the other, lead to the state
and to the output that they lead to together.  This holds as long as the connection leaves
encryption to the ends (`Transport.Passive`); a connection that secures itself rests in
between, and a read that is cut elsewhere may meet it in another state.

The step lemma says what more bytes change about dealing with one message (`Extends`); the
run lemma follows the framing through a buffer by induction on its length.
-/

namespace ColumnVeil.Relay

open Wire

/-! ## What a stream begins with, when more of it arrives -/

namespace Framing

theorem headD_append {data : Bytes} (nonempty : data ≠ []) (more : Bytes) :
    (data ++ more).headD 0 = data.headD 0 := by
  cases data with
  | nil =>
      exact absurd rfl nonempty
  | cons head tail =>
      rfl

/-- What a stream begins with does not change once it is known. -/
theorem beginning_append {limit : Nat} {side : Side} {data : Bytes}
    (decided : beginning limit side data ≠ .undecided) (more : Bytes) :
    beginning limit side (data ++ more) = beginning limit side data := by
  revert decided
  by_cases short : data.length < 5
  · rw [beginning, if_pos short]
    exact fun undecided => absurd rfl undecided
  · have shortLater : ¬ (data ++ more).length < 5 := by
      rw [List.length_append]
      omega
    have nonempty : data ≠ [] := by
      rintro rfl
      exact short (by decide)
    have arrived : 4 ≤ Format.available data 1 := by
      rw [Format.available]
      omega
    rw [beginning, beginning, if_neg short, if_neg shortLater, headD_append nonempty,
      Format.take_drop_append arrived]
    generalize MessageKind.ofTag side (data.headD 0) = kind
    generalize ofBigEndian ((data.drop 1).take 4) = length
    have settled := (Format.lawful_validate kind.body.format).settled data more ⟨5, length - 4⟩
    simp only
    split
    · exact fun _ => rfl
    · split
      · exact fun _ => rfl
      · rcases looked : kind.body.format.validate data ⟨5, length - 4⟩ with ⟨outcome, cursor⟩
        rw [looked] at settled
        cases outcome with
        | complete =>
            rw [settled Outcome.noConfusion]
            exact fun _ => rfl
        | incomplete =>
            exact fun undecided => absurd rfl undecided
        | failed =>
            rw [settled Outcome.noConfusion]
            exact fun _ => rfl

/-- What the bytes of a client begin with before its startup packet. -/
def startupBeginning (data : Bytes) : Beginning :=
  if data.length < 4 then .undecided
  else
    let length := ofBigEndian (data.take 4)
    if maxStartupLength < length ∨ length < 8 then .violation (.startupLength length)
    else match (MessageKind.startup.body.format.validate data ⟨4, length - 4⟩).1 with
      | .incomplete => .undecided
      | .failed => .violation .startupMalformed
      | .complete => .message length

variable {τ : Type}

/-- The framing acts on what the bytes of the client begin with. -/
theorem onStarting_eq (handler : Handler τ) (framing : Framing) (state : τ) (data : Bytes) :
    framing.onStarting handler state data =
      match startupBeginning data with
      | .undecided => framing.wait state data
      | .violation violation => framing.leave handler state .frontend data violation
      | .message length =>
        framing.takeStartup handler state (data.take length) (data.drop length) := by
  simp only [onStarting, startupBeginning]
  split
  · rfl
  · split
    · rfl
    · generalize (Format.validate _ data _).1 = outcome
      cases outcome with
      | complete =>
          rfl
      | incomplete =>
          rfl
      | failed =>
          rfl

theorem startupBeginning_append {data : Bytes} (decided : startupBeginning data ≠ .undecided)
    (more : Bytes) : startupBeginning (data ++ more) = startupBeginning data := by
  revert decided
  by_cases short : data.length < 4
  · rw [startupBeginning, if_pos short]
    exact fun undecided => absurd rfl undecided
  · have arrived : 4 ≤ data.length := Nat.le_of_not_lt short
    have shortLater : ¬ (data ++ more).length < 4 := by
      rw [List.length_append]
      omega
    rw [startupBeginning, startupBeginning, if_neg short, if_neg shortLater,
      List.take_append_of_le_length arrived]
    generalize ofBigEndian (data.take 4) = length
    have settled := (Format.lawful_validate MessageKind.startup.body.format).settled data more
      ⟨4, length - 4⟩
    simp only
    split
    · exact fun _ => rfl
    · cases found : (MessageKind.startup.body.format.validate data ⟨4, length - 4⟩).1 with
      | complete =>
          rw [settled (by rw [found]; exact Outcome.noConfusion), found]
          exact fun _ => rfl
      | incomplete =>
          exact fun undecided => absurd rfl undecided
      | failed =>
          rw [settled (by rw [found]; exact Outcome.noConfusion), found]
          exact fun _ => rfl

/-- A startup packet takes all the bytes that it declares. -/
theorem left_of_startup {data : Bytes} {cursor next : Cursor}
    (complete : MessageKind.startup.body.format.validate data cursor = (.complete, next)) :
    next.left = 0 := by
  simp only [MessageKind.startup, BodyKind.format, Format.validate_field] at complete
  rcases Format.complete_of_proceed complete with ⟨behindCode, -, complete⟩
  rcases Format.complete_of_proceed complete with ⟨behindTexts, -, complete⟩
  rcases Format.complete_of_proceed complete with ⟨behindAll, found, ended⟩
  cases ended
  simp only [Format.validate] at found
  split at found
  · cases found
  · cases found
    exact Nat.sub_self _

/-- A startup packet that is cut out of a stream is in the buffer. -/
theorem length_le_of_startup {data : Bytes} {length : Nat}
    (found : startupBeginning data = .message length) : length ≤ data.length := by
  simp only [startupBeginning] at found
  split at found
  · cases found
  · rename_i arrived
    split at found
    · cases found
    · rename_i fits
      rcases looked : MessageKind.startup.body.format.validate data
          ⟨4, ofBigEndian (data.take 4) - 4⟩ with ⟨outcome, next⟩
      rw [looked] at found
      cases outcome with
      | complete =>
          cases found
          have whole := Format.length_le_of_complete (Format.lawful_validate _)
            (Nat.le_of_not_lt arrived) looked (left_of_startup looked)
          simp only at whole
          omega
      | incomplete =>
          cases found
      | failed =>
          cases found

/-! ## One step -/

end Framing

/-- A handler that leaves encryption to the ends of the connection. -/
structure Handler.Passive {τ : Type} (handler : Handler τ) : Prop where
  passes (state : τ) : (handler.passesRequest state).1 = true
  plain (state : τ) : handler.wantsEncryption state = false

/-- What a call upon the framing came to, behind the output of an earlier one. -/
def Taken.after {τ : Type} (later : Taken τ) (output : Output) : Taken τ :=
  { later with output := output ++ later.output }

namespace Framing

variable {τ : Type}

/-- Whatever arrives from a side is passed on, now and later. -/
def Passes (framing : Framing) (side : Side) : Prop :=
  framing.phase = .outOfSync ∨ framing.phase = .encrypted ∨
    (framing.phase = .starting ∧ side = .backend)

theorem take_of_passes {framing : Framing} {side : Side} (passes : framing.Passes side)
    (limit : Nat) (handler : Handler τ) (state : τ) (data : Bytes) :
    framing.take limit handler state side data = framing.passOn state side data := by
  rcases passes with phase | phase | ⟨phase, rfl⟩ <;> simp only [take, phase]

/--
What more bytes behind a buffer change about dealing with what it begins with.  Either they
are left for the next step with the rest of the buffer, or they are passed on with it.
-/
inductive Extends (side : Side) (more : Bytes) : Taken τ → Taken τ → Prop
  | goesOn (framing : Framing) (synced : framing.phase ≠ .negotiating) (handler : τ)
      (rest : Bytes) (output : Output) :
      Extends side more { progress := .ready, framing, handler, rest, output }
        { progress := .ready, framing, handler, rest := rest ++ more, output }
  | passesOn (framing : Framing) (passes : framing.Passes side) (handler : τ) (output : Output) :
      Extends side more { progress := .ready, framing, handler, rest := [], output }
        { progress := .ready, framing, handler, rest := [],
          output := output ++ .forward side more }

theorem forward_append (side : Side) (first second : Bytes) :
    Output.forward side (first ++ second) =
      Output.forward side first ++ Output.forward side second := by
  cases side <;> ext1 <;> simp [Output.forward]

theorem extends_passOn {framing : Framing} {side : Side} (passes : framing.Passes side)
    (state : τ) (data more : Bytes) :
    Extends side more (framing.passOn state side data)
      (framing.passOn state side (data ++ more)) := by
  rw [passOn, passOn, forward_append]
  exact Extends.passesOn framing passes state _

theorem extends_leave (handler : Handler τ) (framing : Framing) (state : τ) (side : Side)
    (data more : Bytes) (violation : Violation) :
    Extends side more (framing.leave handler state side data violation)
      (framing.leave handler state side (data ++ more) violation) := by
  simp only [leave, forward_append, ← Output.append_assoc]
  exact Extends.passesOn _ (Or.inl rfl) _ _

theorem extends_takeMessage (handler : Handler τ) {framing : Framing}
    (synced : framing.phase ≠ .negotiating) (state : τ) (side : Side) (kind : MessageKind)
    (tag : UInt8) (frame rest more : Bytes) :
    Extends side more (framing.takeMessage handler state side kind tag frame rest)
      (framing.takeMessage handler state side kind tag frame (rest ++ more)) := by
  simp only [takeMessage]
  split
  · exact Extends.goesOn framing synced state rest _
  · exact Extends.goesOn framing synced _ rest _

theorem extends_takeStartup {handler : Handler τ} (passive : handler.Passive)
    {framing : Framing} (state : τ) (side : Side) (packet rest more : Bytes) :
    Extends side more (framing.takeStartup handler state packet rest)
      (framing.takeStartup handler state packet (rest ++ more)) := by
  simp only [takeStartup, passive.plain]
  split
  · split
    · simp only [passive.passes, if_true]
      exact Extends.goesOn _ Phase.noConfusion _ rest _
    · exact Extends.goesOn _ Phase.noConfusion _ rest _
  · exact Extends.goesOn _ Phase.noConfusion _ rest _

/-- The step lemma: the framing waits, or more bytes change nothing about its step. -/
theorem take_append {handler : Handler τ} (passive : handler.Passive) (limit : Nat)
    {framing : Framing} (synced : framing.phase ≠ .negotiating) (state : τ) (side : Side)
    {data : Bytes} (nonempty : data ≠ []) (more : Bytes) :
    framing.take limit handler state side data = framing.wait state data ∨
      Extends side more (framing.take limit handler state side data)
        (framing.take limit handler state side (data ++ more)) := by
  -- Where everything is passed on, the phase does not matter.
  by_cases passes : framing.Passes side
  · right
    rw [take_of_passes passes, take_of_passes passes]
    exact extends_passOn passes state data more
  · cases phase : framing.phase with
    | outOfSync =>
        exact absurd (Or.inl phase) passes
    | encrypted =>
        exact absurd (Or.inr (Or.inl phase)) passes
    | negotiating =>
        exact absurd phase synced
    | starting =>
        cases side with
        | backend =>
            exact absurd (Or.inr (Or.inr ⟨phase, rfl⟩)) passes
        | frontend =>
            simp only [take, phase, onStarting_eq]
            have kept (decided : startupBeginning data ≠ .undecided) :=
              startupBeginning_append decided more
            cases found : startupBeginning data with
            | undecided =>
                exact Or.inl rfl
            | violation violation =>
                rw [kept (by rw [found]; exact Beginning.noConfusion), found]
                exact Or.inr (extends_leave handler framing state .frontend data more violation)
            | message length =>
                have inside := length_le_of_startup found
                rw [kept (by rw [found]; exact Beginning.noConfusion), found]
                simp only [List.take_append_of_le_length inside,
                  List.drop_append_of_le_length inside]
                exact Or.inr (extends_takeStartup passive state .frontend _ _ more)
    | inSync =>
        simp only [take, phase, onMessages_eq]
        have kept (decided : beginning limit side data ≠ .undecided) :=
          beginning_append decided more
        cases found : beginning limit side data with
        | undecided =>
            exact Or.inl rfl
        | violation violation =>
            rw [kept (by rw [found]; exact Beginning.noConfusion), found]
            exact Or.inr (extends_leave handler framing state side data more violation)
        | message length =>
            have inside := (decoded_of_beginning found).1
            rw [kept (by rw [found]; exact Beginning.noConfusion), found]
            simp only [List.take_append_of_le_length inside,
              List.drop_append_of_le_length inside, headD_append nonempty]
            exact Or.inr (extends_takeMessage handler synced state side _ _ _ _ more)

/-! ## Whole buffers -/

theorem drain_nil (limit : Nat) (handler : Handler τ) (framing : Framing) (state : τ)
    (side : Side) :
    framing.drain limit handler state side [] =
      { progress := .ready, framing, handler := state, rest := [] } := by
  rw [drain]
  rfl

theorem drain_of_needMore (limit : Nat) (handler : Handler τ) (framing : Framing) (state : τ)
    (side : Side) {data : Bytes} (nonempty : data ≠ [])
    (waits : framing.take limit handler state side data = framing.wait state data) :
    framing.drain limit handler state side data = framing.wait state data := by
  rw [drain, dif_neg nonempty]
  simp only
  split
  · exact waits
  · rename_i progress
    rw [waits] at progress
    cases progress
  · rename_i progress
    rw [waits] at progress
    cases progress

theorem drain_of_ready (limit : Nat) (handler : Handler τ) (framing : Framing) (state : τ)
    (side : Side) {data : Bytes} (nonempty : data ≠ []) {taken : Taken τ}
    (step : framing.take limit handler state side data = taken)
    (ready : taken.progress = .ready) :
    framing.drain limit handler state side data =
      (taken.framing.drain limit handler taken.handler side taken.rest).after taken.output := by
  subst step
  rw [drain, dif_neg nonempty]
  simp only
  split
  · rename_i progress
    rw [ready] at progress
    cases progress
  · rename_i progress
    rw [ready] at progress
    cases progress
  · rfl

/-- What arrives where everything is passed on is passed on. -/
theorem drain_of_passes {framing : Framing} {side : Side} (passes : framing.Passes side)
    (limit : Nat) (handler : Handler τ) (state : τ) (data : Bytes) :
    framing.drain limit handler state side data = framing.passOn state side data := by
  by_cases empty : data = []
  · subst empty
    rw [drain_nil, passOn]
    cases side <;> rfl
  · rw [drain_of_ready limit handler framing state side empty
      (take_of_passes passes limit handler state data) rfl]
    simp only [passOn, drain_nil, Taken.after, Output.append_empty]

/--
The run lemma: dealing with a buffer and then with what is left of it and more bytes is
dealing with all of them.  The framing is never left with an answer of the server pending.
-/
theorem drain_append {handler : Handler τ} (passive : handler.Passive) (limit : Nat)
    (side : Side) (more : Bytes) {framing : Framing} (synced : framing.phase ≠ .negotiating)
    (state : τ) (data : Bytes) :
    let first := framing.drain limit handler state side data
    first.framing.phase ≠ .negotiating ∧ first.progress ≠ .stopped ∧
      framing.drain limit handler state side (data ++ more) =
        (first.framing.drain limit handler first.handler side (first.rest ++ more)).after
          first.output := by
  -- On the length of the buffer, for every state: a step that goes on takes a byte of it.
  induction width : data.length using Nat.strongRecOn generalizing framing state data with
  | ind size inductionHypothesis =>
      by_cases empty : data = []
      · subst empty
        simp only [drain_nil]
        exact ⟨synced, Progress.noConfusion, rfl⟩
      · have emptyLater : data ++ more ≠ [] := by
          simp [empty]
        rcases take_append passive limit synced state side empty more with waits | step
        · rw [drain_of_needMore limit handler framing state side empty waits]
          exact ⟨synced, Progress.noConfusion, rfl⟩
        · have shorter := length_rest_take handler framing state side limit data empty
          generalize taken : framing.take limit handler state side data = now at step shorter
          generalize takenLater : framing.take limit handler state side (data ++ more) = later
            at step
          cases step with
          | goesOn next syncedNext nextState rest output =>
              have rested : rest.length < size := by
                rw [← width]
                exact shorter rfl
              rcases inductionHypothesis rest.length rested syncedNext nextState rest rfl
                with ⟨syncedLast, moving, whole⟩
              rw [drain_of_ready limit handler framing state side empty taken rfl,
                drain_of_ready limit handler framing state side emptyLater takenLater rfl]
              refine ⟨syncedLast, moving, ?_⟩
              simp only [whole, Taken.after, Output.append_assoc]
          | passesOn next passes nextState output =>
              -- Nothing is left, and the new framing passes the new bytes on.
              rw [drain_of_ready limit handler framing state side empty taken rfl,
                drain_of_ready limit handler framing state side emptyLater takenLater rfl]
              rw [drain_nil]
              simp only [Taken.after, List.nil_append, drain_of_passes passes, Output.append_empty]
              refine ⟨?_, Progress.noConfusion, rfl⟩
              rcases passes with phase | phase | ⟨phase, -⟩ <;>
                exact fun negotiating => Phase.noConfusion (phase.symm.trans negotiating)

end Framing

/-! ## Sessions -/

/-- A transport that leaves encryption to the ends of the connection. -/
structure Transport.Passive {τ : Type} (transport : Transport τ) : Prop where
  passes (state : τ) : (transport.passesRequest state).1 = true
  plain (state : τ) : transport.wantsEncryption state = false

variable {σ τ : Type}

theorem Transport.Passive.handler {setup : Setup σ τ} (passive : setup.transport.Passive) :
    setup.handler.Passive where
  passes := fun (_, transport) => passive.passes transport
  plain := fun (_, transport) => passive.plain transport

namespace Session

/-- The states that a session comes to from its start, by what it receives. -/
inductive Reachable (setup : Setup σ τ) : Session σ τ → Prop
  | start (chain : σ) (transport : τ) :
      Reachable setup { exchange := { chain }, transport }
  | receive {session : Session σ τ} (side : Side) (bytes : Bytes) :
      Reachable setup session → Reachable setup (session.receive setup side bytes).1

/-- Reads from both sides, one after the other. -/
def receiveAll (setup : Setup σ τ) : Session σ τ → List (Side × Bytes) → Session σ τ × Output
  | session, [] => (session, {})
  | session, (side, bytes) :: reads =>
    let (next, output, _) := session.receive setup side bytes
    let (last, more) := next.receiveAll setup reads
    (last, output ++ more)

variable {setup : Setup σ τ}

/-- Nothing that a session receives makes it wait for the encryption of the connection. -/
theorem synced_of_reachable (passive : setup.transport.Passive) {session : Session σ τ}
    (reachable : session.Reachable setup) : session.framing.phase ≠ .negotiating := by
  induction reachable with
  | start chain transport =>
      exact Phase.noConfusion
  | receive side bytes reachable inductionHypothesis =>
      exact (Framing.drain_append passive.handler setup.limit side [] inductionHypothesis _ _).1

/-- Bytes in one read do what they do in two reads. -/
theorem receive_append (passive : setup.transport.Passive) {session : Session σ τ}
    (reachable : session.Reachable setup) (side : Side) (first second : Bytes) :
    let one := session.receive setup side first
    let two := one.1.receive setup side second
    session.receive setup side (first ++ second) = (two.1, one.2.1 ++ two.2.1, two.2.2) ∧
      one.2.2 = false := by
  have synced := synced_of_reachable passive reachable
  rcases Framing.drain_append passive.handler setup.limit side second synced
    (session.exchange, session.transport) (session.pending side ++ first) with ⟨-, moving, whole⟩
  simp only [receive]
  rw [← List.append_assoc, whole]
  refine ⟨?_, decide_eq_false moving⟩
  cases side <;> rfl

/-- Reads in a row bring the outputs of both parts in a row. -/
theorem receiveAll_append (session : Session σ τ) (first second : List (Side × Bytes)) :
    session.receiveAll setup (first ++ second) =
      ((session.receiveAll setup first).1.receiveAll setup second).map id
        fun output => (session.receiveAll setup first).2 ++ output := by
  induction first generalizing session with
  | nil =>
      rfl
  | cons read reads inductionHypothesis =>
      rcases read with ⟨side, bytes⟩
      simp only [List.cons_append, receiveAll, inductionHypothesis]
      exact Prod.ext rfl (Output.append_assoc _ _ _).symm

/-- A read that is cut into pieces does what it does as a whole. -/
theorem receiveAll_pieces (passive : setup.transport.Passive) {session : Session σ τ}
    (reachable : session.Reachable setup) (side : Side) {pieces : List Bytes}
    (cut : pieces ≠ []) :
    session.receiveAll setup (pieces.map (side, ·)) =
      session.receiveAll setup [(side, pieces.flatten)] := by
  induction pieces generalizing session with
  | nil =>
      exact absurd rfl cut
  | cons piece pieces inductionHypothesis =>
      -- No piece at all would be no read, so the last piece stands alone.
      by_cases last : pieces = []
      · subst last
        rw [List.map_singleton, List.flatten_singleton]
      · have rest := inductionHypothesis (Reachable.receive side piece reachable) last
        have whole := (receive_append passive reachable side piece pieces.flatten).1
        simp only [receiveAll, List.map_cons, List.flatten_cons, Output.append_empty] at rest ⊢
        rw [whole, rest]

/--
A session does not depend on how its streams are cut into reads.  From every state that a
session comes to, the bytes of two reads of a side lead to the same state, bytes on hold
included, and to the same output, audit events included, as the two reads in a row; the
stream never has to rest.  So any reads from both sides may be cut into pieces.
-/
theorem reads_may_be_cut_anywhere (setup : Setup σ τ) (passive : setup.transport.Passive)
    (session : Session σ τ) (reachable : session.Reachable setup) :
    (∀ (side : Side) (first second : Bytes),
      let one := session.receive setup side first
      let two := one.1.receive setup side second
      session.receive setup side (first ++ second) = (two.1, one.2.1 ++ two.2.1, two.2.2) ∧
        one.2.2 = false ∧ two.2.2 = false) ∧
    ∀ reads : List (Side × List Bytes), (∀ read ∈ reads, read.2 ≠ []) →
      session.receiveAll setup (reads.flatMap fun read => read.2.map (read.1, ·)) =
        session.receiveAll setup (reads.map fun read => (read.1, read.2.flatten)) := by
  refine ⟨?_, ?_⟩
  · intro side first second
    have one := receive_append passive reachable side first second
    have two := receive_append passive (Reachable.receive side first reachable) side second []
    exact ⟨one.1, one.2, two.2⟩
  · intro reads
    induction reads generalizing session with
    | nil =>
        exact fun _ => rfl
    | cons read reads inductionHypothesis =>
        intro cut
        have pieces := receiveAll_pieces passive reachable read.1
          (cut read List.mem_cons_self)
        have rest := inductionHypothesis _
          (Reachable.receive read.1 read.2.flatten reachable)
          fun later member => cut later (List.mem_cons_of_mem _ member)
        rw [List.flatMap_cons, receiveAll_append, pieces, List.map_cons]
        simp only [receiveAll, Output.append_empty]
        rw [rest]
        rfl

/-- Encryption is left to the ends of the connection. -/
def clearTransport : Transport Unit where
  passesRequest _ := (true, ())
  wantsEncryption _ := false
  send _ _ := ()
  encrypt _ _ _ := (false, ())

/-- A startup packet that is cut in its length, then a query that is cut in its text. -/
theorem startupAndQuery_may_be_cut :
    let setup : Setup Unit Unit :=
      { policy := { shield := Exchange.withoutNull, session := "1" }, transport := clearTransport }
    let session : Session Unit Unit := { exchange := { chain := () }, transport := () }
    setup.transport.Passive ∧ session.Reachable setup ∧
      session.receiveAll setup
          [(.frontend, [0, 0]), (.frontend, [0, 9, 0, 3, 0, 0, 0]),
            (.frontend, [ascii 'Q', 0, 0, 0]), (.frontend, [6, 59, 0])] =
        session.receiveAll setup
          [(.frontend, [0, 0, 0, 9, 0, 3, 0, 0, 0]),
            (.frontend, [ascii 'Q', 0, 0, 0, 6, 59, 0])] := by
  intro setup session
  have passive : setup.transport.Passive := ⟨fun _ => rfl, fun _ => rfl⟩
  have reachable : session.Reachable setup := Reachable.start () ()
  refine ⟨passive, reachable, ?_⟩
  exact (reads_may_be_cut_anywhere setup passive session reachable).2
    [(.frontend, [[0, 0], [0, 9, 0, 3, 0, 0, 0]]),
      (.frontend, [[ascii 'Q', 0, 0, 0], [6, 59, 0]])] (by simp)

end Session

end ColumnVeil.Relay
