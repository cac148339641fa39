import ColumnVeil.Proofs.Relay.Splitting

/-!
# The course of the phases

What the framing does over a connection, whatever arrives and whatever its handler answers.
Buffers of both sides come in any order, and nothing ties a buffer to what an earlier one
left.  The calls upon the handler are recorded (`Handler.recorded`), which changes nothing
about what the framing does.

The step lemma is one inversion (`step_take`): it says which phases a buffer leads to, and by
which calls.  The run lemmas carry two facts along: a phase that passes everything on is
never left, and a violation is noted once, by a framing that is out of the protocol from then
on.
-/

namespace ColumnVeil.Relay

open Wire

/-- A call upon a handler, with what the handler answers. -/
inductive Call
  | message (side : Side) (message : Message)
  | passesRequest (passes : Bool)
  | send (bytes : Bytes)
  | encrypt (agreed : Bool) (startup : Bytes) (secured : Bool)
  | violation (side : Side) (violation : Violation)
deriving DecidableEq

/-- Whether the call notes a violation. -/
def Call.isViolation : Call → Bool
  | violation _ _ => true
  | _ => false

variable {τ : Type}

/-- A handler that records the calls upon it.  Only the question whether the server has to be
encrypted leaves no record: its answer changes nothing about the handler. -/
def Handler.recorded (handler : Handler τ) : Handler (τ × List Call) where
  onMessage side message := fun (state, calls) =>
    let (state, output) := handler.onMessage side message state
    ((state, calls ++ [.message side message]), output)
  passesRequest := fun (state, calls) =>
    let (passes, state, output) := handler.passesRequest state
    (passes, (state, calls ++ [.passesRequest passes]), output)
  wantsEncryption := fun (state, _) => handler.wantsEncryption state
  send bytes := fun (state, calls) => (handler.send bytes state, calls ++ [.send bytes])
  encrypt agreed startup := fun (state, calls) =>
    let (secured, state, output) := handler.encrypt agreed startup state
    (secured, (state, calls ++ [.encrypt agreed startup secured]), output)
  onViolation side violation := fun (state, calls) =>
    let (state, output) := handler.onViolation side violation state
    ((state, calls ++ [.violation side violation]), output)

/-- What a call upon the framing came to, with a record of the calls upon the handler. -/
def Taken.recording (taken : Taken τ) (calls : List Call) : Taken (τ × List Call) where
  progress := taken.progress
  framing := taken.framing
  handler := (taken.handler, calls)
  rest := taken.rest
  output := taken.output

/-- The code of a startup packet. -/
def startupCode (packet : Bytes) : Nat :=
  ofBigEndian ((packet.drop 4).take 4)

namespace Framing

/-! ## One step -/

/--
What a buffer of a side does to the phase, with the calls upon the handler.  The answer of the
server is the one step with two calls: what is no answer is noted, and then the handler is
asked all the same.
-/
inductive Step (side : Side) (data : Bytes) : Phase → List Call → Phase → Prop
  | stays (phase : Phase) : Step side data phase [] phase
  | leaves (phase : Phase) (watched : phase ≠ .outOfSync ∧ phase ≠ .encrypted)
      (violation : Violation) : Step side data phase [.violation side violation] .outOfSync
  | accepts (length : Nat) (ofClient : side = .frontend)
      (whole : startupBeginning data = .message length)
      (session : startupCode (data.take length) < firstNegotiationCode) :
      Step side data .starting [] .inSync
  | asks : Step side data .starting [.send encryptionRequest] .negotiating
  | handsOver (calls : List Call) (passed : ∀ call ∈ calls, call = .passesRequest true) :
      Step side data .starting calls .encrypted
  | arranges : Step side data .starting [.passesRequest false] .starting
  | answered (ofServer : side = .backend) (agreed : Bool) (startup : Bytes) (secured : Bool) :
      Step side data .negotiating [.encrypt agreed startup secured]
        (if secured then .inSync else .starting)
  | puzzled (ofServer : side = .backend) (startup : Bytes) (secured : Bool) :
      Step side data .negotiating
        [.violation side .unexpectedReply, .encrypt false startup secured]
        (if secured then .inSync else .outOfSync)
  | hands (message : Message) : Step side data .inSync [.message side message] .inSync

/-- Where everything is passed on, no call is made and nothing changes. -/
theorem Step.stays_of_passed {side : Side} {data : Bytes} {phase next : Phase}
    {calls : List Call} (step : Step side data phase calls next)
    (passed : phase = .outOfSync ∨ phase = .encrypted) : calls = [] ∧ next = phase := by
  cases step with
  | stays =>
      exact ⟨rfl, rfl⟩
  | leaves _ watched violation =>
      exact passed.elim (fun left => absurd left watched.1) fun left => absurd left watched.2
  | _ =>
      exact passed.elim (fun other => Phase.noConfusion other) fun other => Phase.noConfusion other

/-- A stream of messages goes on, or leaves the protocol. -/
theorem Step.of_inSync {side : Side} {data : Bytes} {calls : List Call} {next : Phase}
    (step : Step side data .inSync calls next) : next = .inSync ∨ next = .outOfSync := by
  cases step with
  | leaves =>
      exact Or.inr rfl
  | stays | hands message =>
      exact Or.inl rfl

/-- A stream of messages begins behind an accepted startup packet, or on a secured connection. -/
theorem Step.entered {side : Side} {data : Bytes} {phase next : Phase} {calls : List Call}
    (step : Step side data phase calls next) (before : phase ≠ .inSync) (after : next = .inSync) :
    (phase = .starting ∧ side = .frontend ∧
      ∃ length, startupBeginning data = .message length ∧
        startupCode (data.take length) < firstNegotiationCode) ∨
    (phase = .negotiating ∧ side = .backend ∧
      ∃ agreed startup, .encrypt agreed startup true ∈ calls) := by
  cases step with
  | accepts length ofClient whole session =>
      exact Or.inl ⟨rfl, ofClient, length, whole, session⟩
  | answered ofServer agreed startup secured =>
      cases secured with
      | true =>
          exact Or.inr ⟨rfl, ofServer, agreed, startup, by simp⟩
      | false =>
          cases after
  | puzzled ofServer startup secured =>
      cases secured with
      | true =>
          exact Or.inr ⟨rfl, ofServer, false, startup, by simp⟩
      | false =>
          cases after
  | stays | hands message =>
      exact absurd after before
  | leaves | asks | handsOver | arranges =>
      cases after

/-- Messages are handed over in sync only, each in a step of its own. -/
theorem Step.handed {side origin : Side} {data : Bytes} {phase next : Phase} {calls : List Call}
    {message : Message} (step : Step side data phase calls next)
    (made : .message origin message ∈ calls) : phase = .inSync ∧ origin = side := by
  cases step with
  | hands =>
      cases List.mem_singleton.mp made
      exact ⟨rfl, rfl⟩
  | handsOver _ passed =>
      cases passed _ made
  | _ =>
      simp at made

/-- A step of a recording handler is the step of the handler, with its record. -/
def Records (side : Side) (data : Bytes) (phase : Phase) (record : List Call) (taken : Taken τ)
    (recorded : Taken (τ × List Call)) : Prop :=
  ∃ calls, recorded = taken.recording (record ++ calls) ∧
    Step side data phase calls taken.framing.phase

variable (handler : Handler τ) (framing : Framing) (state : τ) (record : List Call)

theorem records_passOn (side : Side) (data : Bytes) :
    Records side data framing.phase record (framing.passOn state side data)
      (framing.passOn (state, record) side data) :=
  ⟨[], by rw [List.append_nil]; rfl, Step.stays _⟩

theorem records_wait (side : Side) (data : Bytes) :
    Records side data framing.phase record (framing.wait state data)
      (framing.wait (state, record) data) :=
  ⟨[], by rw [List.append_nil]; rfl, Step.stays _⟩

theorem records_leave (side : Side) (data : Bytes) (violation : Violation)
    (watched : framing.phase ≠ .outOfSync ∧ framing.phase ≠ .encrypted) :
    Records side data framing.phase record (framing.leave handler state side data violation)
      (framing.leave handler.recorded (state, record) side data violation) :=
  ⟨[.violation side violation], rfl, Step.leaves _ watched violation⟩

theorem records_takeStartup {data : Bytes} {length : Nat} (rest : Bytes)
    (whole : startupBeginning data = .message length) (starting : framing.phase = .starting) :
    Records .frontend data framing.phase record
      (framing.takeStartup handler state (data.take length) rest)
      (framing.takeStartup handler.recorded (state, record) (data.take length) rest) := by
  rw [starting]
  simp only [takeStartup]
  split
  · -- Only a request for encryption asks the handler; what else is negotiated is passed on.
    split
    · cases answer : (handler.passesRequest state).1 with
      | true =>
          refine ⟨[.passesRequest true], ?_, ?_⟩
          · simp only [Handler.recorded, answer, if_true]
            rfl
          · simp only [if_true]
            exact Step.handsOver _ (by simp)
      | false =>
          refine ⟨[.passesRequest false], ?_, ?_⟩
          · simp only [Handler.recorded, answer]
            rfl
          · simp only [Bool.false_eq_true, if_false, starting]
            exact Step.arranges
    · refine ⟨[], ?_, ?_⟩
      · rw [List.append_nil]
        rfl
      · exact Step.handsOver _ (by simp)
  · rename_i session
    cases wants : handler.wantsEncryption state with
    | true =>
        refine ⟨[.send encryptionRequest], ?_, ?_⟩
        · simp only [Handler.recorded, wants, if_true]
          rfl
        · simp only [if_true]
          exact Step.asks
    | false =>
        refine ⟨[], ?_, ?_⟩
        · simp only [Handler.recorded, wants, List.append_nil]
          rfl
        · exact Step.accepts length rfl whole (Nat.lt_of_not_le session)

theorem records_onReply (data : Bytes) (negotiating : framing.phase = .negotiating) :
    Records .backend data framing.phase record (framing.onReply handler state data)
      (framing.onReply handler.recorded (state, record) data) := by
  rw [negotiating]
  simp only [onReply]
  cases expected : (data == [ascii 'S'] || data == [ascii 'N'] || data == [ascii 'E']) with
  | true =>
      refine ⟨[.encrypt (data == [ascii 'S']) framing.startup
        (handler.encrypt (data == [ascii 'S']) framing.startup state).1], rfl, ?_⟩
      simp only [if_true]
      exact Step.answered rfl _ _ _
  | false =>
      have refused : (data == [ascii 'S']) = false := by
        simp only [Bool.or_eq_false_iff] at expected
        exact expected.1.1
      refine ⟨[.violation .backend .unexpectedReply, .encrypt false framing.startup
        (handler.encrypt false framing.startup
          (handler.onViolation .backend .unexpectedReply state).1).1], ?_, ?_⟩
      · simp only [refused, Handler.recorded, Bool.false_eq_true, if_false, List.append_assoc]
        rfl
      · simp only [refused, Bool.false_eq_true, if_false]
        exact Step.puzzled rfl _ _

theorem records_onMessages (limit : Nat) (side : Side) (data : Bytes)
    (synced : framing.phase = .inSync) :
    Records side data framing.phase record (framing.onMessages limit handler state side data)
      (framing.onMessages limit handler.recorded (state, record) side data) := by
  cases found : beginning limit side data with
  | undecided =>
      simp only [onMessages_eq, found]
      exact records_wait framing state record side data
  | violation violation =>
      simp only [onMessages_eq, found]
      exact records_leave handler framing state record side data violation (by simp [synced])
  | message length =>
      rcases onMessages_of_message handler framing state found with ⟨message, decoded, handed⟩
      rcases onMessages_of_message handler.recorded framing (state, record) found
        with ⟨again, decodedAgain, handedAgain⟩
      cases decoded.symm.trans decodedAgain
      rw [handed, handedAgain, synced]
      refine ⟨[.message side message], rfl, ?_⟩
      simp only [synced]
      exact Step.hands message

/-- The step lemma: recording changes nothing, and says what the step does. -/
theorem step_take (limit : Nat) (side : Side) (data : Bytes) :
    Records side data framing.phase record (framing.take limit handler state side data)
      (framing.take limit handler.recorded (state, record) side data) := by
  cases phase : framing.phase with
  | outOfSync | encrypted =>
      simp only [take, phase]
      rw [← phase]
      exact records_passOn framing state record side data
  | starting =>
      cases side with
      | backend =>
          simp only [take, phase]
          rw [← phase]
          exact records_passOn framing state record .backend data
      | frontend =>
          simp only [take, phase, onStarting_eq]
          rw [← phase]
          cases found : startupBeginning data with
          | undecided =>
              exact records_wait framing state record .frontend data
          | violation violation =>
              exact records_leave handler framing state record .frontend data violation
                (by simp [phase])
          | message length =>
              exact records_takeStartup handler framing state record _ found phase
  | negotiating =>
      cases side with
      | frontend =>
          simp only [take, phase]
          rw [← phase]
          exact records_leave handler framing state record .frontend data _ (by simp [phase])
      | backend =>
          simp only [take, phase]
          rw [← phase]
          exact records_onReply handler framing state record data phase
  | inSync =>
      simp only [take, phase]
      rw [← phase]
      exact records_onMessages handler framing state record limit side data phase

end Framing

/-! ## Whole connections -/

/-- How far a connection has come: its framing, the state of the handler, and the calls upon the
handler so far. -/
structure Course (τ : Type) where
  framing : Framing := {}
  state : τ
  calls : List Call := []

namespace Course

/-- A buffer of a side is dealt with. -/
def take (limit : Nat) (handler : Handler τ) (course : Course τ) (read : Side × Bytes) : Course τ :=
  let taken := course.framing.take limit handler.recorded (course.state, course.calls)
    read.1 read.2
  { framing := taken.framing, state := taken.handler.1, calls := taken.handler.2 }

/-- Buffers of both sides are dealt with, one after the other. -/
def run (limit : Nat) (handler : Handler τ) (course : Course τ) (reads : List (Side × Bytes)) :
    Course τ :=
  reads.foldl (take limit handler) course

variable {limit : Nat} {handler : Handler τ} {course : Course τ}

theorem run_append (first second : List (Side × Bytes)) :
    course.run limit handler (first ++ second) =
      (course.run limit handler first).run limit handler second :=
  List.foldl_append

/-- A course takes the steps of its handler, and its record grows by the calls of each step. -/
theorem exists_step (limit : Nat) (handler : Handler τ) (course : Course τ) (side : Side)
    (data : Bytes) :
    let taken := course.framing.take limit handler course.state side data
    ∃ calls,
      course.take limit handler (side, data) =
        { framing := taken.framing, state := taken.handler, calls := course.calls ++ calls } ∧
      Framing.Step side data course.framing.phase calls taken.framing.phase := by
  rcases Framing.step_take handler course.framing course.state course.calls limit side data
    with ⟨calls, recorded, step⟩
  refine ⟨calls, ?_, step⟩
  simp only [take, recorded]
  rfl

theorem exists_calls_run (limit : Nat) (handler : Handler τ) (course : Course τ)
    (reads : List (Side × Bytes)) :
    ∃ calls, (course.run limit handler reads).calls = course.calls ++ calls := by
  induction reads generalizing course with
  | nil =>
      exact ⟨[], (List.append_nil _).symm⟩
  | cons read reads inductionHypothesis =>
      rcases exists_step limit handler course read.1 read.2 with ⟨now, taken, -⟩
      rcases inductionHypothesis (course.take limit handler read) with ⟨later, ran⟩
      refine ⟨now ++ later, ?_⟩
      rw [← List.append_assoc]
      exact ran.trans (congrArg (fun next => next.calls ++ later) taken)

/-- A connection that is passed on as it is stays so. -/
theorem phase_run_of_passed (course : Course τ) (reads : List (Side × Bytes))
    (passed : course.framing.phase = .outOfSync ∨ course.framing.phase = .encrypted) :
    (course.run limit handler reads).framing.phase = course.framing.phase := by
  induction reads generalizing course with
  | nil =>
      rfl
  | cons read reads inductionHypothesis =>
      rcases exists_step limit handler course read.1 read.2 with ⟨calls, taken, step⟩
      have stayed : (course.take limit handler read).framing.phase = course.framing.phase :=
        (congrArg (fun next => next.framing.phase) taken).trans (step.stays_of_passed passed).2
      exact (inductionHypothesis _ (by rwa [stayed])).trans stayed

/-- No violation has been noted, or one by a framing that has left the protocol. -/
def NotedOnce (calls : List Call) (phase : Phase) : Prop :=
  calls.countP Call.isViolation = 0 ∨
    (calls.countP Call.isViolation = 1 ∧ phase = .outOfSync)

/-- A step notes a violation only where none has been noted, unless a connection is taken for
secured that the server has not agreed to. -/
theorem notedOnce_of_step {side : Side} {data : Bytes} {phase next : Phase} {record : List Call}
    {calls : List Call} (step : Framing.Step side data phase calls next)
    (honest : ∀ startup, .encrypt false startup true ∉ calls) (noted : NotedOnce record phase) :
    NotedOnce (record ++ calls) next := by
  have silent (watched : phase ≠ .outOfSync) : record.countP Call.isViolation = 0 :=
    noted.elim id fun left => absurd left.2 watched
  simp only [NotedOnce, List.countP_append]
  cases step with
  | stays =>
      exact noted
  | leaves _ watched violation =>
      right
      rw [silent watched.1]
      exact ⟨rfl, rfl⟩
  | accepts length ofClient whole session =>
      left
      rw [silent Phase.noConfusion]
      rfl
  | asks =>
      left
      rw [silent Phase.noConfusion]
      rfl
  | handsOver _ passed =>
      left
      rw [silent Phase.noConfusion, Nat.zero_add, List.countP_eq_zero]
      intro call made
      rw [passed call made]
      exact Bool.false_ne_true
  | arranges =>
      left
      rw [silent Phase.noConfusion]
      rfl
  | answered ofServer agreed startup secured =>
      left
      rw [silent Phase.noConfusion]
      rfl
  | puzzled ofServer startup secured =>
      cases secured with
      | true =>
          exact absurd (by simp) (honest startup)
      | false =>
          right
          rw [silent Phase.noConfusion]
          exact ⟨rfl, rfl⟩
  | hands message =>
      left
      rw [silent Phase.noConfusion]
      rfl

theorem notedOnce_run (course : Course τ) (reads : List (Side × Bytes))
    (honest : ∀ startup, .encrypt false startup true ∉ (course.run limit handler reads).calls)
    (noted : NotedOnce course.calls course.framing.phase) :
    NotedOnce (course.run limit handler reads).calls
      (course.run limit handler reads).framing.phase := by
  induction reads generalizing course with
  | nil =>
      exact noted
  | cons read reads inductionHypothesis =>
      rcases exists_step limit handler course read.1 read.2 with ⟨calls, taken, step⟩
      rcases exists_calls_run limit handler (course.take limit handler read) reads
        with ⟨later, ran⟩
      have now : (course.take limit handler read).calls = course.calls ++ calls :=
        congrArg Course.calls taken
      refine inductionHypothesis _ honest ?_
      rw [now, show (course.take limit handler read).framing = _ from
        congrArg Course.framing taken]
      refine notedOnce_of_step step (fun startup made => honest startup ?_) noted
      exact ran ▸ List.mem_append_left later (now ▸ List.mem_append_right _ made)

/--
The phases of a connection, whatever arrives in whatever order and whatever the handler
answers, as long as no connection is taken for secured that the server has not agreed to.
A buffer is dealt with as without the record, and the record grows by the calls that it
leads to.  A connection that is out of sync or under encryption stays so, calls nobody and
passes every buffer on as it is.  A connection in sync stays so or goes out of sync; it comes
to be in sync by an accepted startup packet or by a secured connection to the server, and
only then messages are handed over.  A violation is noted once at most, and the connection
is out of sync from then on.
-/
theorem phases_keep_their_order (limit : Nat) (handler : Handler τ) (state : τ)
    (earlier : List (Side × Bytes)) (side : Side) (data : Bytes) (later : List (Side × Bytes))
    (honest : ∀ startup, .encrypt false startup true ∉
      (run limit handler { state } (earlier ++ (side, data) :: later)).calls) :
    let before := run limit handler { state } earlier
    let taken := before.framing.take limit handler before.state side data
    let after := run limit handler { state } (earlier ++ [(side, data)])
    let last := run limit handler { state } (earlier ++ (side, data) :: later)
    ∃ calls,
      after = { framing := taken.framing, state := taken.handler, calls := before.calls ++ calls } ∧
      (before.framing.phase = .outOfSync ∨ before.framing.phase = .encrypted →
        calls = [] ∧ last.framing.phase = before.framing.phase ∧
          ∀ other : Handler τ, before.framing.take limit other before.state side data =
            { progress := .ready, framing := before.framing, handler := before.state, rest := [],
              output := .forward side data }) ∧
      (before.framing.phase = .inSync →
        after.framing.phase = .inSync ∨ after.framing.phase = .outOfSync) ∧
      (before.framing.phase ≠ .inSync → after.framing.phase = .inSync →
        (before.framing.phase = .starting ∧ side = .frontend ∧
          ∃ length, Framing.startupBeginning data = .message length ∧
            startupCode (data.take length) < firstNegotiationCode) ∨
        (before.framing.phase = .negotiating ∧ side = .backend ∧
          ∃ startup, .encrypt true startup true ∈ calls)) ∧
      (∀ origin message, .message origin message ∈ calls →
        before.framing.phase = .inSync ∧ origin = side) ∧
      last.calls.countP Call.isViolation ≤ 1 ∧
      ∀ call ∈ last.calls, call.isViolation = true → last.framing.phase = .outOfSync := by
  intro before taken after last
  rcases exists_step limit handler before side data with ⟨calls, stepped, step⟩
  have now : after = before.take limit handler (side, data) := run_append earlier [(side, data)]
  have rest : last = after.run limit handler later := by
    rw [now]
    exact run_append earlier ((side, data) :: later)
  rw [stepped] at now
  rcases exists_calls_run limit handler after later with ⟨more, ran⟩
  have made (call : Call) (among : call ∈ calls) : call ∈ last.calls := by
    rw [rest, ran, now]
    exact List.mem_append_left more (List.mem_append_right _ among)
  have noted : NotedOnce last.calls last.framing.phase :=
    notedOnce_run { state } _ honest (Or.inl rfl)
  refine ⟨calls, now, ?_, ?_, ?_, ?_, ?_, ?_⟩
  · intro passed
    refine ⟨(step.stays_of_passed passed).1, ?_, fun other => ?_⟩
    · rw [rest, phase_run_of_passed]
      · rw [now]
        exact (step.stays_of_passed passed).2
      · rw [now]
        simpa only [(step.stays_of_passed passed).2] using passed
    · exact Framing.take_of_passes (passed.elim Or.inl fun phase => Or.inr (Or.inl phase))
        limit other before.state data
  · intro synced
    rw [now]
    rw [synced] at step
    exact step.of_inSync
  · intro unsynced entered
    rw [now] at entered
    rcases step.entered unsynced entered with accepted | ⟨phase, ofServer, agreed, startup, secured⟩
    · exact Or.inl accepted
    · cases agreed with
      | true =>
          exact Or.inr ⟨phase, ofServer, startup, secured⟩
      | false =>
          exact absurd (made _ secured) (honest startup)
  · intro origin message handed
    exact step.handed handed
  · rcases noted with none | ⟨one, -⟩
    · rw [none]
      exact Nat.zero_le 1
    · exact Nat.le_of_eq one
  · intro call among violation
    rcases noted with none | ⟨-, left⟩
    · exact absurd violation (List.countP_eq_zero.mp none call among)
    · exact left

/-- A handler that secures the connection to the server wherever the server agrees, and passes
messages on. -/
def securing : Handler Unit where
  onMessage side message _ := ((), .forward side message.write)
  passesRequest _ := (true, (), {})
  wantsEncryption _ := true
  send _ _ := ()
  encrypt agreed _ _ := (agreed, (), {})
  onViolation _ _ _ := ((), {})

/-- The server agrees to encryption, and then a client sends a message with too short a length:
this is noted, and what the server sends later is no message any more. -/
theorem shortMessage_is_noted_once :
    let earlier := [(Side.frontend, [0, 0, 0, 9, 0, 3, 0, 0, 0]), (Side.backend, [ascii 'S'])]
    let read := (Side.frontend, [ascii 'S', 0, 0, 0, 3])
    let later := [(Side.backend, [ascii 'Z', 0, 0, 0, 5, ascii 'I'])]
    let last := run 100 securing { state := () } (earlier ++ read :: later)
    (∀ startup, .encrypt false startup true ∉ last.calls) ∧
      last.calls.countP Call.isViolation ≤ 1 ∧
      .violation .frontend (.messageTooSmall "Sync" 3) ∈ last.calls ∧
      last.framing.phase = .outOfSync := by
  intro earlier read later last
  have calls : last.calls =
      [.send encryptionRequest, .encrypt true [0, 0, 0, 9, 0, 3, 0, 0, 0] true,
        .violation .frontend (.messageTooSmall "Sync" 3)] := by
    decide +kernel
  have honest : ∀ startup, .encrypt false startup true ∉ last.calls := by
    simp [calls, encryptionRequest]
  have noted : .violation .frontend (.messageTooSmall "Sync" 3) ∈ last.calls := by
    simp [calls]
  rcases phases_keep_their_order 100 securing () earlier read.1 read.2 later honest
    with ⟨_, -, -, -, -, -, once, left⟩
  exact ⟨honest, once, noted, left _ noted rfl⟩

end Course

end ColumnVeil.Relay
