import ColumnVeil.Proofs.Relay.Phases

/-!
# Securing the connection

What leaves a session around encryption.  Where the connection to the server has to be
encrypted, the client's startup packet waits for the server's answer, and nothing that the
client has sent goes to the server in clear: a session that is neither secured nor out of
sync is in one of two phases, and every step from there to the server is a request for
encryption (`Unsecured`).  A violation ends this: what is out of sync is passed on as it is.

Where the client's own request for encryption is answered here, the bytes behind the request
stay on hold.  They are not part of what the request leads to; they stand in front of what
the client sends next.
-/

namespace ColumnVeil.Relay

open Wire

/-! ## What a handler keeps -/

/-- What is true of the state of a handler stays true, whatever the handler is called for. -/
structure Handler.Keeps {τ : Type} (handler : Handler τ) (holds : τ → Prop) : Prop where
  onMessage (side : Side) (message : Message) (state : τ) (held : holds state) :
    holds (handler.onMessage side message state).1
  passesRequest (state : τ) (held : holds state) : holds (handler.passesRequest state).2.1
  send (bytes : Bytes) (state : τ) (held : holds state) : holds (handler.send bytes state)
  encrypt (agreed : Bool) (startup : Bytes) (state : τ) (held : holds state) :
    holds (handler.encrypt agreed startup state).2.1
  onViolation (side : Side) (violation : Violation) (state : τ) (held : holds state) :
    holds (handler.onViolation side violation state).1

namespace Framing

section Keeping

variable {τ : Type} {handler : Handler τ} {holds : τ → Prop} (keeps : handler.Keeps holds)
include keeps

theorem takeStartup_keeps (framing : Framing) {state : τ} (held : holds state)
    (packet rest : Bytes) : holds (framing.takeStartup handler state packet rest).handler := by
  simp only [takeStartup]
  split
  · split
    · split
      · exact keeps.passesRequest state held
      · exact keeps.passesRequest state held
    · exact held
  · split
    · exact keeps.send encryptionRequest state held
    · exact held

theorem onReply_keeps (framing : Framing) {state : τ} (held : holds state) (data : Bytes) :
    holds (framing.onReply handler state data).handler := by
  simp only [onReply]
  split
  · exact keeps.encrypt _ _ _ held
  · exact keeps.encrypt _ _ _ (keeps.onViolation _ _ _ held)

theorem onMessages_keeps (limit : Nat) (framing : Framing) {state : τ} (held : holds state)
    (side : Side) (data : Bytes) :
    holds (framing.onMessages limit handler state side data).handler := by
  cases found : beginning limit side data with
  | undecided =>
      simp only [onMessages_eq, found]
      exact held
  | violation violation =>
      simp only [onMessages_eq, found]
      exact keeps.onViolation side violation state held
  | message length =>
      rcases onMessages_of_message handler framing state found with ⟨message, -, handed⟩
      rw [handed]
      exact keeps.onMessage side message state held

/-- A step of the framing keeps what its handler keeps. -/
theorem take_keeps (limit : Nat) (framing : Framing) {state : τ} (held : holds state) (side : Side)
    (data : Bytes) : holds (framing.take limit handler state side data).handler := by
  have left (violation : Violation) :
      holds (framing.leave handler state side data violation).handler :=
    keeps.onViolation side violation state held
  simp only [take]
  split
  · exact held
  · exact held
  · exact held
  · rw [onStarting_eq]
    split
    · exact held
    · exact left _
    · exact takeStartup_keeps keeps framing held _ _
  · exact left _
  · exact onReply_keeps keeps framing held data
  · exact onMessages_keeps keeps limit framing held _ data

end Keeping

variable {τ : Type}

theorem drain_of_stopped (limit : Nat) (handler : Handler τ) (framing : Framing) (state : τ)
    (side : Side) {data : Bytes} (nonempty : data ≠ []) {taken : Taken τ}
    (step : framing.take limit handler state side data = taken)
    (stopped : taken.progress = .stopped) :
    framing.drain limit handler state side data =
      { taken with output := taken.output.withhold side } := by
  subst step
  rw [drain, dif_neg nonempty]
  simp only
  split
  · rename_i progress
    rw [stopped] at progress
    cases progress
  · rfl
  · rename_i progress
    rw [stopped] at progress
    cases progress

/-- Whatever the framing does with a buffer, it keeps what its handler keeps. -/
theorem drain_keeps {handler : Handler τ} {holds : τ → Prop} (keeps : handler.Keeps holds)
    (limit : Nat) (framing : Framing) (state : τ) (held : holds state) (side : Side)
    (data : Bytes) : holds (framing.drain limit handler state side data).handler := by
  -- On the length of the buffer, for every state: a step that goes on takes a byte of it.
  induction width : data.length using Nat.strongRecOn generalizing framing state data with
  | ind size inductionHypothesis =>
      by_cases empty : data = []
      · subst empty
        rw [drain_nil]
        exact held
      · have now := take_keeps keeps limit framing held side data
        have shorter := length_rest_take handler framing state side limit data empty
        rw [drain, dif_neg empty]
        simp only
        split
        · exact now
        · exact now
        · rename_i ready
          exact inductionHypothesis _ (width ▸ shorter ready) _ _ now _ rfl

/-- A buffer that leaves the protocol is dealt with in one step. -/
theorem drain_of_leave (limit : Nat) (handler : Handler τ) (framing : Framing) (state : τ)
    (side : Side) {data : Bytes} (nonempty : data ≠ []) (violation : Violation)
    (step : framing.take limit handler state side data =
      framing.leave handler state side data violation) :
    framing.drain limit handler state side data =
      framing.leave handler state side data violation := by
  rw [drain_of_ready limit handler framing state side nonempty step rfl]
  simp only [leave, drain_nil, Taken.after, Output.append_empty]

end Framing

variable {σ τ : Type}

/-! ## Required encryption -/

/-- A transport that records the calls upon it. -/
def Transport.recorded (transport : Transport τ) : Transport (τ × List Call) where
  passesRequest := fun (state, calls) =>
    let (passes, state) := transport.passesRequest state
    (passes, (state, calls ++ [.passesRequest passes]))
  wantsEncryption := fun (state, _) => transport.wantsEncryption state
  send bytes := fun (state, calls) => (transport.send bytes state, calls ++ [.send bytes])
  encrypt agreed startup := fun (state, calls) =>
    let (secured, state) := transport.encrypt agreed startup state
    (secured, (state, calls ++ [.encrypt agreed startup secured]))

/-- The same setup over a transport that records the calls upon it. -/
def Setup.recorded (setup : Setup σ τ) : Setup σ (τ × List Call) where
  policy := setup.policy
  transport := setup.transport.recorded
  limit := setup.limit

/-- A call that has been recorded stays in the record. -/
theorem Setup.keeps_recorded (setup : Setup σ τ) (call : Call) :
    setup.recorded.handler.Keeps fun state => call ∈ state.2.2 where
  onMessage _ _ _ held := held
  passesRequest _ held := List.mem_append_left _ held
  send _ _ held := List.mem_append_left _ held
  encrypt _ _ _ held := List.mem_append_left _ held
  onViolation _ _ _ held := held

/-- No startup packet has been sent on yet. -/
def Phase.Waits (phase : Phase) : Prop :=
  phase = .starting ∨ phase = .negotiating

namespace Framing

/-- Whether a buffer begins with a startup packet that asks for something else than a session. -/
def negotiates (framing : Framing) (side : Side) (data : Bytes) : Bool :=
  match framing.phase, side, startupBeginning data with
  | .starting, .frontend, .message length =>
    firstNegotiationCode ≤ startupCode (data.take length)
  | _, _, _ => false

/-- A violation is noted among the events of an output. -/
def Notes (output : Output) : Prop :=
  ∃ event ∈ output.events, event.kind = .protocolViolation

/-- What a buffer may come to before the connection to the server is secured: nothing of it goes
to the server, and the server is sent requests for encryption only, until it is secured. -/
structure Withholds (calls : List Call) (taken : Taken (Exchange σ × (τ × List Call))) :
    Prop where
  toServer : taken.output.toServer = []
  calls : ∃ made, taken.handler.2.2 = calls ++ made ∧
    ∀ bytes, .send bytes ∈ made → bytes = encryptionRequest
  secured : (∃ agreed startup, .encrypt agreed startup true ∈ taken.handler.2.2) ∨
    taken.framing.phase.Waits

variable (setup : Setup σ τ) (framing : Framing) (exchange : Exchange σ) (transport : τ)
  (calls : List Call)

theorem notes_leave (state : Exchange σ × (τ × List Call)) (side : Side) (data : Bytes)
    (violation : Violation) :
    Notes (framing.leave setup.recorded.handler state side data violation).output :=
  ⟨_, List.mem_append_left _ (List.mem_singleton.mpr rfl), rfl⟩

theorem withholds_rest (waits : framing.phase.Waits) (progress : Progress) (rest : Bytes)
    (output : Output) (toServer : output.toServer = []) :
    Withholds calls { progress, framing, handler := (exchange, (transport, calls)), rest, output } where
  toServer := toServer
  calls := ⟨[], (List.append_nil calls).symm, by simp⟩
  secured := Or.inr waits

/-- A startup packet that asks for a session is kept, and the server is asked for encryption. -/
theorem withholds_takeStartup (required : ∀ state, setup.transport.wantsEncryption state = true)
    (packet rest : Bytes) (session : startupCode packet < firstNegotiationCode) :
    let taken := framing.takeStartup setup.recorded.handler (exchange, (transport, calls)) packet rest
    taken.progress = .stopped ∧
      Withholds calls { taken with output := taken.output.withhold .frontend } := by
  have asks : framing.takeStartup setup.recorded.handler (exchange, (transport, calls)) packet rest =
      { progress := .stopped, framing := { phase := .negotiating, startup := packet },
        handler := (exchange, (setup.transport.send encryptionRequest transport,
          calls ++ [.send encryptionRequest])),
        rest, output := .forward .frontend packet } := by
    have plain : ¬ firstNegotiationCode ≤ ofBigEndian ((packet.drop 4).take 4) :=
      Nat.not_le_of_lt session
    have wants : setup.recorded.handler.wantsEncryption (exchange, (transport, calls)) = true :=
      required transport
    simp only [takeStartup, if_neg plain, if_pos wants]
    rfl
  rw [asks]
  refine ⟨rfl, rfl, ⟨_, rfl, ?_⟩, Or.inr (Or.inr rfl)⟩
  intro bytes sent
  cases List.mem_singleton.mp sent
  rfl

/-- The server's answer stops its stream; what is no answer is noted. -/
theorem withholds_onReply (data : Bytes) :
    let taken := framing.onReply setup.recorded.handler (exchange, (transport, calls)) data
    Notes (taken.output.withhold .backend) ∨
      Withholds calls { taken with output := taken.output.withhold .backend } := by
  cases expected : (data == [ascii 'S'] || data == [ascii 'N'] || data == [ascii 'E']) with
  | false =>
      left
      refine ⟨.protocolViolation setup.policy.session "backend"
        Violation.unexpectedReply.message, ?_, rfl⟩
      simp only [onReply, expected]
      exact List.mem_append_left _ (List.mem_singleton.mpr rfl)
  | true =>
      right
      let agreed := data == [ascii 'S']
      let answer := setup.transport.encrypt agreed framing.startup transport
      have answered : framing.onReply setup.recorded.handler (exchange, (transport, calls)) data =
          { progress := .stopped,
            framing := { phase := if answer.1 then .inSync else .starting, startup := [] },
            handler := (exchange, (answer.2,
              calls ++ [.encrypt agreed framing.startup answer.1])),
            rest := [],
            output := .note (.sslNegotiation setup.policy.session "server"
              (encryptionOutcome agreed answer.1)) } := by
        simp only [onReply, expected, if_true]
        rfl
      rw [answered]
      refine ⟨rfl, ⟨_, rfl, by simp⟩, ?_⟩
      cases secured : answer.1 with
      | true =>
          exact Or.inl ⟨agreed, framing.startup, List.mem_append_right _ (List.mem_singleton.mpr rfl)⟩
      | false =>
          exact Or.inr (Or.inl rfl)

/-- The step lemma: a buffer that leaves the protocol is noted, and any other is withheld. -/
theorem withholds_drain (required : ∀ state, setup.transport.wantsEncryption state = true)
    (waits : framing.phase.Waits) (side : Side) (data : Bytes)
    (plain : framing.negotiates side data = false) :
    let drained := framing.drain setup.limit setup.recorded.handler (exchange, (transport, calls))
      side data
    Notes drained.output ∨ Withholds calls drained := by
  by_cases empty : data = []
  · subst empty
    rw [drain_nil]
    exact Or.inr (withholds_rest framing exchange transport calls waits _ _ _ rfl)
  · rcases waits with starting | negotiating
    · cases side with
      | backend =>
          rw [drain_of_passes (Or.inr (Or.inr ⟨starting, rfl⟩))]
          exact Or.inr (withholds_rest framing exchange transport calls (Or.inl starting) _ _ _ rfl)
      | frontend =>
          have step : framing.take setup.limit setup.recorded.handler
              (exchange, (transport, calls)) .frontend data =
              framing.onStarting setup.recorded.handler (exchange, (transport, calls)) data := by
            simp only [take, starting]
          rw [onStarting_eq] at step
          cases found : startupBeginning data with
          | undecided =>
              rw [found] at step
              rw [drain_of_needMore _ _ _ _ _ empty step]
              exact Or.inr
                (withholds_rest framing exchange transport calls (Or.inl starting) _ _ _ rfl)
          | violation violation =>
              rw [found] at step
              rw [drain_of_leave _ _ _ _ _ empty violation step]
              exact Or.inl (notes_leave setup framing _ _ _ _)
          | message length =>
              rw [found] at step
              have session : startupCode (data.take length) < firstNegotiationCode := by
                simpa [negotiates, starting, found] using plain
              rcases withholds_takeStartup setup framing exchange transport calls required _
                (data.drop length) session with ⟨stopped, withholds⟩
              rw [drain_of_stopped _ _ _ _ _ empty step stopped]
              exact Or.inr withholds
    · cases side with
      | frontend =>
          rw [drain_of_leave _ _ _ _ _ empty .dataWhileNegotiating
            (by simp only [take, negotiating])]
          exact Or.inl (notes_leave setup framing _ _ _ _)
      | backend =>
          rw [drain_of_stopped _ _ _ _ _ empty
            (show _ = framing.onReply setup.recorded.handler (exchange, (transport, calls)) data by
              simp only [take, negotiating]) rfl]
          exact withholds_onReply setup framing exchange transport calls data

end Framing

namespace Session

/-- Whether one of some reads completes a startup packet that asks for something else than a
session. -/
def negotiates (setup : Setup σ τ) : Session σ τ → List (Side × Bytes) → Bool
  | _, [] => false
  | session, (side, bytes) :: reads =>
    session.framing.negotiates side (session.pending side ++ bytes) ||
      (session.receive setup side bytes).1.negotiates setup reads

/-- No startup packet has been sent on yet, and the server has been sent requests for encryption
only. -/
structure Unsecured (session : Session σ (τ × List Call)) : Prop where
  waits : session.framing.phase.Waits
  requests (bytes : Bytes) : .send bytes ∈ session.transport.2 → bytes = encryptionRequest

variable {setup : Setup σ τ} {session : Session σ (τ × List Call)}

theorem negotiates_append (setup : Setup σ τ) (session : Session σ τ)
    (first second : List (Side × Bytes)) :
    session.negotiates setup (first ++ second) =
      (session.negotiates setup first ||
        (session.receiveAll setup first).1.negotiates setup second) := by
  induction first generalizing session with
  | nil =>
      rfl
  | cons read reads inductionHypothesis =>
      simp only [List.cons_append, negotiates, inductionHypothesis, Bool.or_assoc]
      rfl

theorem mem_calls_receive {call : Call} (made : call ∈ session.transport.2) (side : Side)
    (bytes : Bytes) : call ∈ (session.receive setup.recorded side bytes).1.transport.2 :=
  Framing.drain_keeps (setup.keeps_recorded call) setup.limit session.framing
    (session.exchange, session.transport) made side (session.pending side ++ bytes)

theorem mem_calls_receiveAll {call : Call} (made : call ∈ session.transport.2)
    (reads : List (Side × Bytes)) :
    call ∈ (session.receiveAll setup.recorded reads).1.transport.2 := by
  induction reads generalizing session with
  | nil =>
      exact made
  | cons read reads inductionHypothesis =>
      exact inductionHypothesis (mem_calls_receive made read.1 read.2)

/-- One read of an unsecured session. -/
theorem Unsecured.receive (unsecured : session.Unsecured)
    (required : ∀ state, setup.transport.wantsEncryption state = true) (side : Side)
    (bytes : Bytes)
    (plain : session.framing.negotiates side (session.pending side ++ bytes) = false)
    (undisturbed : ¬ Framing.Notes (session.receive setup.recorded side bytes).2.1) :
    let next := (session.receive setup.recorded side bytes).1
    (session.receive setup.recorded side bytes).2.1.toServer = [] ∧
      (∀ bytes, .send bytes ∈ next.transport.2 → bytes = encryptionRequest) ∧
      ((∃ agreed startup, .encrypt agreed startup true ∈ next.transport.2) ∨ next.Unsecured) := by
  intro next
  rcases Framing.withholds_drain setup session.framing session.exchange session.transport.1
    session.transport.2 required unsecured.waits side _ plain with noted | withholds
  · exact absurd noted undisturbed
  · rcases withholds.calls with ⟨made, recorded, requests⟩
    have sent (bytes : Bytes) (among : .send bytes ∈ next.transport.2) :
        bytes = encryptionRequest := by
      rcases List.mem_append.mp (recorded ▸ among) with before | now
      · exact unsecured.requests bytes before
      · exact requests bytes now
    exact ⟨withholds.toServer, sent, withholds.secured.imp_right fun waits => ⟨waits, sent⟩⟩

/-- A run of an unsecured session that is not secured in the end. -/
theorem Unsecured.receiveAll (unsecured : session.Unsecured)
    (required : ∀ state, setup.transport.wantsEncryption state = true)
    (reads : List (Side × Bytes)) (plain : session.negotiates setup.recorded reads = false)
    (insecure : ∀ agreed startup, .encrypt agreed startup true ∉
      (session.receiveAll setup.recorded reads).1.transport.2)
    (undisturbed : ¬ Framing.Notes (session.receiveAll setup.recorded reads).2) :
    (session.receiveAll setup.recorded reads).2.toServer = [] ∧
      (session.receiveAll setup.recorded reads).1.Unsecured := by
  induction reads generalizing session with
  | nil =>
      exact ⟨rfl, unsecured⟩
  | cons read reads inductionHypothesis =>
      rcases read with ⟨side, bytes⟩
      simp only [negotiates, Bool.or_eq_false_iff] at plain
      have now := unsecured.receive required side bytes plain.1 fun ⟨event, noted, kind⟩ =>
        undisturbed ⟨event, List.mem_append_left _ noted, kind⟩
      rcases now with ⟨toServer, -, ⟨agreed, startup, secured⟩ | later⟩
      · exact absurd (mem_calls_receiveAll secured reads) (insecure agreed startup)
      · rcases inductionHypothesis later plain.2 insecure fun ⟨event, noted, kind⟩ =>
          undisturbed ⟨event, List.mem_append_right _ noted, kind⟩ with ⟨rest, last⟩
        refine ⟨?_, last⟩
        simp only [Session.receiveAll, Output.toServer_append, toServer, rest, List.append_nil]

/--
Where encryption is required, nothing of the client goes to the server in clear.  A new session
takes reads from both sides in any order, none of which completes a startup packet that asks
for something else than a session.  As long as no answer of the server has secured the
connection before the last of them, and no violation is noted, the session has nothing for the
server, and what it has sent to the server ahead of everything else are requests for
encryption.
-/
theorem required_encryption_withholds_the_client (setup : Setup σ τ)
    (required : ∀ state, setup.transport.wantsEncryption state = true) (exchange : Exchange σ)
    (transport : τ) (reads : List (Side × Bytes)) (side : Side) (bytes : Bytes) :
    let start : Session σ (τ × List Call) := { exchange, transport := (transport, []) }
    let (last, output) := start.receiveAll setup.recorded (reads ++ [(side, bytes)])
    start.negotiates setup.recorded (reads ++ [(side, bytes)]) = false →
    (∀ agreed startup, .encrypt agreed startup true ∉
      (start.receiveAll setup.recorded reads).1.transport.2) →
    (∀ event ∈ output.events, event.kind ≠ .protocolViolation) →
    output.toServer = [] ∧
      ∀ bytes, .send bytes ∈ last.transport.2 → bytes = encryptionRequest := by
  intro start
  simp only [negotiates_append, receiveAll_append, Bool.or_eq_false_iff]
  rintro ⟨plain, plainLast⟩ insecure undisturbed
  have fresh : start.Unsecured := ⟨Or.inl rfl, by simp [start]⟩
  rcases fresh.receiveAll required reads plain insecure fun ⟨event, noted, kind⟩ =>
      undisturbed event (List.mem_append_left _ noted) kind with ⟨toServer, unsecured⟩
  simp only [negotiates, Bool.or_false] at plainLast
  rcases unsecured.receive required side bytes plainLast fun ⟨event, noted, kind⟩ =>
      undisturbed event (List.mem_append_right _ (List.mem_append_left _ noted)) kind
    with ⟨now, requests, -⟩
  refine ⟨?_, requests⟩
  simp only [receiveAll, Prod.map_snd, Output.toServer_append, toServer, now]
  rfl

/-- Sockets that secure the connection to the server wherever the server agrees. -/
def securingTransport : Transport Unit where
  passesRequest _ := (true, ())
  wantsEncryption _ := true
  send _ _ := ()
  encrypt agreed _ _ := (agreed, ())

/-- A startup packet in two reads, and the server's agreement: the server is sent the request. -/
theorem startup_waits_for_agreement :
    let setup : Setup Unit Unit :=
      { policy := { shield := Exchange.withoutNull, session := "1" }, transport := securingTransport }
    let start : Session Unit (Unit × List Call) :=
      { exchange := { chain := () }, transport := ((), []) }
    let reads := [(Side.frontend, [0, 0, 0, 9, 0]), (Side.frontend, [3, 0, 0, 0])]
    let (last, output) := start.receiveAll setup.recorded (reads ++ [(.backend, [ascii 'S'])])
    .send encryptionRequest ∈ last.transport.2 ∧ last.framing.phase = .inSync ∧
      output.toServer = [] ∧ ∀ bytes, .send bytes ∈ last.transport.2 → bytes = encryptionRequest := by
  intro setup start reads
  have plain : start.negotiates setup.recorded (reads ++ [(.backend, [ascii 'S'])]) = false := by
    decide +kernel
  have asked : (start.receiveAll setup.recorded reads).1.transport.2 = [.send encryptionRequest] := by
    decide +kernel
  have insecure : ∀ agreed startup, .encrypt agreed startup true ∉
      (start.receiveAll setup.recorded reads).1.transport.2 := by
    simp [asked]
  have undisturbed : ∀ event ∈ (start.receiveAll setup.recorded
      (reads ++ [(.backend, [ascii 'S'])])).2.events, event.kind ≠ .protocolViolation := by
    decide +kernel
  exact ⟨by decide +kernel, by decide +kernel,
    required_encryption_withholds_the_client setup (fun _ => rfl) { chain := () } () reads
      .backend [ascii 'S'] plain insecure undisturbed⟩

/-- A query that does not wait for the server's answer goes to the server in clear. -/
theorem queryBeforeReply_reaches_the_server :
    let setup : Setup Unit Unit :=
      { policy := { shield := Exchange.withoutNull, session := "1" }, transport := securingTransport }
    let start : Session Unit (Unit × List Call) :=
      { exchange := { chain := () }, transport := ((), []) }
    let query := [ascii 'Q', 0, 0, 0, 6, 59, 0]
    let reads := [(Side.frontend, [0, 0, 0, 9, 0, 3, 0, 0, 0]), (Side.frontend, query)]
    let (last, output) := start.receiveAll setup.recorded reads
    (∀ state, setup.transport.wantsEncryption state = true) ∧
      start.negotiates setup.recorded reads = false ∧
      (∀ agreed startup, .encrypt agreed startup true ∉ last.transport.2) ∧
      output.toServer = query := by
  intro setup start query reads
  have asked : (start.receiveAll setup.recorded reads).1.transport.2 = [.send encryptionRequest] := by
    decide +kernel
  have insecure : ∀ agreed startup, .encrypt agreed startup true ∉
      (start.receiveAll setup.recorded reads).1.transport.2 := by
    simp [asked]
  exact ⟨fun _ => rfl, by decide +kernel, insecure, by decide +kernel⟩

/-! ## Bytes behind the client's request for encryption -/

end Session

namespace Framing

/-- A request for encryption that is answered here stops the client's stream, and the bytes behind
it are left. -/
theorem drain_of_request (limit : Nat) (handler : Handler τ) (framing : Framing) (state : τ)
    (starting : framing.phase = .starting) {packet : Bytes}
    (whole : startupBeginning packet = .message packet.length)
    (asks : startupCode packet = encryptionRequestCode)
    (terminates : (handler.passesRequest state).1 = false) (tail : Bytes) :
    framing.drain limit handler state .frontend (packet ++ tail) =
      { progress := .stopped, framing, handler := (handler.passesRequest state).2.1, rest := tail,
        output := ((handler.passesRequest state).2.2 ++ .forward .frontend packet).withhold
          .frontend } := by
  have nonempty : packet ++ tail ≠ [] := by
    intro empty
    rw [(List.append_eq_nil_iff.mp empty).1] at asks
    exact absurd asks (by decide)
  have found : startupBeginning (packet ++ tail) = .message packet.length :=
    (startupBeginning_append (by rw [whole]; exact Beginning.noConfusion) tail).trans whole
  have code : ofBigEndian ((packet.drop 4).take 4) = encryptionRequestCode := asks
  have step : framing.take limit handler state .frontend (packet ++ tail) =
      { progress := .stopped, framing, handler := (handler.passesRequest state).2.1, rest := tail,
        output := (handler.passesRequest state).2.2 ++ .forward .frontend packet } := by
    have negotiated : firstNegotiationCode ≤ encryptionRequestCode := by decide
    simp only [take, starting, onStarting_eq, found, List.take_left, List.drop_left, takeStartup,
      code, if_pos negotiated, if_true, terminates]
    rfl
  rw [drain_of_stopped limit handler framing state .frontend nonempty step rfl]

end Framing

namespace Session

variable {setup : Setup σ τ}

/-- What is on hold from the client means nothing to what the server sends. -/
theorem receiveAll_of_held (session : Session σ τ) (held : Bytes) (replies : List Bytes) :
    (session.withPending .frontend held).receiveAll setup (replies.map (Side.backend, ·)) =
      ((session.receiveAll setup (replies.map (Side.backend, ·))).1.withPending .frontend held,
        (session.receiveAll setup (replies.map (Side.backend, ·))).2) := by
  induction replies generalizing session with
  | nil =>
      rfl
  | cons reply replies inductionHypothesis =>
      have rest := inductionHypothesis (session.receive setup .backend reply).1
      simp only [List.map_cons, receiveAll]
      exact congrArg (fun run => (run.1, _ ++ run.2)) rest

theorem fromClient_receiveAll (session : Session σ τ) (replies : List Bytes) :
    (session.receiveAll setup (replies.map (Side.backend, ·))).1.fromClient =
      session.fromClient := by
  induction replies generalizing session with
  | nil =>
      rfl
  | cons reply replies inductionHypothesis =>
      exact inductionHypothesis (session.receive setup .backend reply).1

/-- What is on hold from the client stands in front of what it sends next. -/
theorem receiveAll_of_held_cons (session : Session σ τ) (empty : session.fromClient = [])
    (held next : Bytes) (later : List (Side × Bytes)) :
    (session.withPending .frontend held).receiveAll setup ((.frontend, next) :: later) =
      session.receiveAll setup ((.frontend, held ++ next) :: later) := by
  have same : (session.withPending .frontend held).receive setup .frontend next =
      session.receive setup .frontend (held ++ next) := by
    simp only [receive, pending, empty, List.nil_append]
    rfl
  simp only [receiveAll, same]

/-- A read that completes a request for encryption, answered here. -/
theorem receive_of_request (terminates : ∀ state, (setup.transport.passesRequest state).1 = false)
    (session : Session σ τ) (starting : session.framing.phase = .starting) {chunk : Bytes}
    (whole : Framing.startupBeginning (session.fromClient ++ chunk) =
      .message (session.fromClient ++ chunk).length)
    (asks : startupCode (session.fromClient ++ chunk) = encryptionRequestCode) (tail : Bytes) :
    session.receive setup .frontend (chunk ++ tail) =
      ({ session with transport := (setup.transport.passesRequest session.transport).2,
                      fromClient := tail },
        .note (.sslNegotiation setup.policy.session "client" "terminated"), true) := by
  have stops := Framing.drain_of_request setup.limit setup.handler session.framing
    (session.exchange, session.transport) starting whole asks (terminates session.transport) tail
  have buffer : session.pending .frontend ++ (chunk ++ tail) =
      session.fromClient ++ chunk ++ tail := (List.append_assoc _ _ _).symm
  have answer : setup.handler.passesRequest (session.exchange, session.transport) =
      (false, (session.exchange, (setup.transport.passesRequest session.transport).2),
        .note (.sslNegotiation setup.policy.session "client" "terminated")) := by
    simp only [Setup.handler, terminates]
    rfl
  rw [answer] at stops
  simp only [receive, buffer, stops]
  rfl

/--
Bytes behind the client's request for encryption are not dropped by the handshake.  A session
that waits for its startup packet, and whose sockets answer for the client's encryption,
completes a request for encryption with a read.  The read only asks the sockets and notes the
request, whatever stands behind the request in it; these bytes are put on hold.  They change
nothing about what the server's reads lead to from then on.  With the client's next read the
session goes on as if the client had sent them then, in front of it.
-/
theorem bytes_behind_the_request_join_the_next_read (setup : Setup σ τ)
    (terminates : ∀ state, (setup.transport.passesRequest state).1 = false)
    (session : Session σ τ) (starting : session.framing.phase = .starting) (chunk tail : Bytes)
    (whole : Framing.startupBeginning (session.fromClient ++ chunk) =
      .message (session.fromClient ++ chunk).length)
    (asks : startupCode (session.fromClient ++ chunk) = encryptionRequestCode) :
    let clean : Session σ τ :=
      { session with transport := (setup.transport.passesRequest session.transport).2,
                     fromClient := [] }
    let held := clean.withPending .frontend tail
    let noted := Output.note (.sslNegotiation setup.policy.session "client" "terminated")
    session.receive setup .frontend chunk = (clean, noted, true) ∧
      session.receive setup .frontend (chunk ++ tail) = (held, noted, true) ∧
      ∀ replies : List Bytes,
        let reads := replies.map (Side.backend, ·)
        let (answered, output) := clean.receiveAll setup reads
        held.receiveAll setup reads = (answered.withPending .frontend tail, output) ∧
          ∀ (next : Bytes) (later : List (Side × Bytes)),
            held.receiveAll setup (reads ++ (.frontend, next) :: later) =
              clean.receiveAll setup (reads ++ (.frontend, tail ++ next) :: later) := by
  intro clean held noted
  have stops := receive_of_request terminates session starting whole asks
  refine ⟨?_, stops tail, fun replies => ⟨receiveAll_of_held clean tail replies, ?_⟩⟩
  · rw [← List.append_nil chunk]
    exact stops []
  · intro next later
    rw [receiveAll_append, receiveAll_append, receiveAll_of_held clean tail replies,
      receiveAll_of_held_cons _ (fromClient_receiveAll clean replies)]

/-- Sockets that answer for the client's encryption. -/
def terminatingTransport : Transport Unit where
  passesRequest _ := (false, ())
  wantsEncryption _ := false
  send _ _ := ()
  encrypt _ _ _ := (false, ())

/-- The request in two reads, with the start of a startup packet behind it. -/
theorem startup_behind_request_is_held :
    let setup : Setup Unit Unit :=
      { policy := { shield := Exchange.withoutNull, session := "1" },
        transport := terminatingTransport }
    let session : Session Unit Unit :=
      { exchange := { chain := () }, transport := (), fromClient := [0, 0, 0, 8] }
    let held := session.withPending .frontend [0, 0, 0, 9]
    Framing.startupBeginning ([0, 0, 0, 8] ++ [4, 210, 22, 47]) = .message 8 ∧
      startupCode ([0, 0, 0, 8] ++ [4, 210, 22, 47]) = encryptionRequestCode ∧
      (session.receive setup .frontend ([4, 210, 22, 47] ++ [0, 0, 0, 9])).1 = held ∧
      held.receiveAll setup [(.backend, [1]), (.frontend, [0, 3, 0, 0, 0])] =
        (session.withPending .frontend []).receiveAll setup
          [(.backend, [1]), (.frontend, [0, 0, 0, 9, 0, 3, 0, 0, 0])] := by
  intro setup session held
  have whole : Framing.startupBeginning ([0, 0, 0, 8] ++ [4, 210, 22, 47]) = .message 8 := rfl
  have asks : startupCode ([0, 0, 0, 8] ++ [4, 210, 22, 47]) = encryptionRequestCode := by decide
  rcases bytes_behind_the_request_join_the_next_read setup (fun _ => rfl) session rfl
    [4, 210, 22, 47] [0, 0, 0, 9] whole asks with ⟨-, kept, later⟩
  exact ⟨whole, asks, congrArg Prod.fst kept, (later [[1]]).2 [0, 3, 0, 0, 0] []⟩

/-- A startup packet behind the request opens the session in place of the client's own. -/
theorem startup_behind_request_is_taken :
    let setup : Setup Unit Unit :=
      { policy := { shield := Exchange.withoutNull, session := "1" },
        transport := terminatingTransport }
    let session : Session Unit Unit := { exchange := { chain := () }, transport := () }
    let injected := [0, 0, 0, 9, 0, 3, 0, 1, 0]
    let startup := [0, 0, 0, 9, 0, 3, 0, 0, 0]
    (session.receiveAll setup
        [(.frontend, encryptionRequest), (.frontend, startup)]).2.toServer = startup ∧
      (session.receiveAll setup
        [(.frontend, encryptionRequest ++ injected), (.frontend, startup)]).2.toServer = injected := by
  decide +kernel

end Session

end ColumnVeil.Relay
