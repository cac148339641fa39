import ColumnVeil.Proofs.Relay.Conversation
import ColumnVeil.Proofs.Relay.Splitting

/-!
# Fidelity

Where queries are not shielded and encryption is left to the ends of the connection, a session
is a wire.  Messages are still cut out of the streams, decoded and written again, but what is
written is what was read; what is malformed, too long or encrypted is not taken apart at all.
So at every moment the bytes that were sent on to one end, followed by those on hold, are the
bytes that arrived from the other.

A step of the framing sends on some of the bytes that arrived and leaves the others
(`Taken.Conveys`); the run lemmas carry this through whole buffers and through all reads.
-/

namespace ColumnVeil.Relay

open Wire

variable {σ τ : Type}

/-- The bytes of an output that flow on from a side. -/
def Output.onward (output : Output) : Side → Bytes
  | .frontend => output.toServer
  | .backend => output.toClient

/-- The output sends on bytes that came from a side, and nothing else. -/
def Output.Carries (output : Output) (side : Side) (bytes : Bytes) : Prop :=
  ∀ other, output.onward other = if other = side then bytes else []

namespace Output

variable {first second : Output} {side : Side} {bytes more : Bytes}

theorem onward_append (first second : Output) (side : Side) :
    (first ++ second).onward side = first.onward side ++ second.onward side := by
  cases side <;> rfl

theorem carries_forward (side : Side) (bytes : Bytes) :
    (Output.forward side bytes).Carries side bytes := by
  intro other
  cases side <;> cases other <;> rfl

theorem carries_empty (side : Side) : ({} : Output).Carries side [] := by
  intro other
  cases other <;> exact (ite_self _).symm

/-- Events are not sent. -/
theorem carries_note (event : Audit.Event) (side : Side) :
    (Output.note event).Carries side [] := by
  intro other
  cases other <;> exact (ite_self _).symm

theorem Carries.append (carries : first.Carries side bytes) (later : second.Carries side more) :
    (first ++ second).Carries side (bytes ++ more) := by
  intro other
  rw [onward_append, carries other, later other]
  split
  · rfl
  · rfl

end Output

/-! ## Messages -/

namespace Exchange

/-- No batch is being refused and no result of a shielded query is awaited. -/
structure Idle (exchange : Exchange σ) : Prop where
  skipping : exchange.skipping = false
  guarded : exchange.response.guarded = false
  aborted : exchange.response.aborted = false

/-- Without shields an exchange sends every message on as it would be written. -/
theorem Idle.onMessage {policy : Policy σ} {exchange : Exchange σ} (idle : exchange.Idle)
    (unshielded : policy.shielding = false) {side : Side} {message : Message}
    (arrives : message.Arrives side) :
    (exchange.onMessage policy side message).2 = .forward side message.write ∧
      (exchange.onMessage policy side message).1.Idle := by
  cases side with
  | frontend =>
      rcases kinds_of_frontend arrives with
        ⟨text, rfl⟩ | ⟨name, text, types, rfl⟩ | ⟨tag, body, rfl⟩
      · simp only [Exchange.onMessage, onQuery, unshielded, Bool.not_false, if_true]
        exact ⟨trivial, idle⟩
      · simp only [Exchange.onMessage, onParse, unshielded, Bool.not_false, if_true]
        exact ⟨trivial, idle⟩
      · simp only [Exchange.onMessage, onOther, idle.skipping, Bool.not_false, if_true]
        exact ⟨rfl, idle⟩
  | backend =>
      cases message with
      | query text =>
          exact absurd rfl ((not_asked_of_backend arrives).1 text)
      | parse name text types =>
          exact absurd rfl ((not_asked_of_backend arrives).2 name text types)
      | rowDescription columns =>
          simp only [Exchange.onMessage, onRowDescription, idle.guarded, Bool.not_false, if_true]
          exact ⟨rfl, idle⟩
      | dataRow values =>
          simp only [Exchange.onMessage, onDataRow, idle.guarded, Bool.not_false, if_true]
          exact ⟨rfl, idle⟩
      | commandComplete tag =>
          simp only [Exchange.onMessage, onCommandComplete, idle.guarded, Bool.not_false, if_true]
          exact ⟨rfl, idle⟩
      | emptyQueryResponse =>
          simp only [Exchange.onMessage, onEmptyQueryResponse, idle.aborted, Bool.false_eq_true,
            if_false]
          exact ⟨rfl, idle.skipping, idle.guarded, idle.aborted⟩
      | errorResponse fields terminator =>
          simp only [Exchange.onMessage, onErrorResponse, idle.aborted, Bool.false_eq_true,
            if_false]
          exact ⟨rfl, idle.skipping, idle.guarded, idle.aborted⟩
      | readyForQuery status =>
          exact ⟨rfl, idle.skipping, rfl, rfl⟩
      | raw tag bytes =>
          exact ⟨rfl, idle⟩

end Exchange

/-! ## Frames -/

namespace Framing

/-- The lengths of the values in the frame of a row. -/
def rowLengths (frame : Bytes) : List Int :=
  BodyKind.dataRow.format.lengths (frame.drop 5) ⟨0, (frame.drop 5).length⟩

/-- In a row of the server no length stands for no value but the one that is written for it. -/
def RowMarked (side : Side) (frame : Bytes) : Prop :=
  side = .backend → frame.headD 0 = ascii 'D' → Format.Marked (rowLengths frame)

variable {limit : Nat} {side : Side} {data : Bytes} {length : Nat}

/-- What is cut out of a stream is a frame. -/
theorem frame_of_beginning (found : beginning limit side data = .message length) :
    ∃ body, data.take length = Message.frame (data.headD 0) body := by
  rcases whole_of_beginning found with ⟨header, declared, rfl, -⟩
  have inside := (decoded_of_beginning found).1
  rcases data with _ | ⟨tag, behindTag⟩
  · cases header
  · have width : (behindTag.take 4).length = 4 := by
      rw [List.length_take]
      simp only [List.length_cons] at header
      omega
    let size := ofBigEndian (behindTag.take 4)
    let body := (behindTag.drop 4).take (size - 4)
    have long : body.length + 4 = size := by
      simp only [List.drop_one, List.tail_cons, List.length_cons] at inside declared
      simp only [body, List.length_take, List.length_drop, size]
      omega
    have digits : bigEndian 4 size = behindTag.take 4 := by
      have number := bigEndian_ofBigEndian (behindTag.take 4)
      rw [width] at number
      exact number
    refine ⟨body, ?_⟩
    rw [Message.frame, long, digits]
    have apart : 4 + (size - 4) = size := by omega
    simp only [List.drop_one, List.tail_cons, List.take_succ_cons, List.headD_cons,
      List.cons_append, body, ← List.take_add, apart, size]

variable {message : Message}

/-- What is cut out of a stream is decoded to a message that the exchange knows. -/
theorem arrives_of_beginning (found : beginning limit side data = .message length)
    (decoded : Message.ofFrame (MessageKind.ofTag side (data.headD 0)).body (some (data.headD 0))
      (data.take length) 5 = .ok message) : message.Arrives side := by
  rcases frame_of_beginning found with ⟨body, whole⟩
  rw [whole] at decoded
  exact ⟨_, _, decoded⟩

/-- What is cut out of a stream is decoded to a message that is written as it came. -/
theorem write_of_beginning (found : beginning limit side data = .message length)
    (decoded : Message.ofFrame (MessageKind.ofTag side (data.headD 0)).body (some (data.headD 0))
      (data.take length) 5 = .ok message) (marked : RowMarked side (data.take length)) :
    message.write = data.take length := by
  rcases frame_of_beginning found with ⟨body, whole⟩
  rw [whole] at decoded marked ⊢
  refine Message.write_of_ofFrame decoded fun kind => ?_
  have tagged := MessageKind.tag?_ofTag side (data.headD 0)
  rw [kind] at tagged
  cases side with
  | frontend =>
      have asked := body_of_frontend (data.headD 0)
      rw [kind] at asked
      exact absurd asked (by decide)
  | backend =>
      exact marked rfl tagged.symm

end Framing

/-! ## Steps -/

/-- Something that arrived from a side has been sent on, and what follows it is left for later. -/
structure Taken.Conveys (side : Side) (data : Bytes) (taken : Taken (Exchange σ × τ)) : Prop where
  synced : taken.framing.phase ≠ .negotiating
  idle : taken.handler.1.Idle
  sent : ∃ sent, taken.output.Carries side sent ∧ sent ++ taken.rest = data

namespace Framing

variable {setup : Setup σ τ} {framing : Framing} {state : Exchange σ × τ} {side : Side}
  {data : Bytes}

theorem conveys_nothing (synced : framing.phase ≠ .negotiating) (idle : state.1.Idle)
    (progress : Progress) :
    Taken.Conveys side data { progress, framing, handler := state, rest := data } :=
  ⟨synced, idle, [], Output.carries_empty side, List.nil_append data⟩

theorem conveys_leave (idle : state.1.Idle) (violation : Violation) :
    (framing.leave setup.handler state side data violation).Conveys side data := by
  refine ⟨Phase.noConfusion, idle, data, ?_, List.append_nil _⟩
  exact (Output.carries_note _ side).append (Output.carries_forward side data)

theorem conveys_takeStartup (framing : Framing) (passive : setup.transport.Passive)
    (idle : state.1.Idle) (packet rest : Bytes) :
    let taken := framing.takeStartup setup.handler state packet rest
    taken.progress = .ready ∧ taken.Conveys .frontend (packet ++ rest) := by
  have sent := Output.carries_forward .frontend packet
  simp only [takeStartup, passive.handler.plain]
  split
  · split
    · simp only [passive.handler.passes, if_true]
      exact ⟨trivial, Phase.noConfusion, idle, packet,
        (Output.carries_note _ .frontend).append sent, rfl⟩
    · exact ⟨rfl, Phase.noConfusion, idle, packet, sent, rfl⟩
  · exact ⟨rfl, Phase.noConfusion, idle, packet, sent, rfl⟩

/-- The step lemma: without shields, the beginning of a stream is sent on as it came. -/
theorem take_conveys (unshielded : setup.policy.shielding = false)
    (passive : setup.transport.Passive) (synced : framing.phase ≠ .negotiating)
    (idle : state.1.Idle)
    (marked : ∀ length, framing.phase = .inSync →
      beginning setup.limit side data = .message length → RowMarked side (data.take length)) :
    let taken := framing.take setup.limit setup.handler state side data
    taken = framing.wait state data ∨ taken.progress = .ready ∧ taken.Conveys side data := by
  intro taken
  by_cases passes : framing.Passes side
  · right
    simp only [taken, take_of_passes passes]
    exact ⟨rfl, synced, idle, data, Output.carries_forward side data, List.append_nil data⟩
  · cases phase : framing.phase with
    | outOfSync =>
        exact absurd (Or.inl phase) passes
    | encrypted =>
        exact absurd (Or.inr (Or.inl phase)) passes
    | negotiating =>
        exact absurd phase synced
    | starting =>
        cases side with
        | backend =>
            exact absurd (Or.inr (Or.inr ⟨phase, rfl⟩)) passes
        | frontend =>
            simp only [taken, take, phase, onStarting_eq]
            cases startupBeginning data with
            | undecided =>
                exact Or.inl rfl
            | violation violation =>
                exact Or.inr ⟨rfl, conveys_leave idle violation⟩
            | message length =>
                have packet := conveys_takeStartup framing passive idle
                  (data.take length) (data.drop length)
                rw [List.take_append_drop] at packet
                exact Or.inr packet
    | inSync =>
        simp only [taken, take, phase]
        cases found : beginning setup.limit side data with
        | undecided =>
            left
            rw [onMessages_eq, found]
        | violation violation =>
            right
            rw [onMessages_eq, found]
            exact ⟨rfl, conveys_leave idle violation⟩
        | message length =>
            rcases (decoded_of_beginning found).2 with ⟨message, decoded⟩
            have written := write_of_beginning found decoded (marked length phase found)
            rcases idle.onMessage unshielded (arrives_of_beginning found decoded) with
              ⟨output, idleNext⟩
            right
            rw [onMessages_eq, found]
            simp only [takeMessage, decoded]
            refine ⟨trivial, synced, idleNext, message.write, ?_, ?_⟩
            · exact output ▸ Output.carries_forward side message.write
            · rw [written, List.take_append_drop]

/-! ## Whole buffers -/

/-- A frame is cut out of the bytes of a side, where they are dealt with as far as it goes. -/
inductive Cuts (limit : Nat) (handler : Handler τ) (side : Side) :
    Framing → τ → Bytes → Bytes → Prop
  | first {framing : Framing} {state : τ} {data : Bytes} {length : Nat} :
      framing.phase = .inSync → beginning limit side data = .message length →
      Cuts limit handler side framing state data (data.take length)
  | later {framing : Framing} {state : τ} {data frame : Bytes} :
      data ≠ [] → (framing.take limit handler state side data).progress = .ready →
      Cuts limit handler side (framing.take limit handler state side data).framing
        (framing.take limit handler state side data).handler
        (framing.take limit handler state side data).rest frame →
      Cuts limit handler side framing state data frame

section Cuts

variable {κ : Type} {limit length : Nat} {handler : Handler κ} {framing : Framing} {state : κ}
  {side : Side} {data frame : Bytes}

theorem take_of_inSync (synced : framing.phase = .inSync) :
    framing.take limit handler state side data =
      framing.onMessages limit handler state side data := by
  simp only [take, synced]

/-- Nothing is cut out of the start of a message. -/
theorem not_cuts_of_undecided (synced : framing.phase = .inSync)
    (undecided : beginning limit side data = .undecided) :
    ¬ Cuts limit handler side framing state data frame := by
  intro cuts
  cases cuts with
  | first phase found =>
      cases undecided.symm.trans found
  | later nonempty ready rest =>
      rw [take_of_inSync synced, onMessages_eq, undecided] at ready
      cases ready

/-- What is cut out of a stream that begins with a message is this message or comes behind it. -/
theorem cuts_of_message (synced : framing.phase = .inSync)
    (begins : beginning limit side data = .message length)
    (cuts : Cuts limit handler side framing state data frame) :
    frame = data.take length ∨
      ∃ next, Cuts limit handler side framing next (data.drop length) frame := by
  cases cuts with
  | first phase found =>
      cases begins.symm.trans found
      exact Or.inl rfl
  | later nonempty ready rest =>
      rcases onMessages_of_message handler framing state begins with ⟨message, -, step⟩
      rw [take_of_inSync synced, step] at rest
      exact Or.inr ⟨_, rest⟩

end Cuts

/-- The run lemma: what arrives is sent on as it came, but for what is left over. -/
theorem drain_conveys (unshielded : setup.policy.shielding = false)
    (passive : setup.transport.Passive) (synced : framing.phase ≠ .negotiating)
    (idle : state.1.Idle)
    (marked : ∀ frame, Cuts setup.limit setup.handler side framing state data frame →
      RowMarked side frame) :
    (framing.drain setup.limit setup.handler state side data).Conveys side data := by
  -- On the length of the buffer, as in `drain_append`.
  induction width : data.length using Nat.strongRecOn generalizing framing state data with
  | ind size inductionHypothesis =>
      by_cases empty : data = []
      · subst empty
        rw [drain_nil]
        exact conveys_nothing synced idle .ready
      · have step := take_conveys unshielded passive synced idle
          fun length phase found => marked _ (Cuts.first phase found)
        rcases step with waits | ⟨ready, conveys⟩
        · rw [drain_of_needMore _ _ _ _ _ empty waits]
          exact conveys_nothing synced idle .needMore
        · have shorter := length_rest_take setup.handler framing state side setup.limit data empty
            ready
          rw [drain_of_ready _ _ _ _ _ empty rfl ready]
          have rest := inductionHypothesis _ (width ▸ shorter) conveys.synced conveys.idle
            (fun frame cut => marked frame (Cuts.later empty ready cut)) rfl
          rcases conveys.sent with ⟨sent, carries, split⟩
          rcases rest.sent with ⟨more, carriesMore, splitMore⟩
          refine ⟨rest.synced, rest.idle, sent ++ more, carries.append carriesMore, ?_⟩
          rw [List.append_assoc]
          exact (congrArg (sent ++ ·) splitMore).trans split

end Framing

/-! ## Sessions -/

namespace Session

/-- A frame is cut out of the stream of a side by a session that receives some reads. -/
inductive Cuts (setup : Setup σ τ) (side : Side) :
    Session σ τ → List (Side × Bytes) → Bytes → Prop
  | now {session : Session σ τ} {bytes frame : Bytes} {reads : List (Side × Bytes)} :
      Framing.Cuts setup.limit setup.handler side session.framing
        (session.exchange, session.transport) (session.pending side ++ bytes) frame →
      Cuts setup side session ((side, bytes) :: reads) frame
  | later {session : Session σ τ} {read : Side × Bytes} {frame : Bytes}
      {reads : List (Side × Bytes)} :
      Cuts setup side (session.receive setup read.1 read.2).1 reads frame →
      Cuts setup side session (read :: reads) frame

/-- The bytes that arrive from a side by some reads. -/
def arrived (side : Side) (reads : List (Side × Bytes)) : Bytes :=
  reads.flatMap fun read => if side = read.1 then read.2 else []

theorem arrived_cons (side : Side) (read : Side × Bytes) (reads : List (Side × Bytes)) :
    arrived side (read :: reads) =
      (if side = read.1 then read.2 else []) ++ arrived side reads :=
  List.flatMap_cons

/-- A session that waits for nothing but more bytes. -/
structure Open (session : Session σ τ) : Prop where
  synced : session.framing.phase ≠ .negotiating
  idle : session.exchange.Idle

variable {setup : Setup σ τ} {session : Session σ τ}

/-- The step lemma: a session sends on or holds what it is given, behind what it held. -/
theorem Open.receive (opened : session.Open) (unshielded : setup.policy.shielding = false)
    (passive : setup.transport.Passive) (side : Side) (bytes : Bytes)
    (marked : ∀ frame, Framing.Cuts setup.limit setup.handler side session.framing
      (session.exchange, session.transport) (session.pending side ++ bytes) frame →
        Framing.RowMarked side frame) :
    let next := session.receive setup side bytes
    next.1.Open ∧ ∀ other, next.2.1.onward other ++ next.1.pending other =
      session.pending other ++ if other = side then bytes else [] := by
  let taken := session.framing.drain setup.limit setup.handler
    (session.exchange, session.transport) side (session.pending side ++ bytes)
  have conveys : taken.Conveys side (session.pending side ++ bytes) :=
    Framing.drain_conveys unshielded passive opened.synced opened.idle marked
  rcases conveys.sent with ⟨sent, carries, split⟩
  have output : (session.receive setup side bytes).2.1 = taken.output := rfl
  refine ⟨?_, fun other => ?_⟩
  · cases side <;> exact ⟨conveys.synced, conveys.idle⟩
  · rw [output, carries other]
    by_cases same : other = side
    · subst same
      have held : (session.receive setup other bytes).1.pending other = taken.rest := by
        cases other <;> rfl
      rw [held, if_pos rfl, if_pos rfl, split]
    · have held : (session.receive setup side bytes).1.pending other = session.pending other := by
        cases side <;> cases other <;> first | rfl | exact absurd rfl same
      rw [held, if_neg same, if_neg same, List.nil_append, List.append_nil]

/-- The run lemma: a session sends on or holds what it is given by all reads. -/
theorem Open.receiveAll (opened : session.Open) (unshielded : setup.policy.shielding = false)
    (passive : setup.transport.Passive) {reads : List (Side × Bytes)}
    (marked : ∀ side frame, session.Cuts setup side reads frame → Framing.RowMarked side frame)
    (side : Side) :
    let all := session.receiveAll setup reads
    all.2.onward side ++ all.1.pending side = session.pending side ++ arrived side reads := by
  induction reads generalizing session with
  | nil =>
      cases side <;> exact (List.append_nil _).symm
  | cons read reads inductionHypothesis =>
      rcases read with ⟨source, bytes⟩
      rcases opened.receive unshielded passive source bytes
        (fun frame cut => marked source frame (Cuts.now cut)) with ⟨openedNext, now⟩
      have rest := inductionHypothesis openedNext
        fun side frame cut => marked side frame (Cuts.later cut)
      simp only [Session.receiveAll, Output.onward_append, List.append_assoc,
        arrived_cons] at rest ⊢
      rw [rest, ← List.append_assoc, now side, List.append_assoc]

theorem Cuts.append {side : Side} {first : List (Side × Bytes)} {frame : Bytes}
    (cuts : session.Cuts setup side first frame) (second : List (Side × Bytes)) :
    session.Cuts setup side (first ++ second) frame := by
  induction cuts with
  | now cut =>
      exact Cuts.now cut
  | later _ inductionHypothesis =>
      exact Cuts.later inductionHypothesis

/--
A session without shields is a wire.  Encryption is left to the ends of the connection, and in
the rows of the server -1 is the only negative length.  Then after any number of reads, from
both sides in any order, all that was sent to the server and what is on hold of the client is
all that the client has sent, byte for byte, and likewise in the other direction; whether
messages are decoded and written again, copied, malformed, too long or encrypted.
-/
theorem reads_are_passed_on_unchanged (setup : Setup σ τ)
    (unshielded : setup.policy.shielding = false) (passive : setup.transport.Passive) (chain : σ)
    (transport : τ) (reads : List (Side × Bytes))
    (marked : ∀ frame,
      Session.Cuts setup .backend { exchange := { chain }, transport } reads frame →
        frame.headD 0 = ascii 'D' → ∀ length ∈ Framing.rowLengths frame,
          length < 0 → length = -1) (count : Nat) :
    let start : Session σ τ := { exchange := { chain }, transport }
    let (session, output) := start.receiveAll setup (reads.take count)
    output.toServer ++ session.fromClient = arrived .frontend (reads.take count) ∧
      output.toClient ++ session.fromServer = arrived .backend (reads.take count) := by
  intro start
  have opened : start.Open := ⟨Phase.noConfusion, rfl, rfl, rfl⟩
  have markedSoFar : ∀ side frame, start.Cuts setup side (reads.take count) frame →
      Framing.RowMarked side frame := by
    intro side frame cut ofServer isRow
    subst ofServer
    have whole := cut.append (reads.drop count)
    rw [List.take_append_drop] at whole
    exact marked frame whole isRow
  exact ⟨opened.receiveAll unshielded passive markedSoFar .frontend,
    opened.receiveAll unshielded passive markedSoFar .backend⟩

/-- A row of NULL and a letter passes, and the first byte of the next message is on hold. -/
theorem rowWithNull_is_passed_on :
    let setup : Setup Unit Unit :=
      { policy := { shield := Exchange.withoutNull, shielding := false, session := "1" },
        transport := clearTransport }
    let start : Session Unit Unit := { exchange := { chain := () }, transport := () }
    let row := (Message.dataRow [none, some [65]]).write
    let reads := [(Side.frontend, [0, 0, 0, 9, 0, 3, 0, 0, 0]), (Side.backend, row ++ [ascii 'Z'])]
    start.Cuts setup .backend reads row ∧
      (∀ frame, start.Cuts setup .backend reads frame → frame.headD 0 = ascii 'D' →
        ∀ length ∈ Framing.rowLengths frame, length < 0 → length = -1) ∧
      let (session, output) := start.receiveAll setup reads
      output.toClient = row ∧ session.fromServer = [ascii 'Z'] ∧
        output.toClient ++ session.fromServer = row ++ [ascii 'Z'] := by
  intro setup start row reads
  have passive : setup.transport.Passive := ⟨fun _ => rfl, fun _ => rfl⟩
  let synced : Session Unit Unit := { start with framing := { phase := .inSync } }
  have started : (start.receive setup .frontend [0, 0, 0, 9, 0, 3, 0, 0, 0]).1 = synced := by cbv
  have whole : Framing.beginning setup.limit .backend (row ++ [ascii 'Z']) = .message 16 := rfl
  have cut : start.Cuts setup .backend reads row := by
    refine Cuts.later (Cuts.now ?_)
    rw [started]
    exact Framing.Cuts.first rfl whole
  have only (frame : Bytes) (cuts : start.Cuts setup .backend reads frame) : frame = row := by
    simp only [reads] at cuts
    cases cuts with
    | later cuts =>
        rw [started] at cuts
        cases cuts with
        | now cuts =>
            rcases Framing.cuts_of_message rfl whole cuts with first | ⟨next, behind⟩
            · exact first
            · exact absurd behind (Framing.not_cuts_of_undecided rfl rfl)
        | later cuts =>
            cases cuts
  have marked (frame : Bytes) (cuts : start.Cuts setup .backend reads frame) :
      frame.headD 0 = ascii 'D' → ∀ length ∈ Framing.rowLengths frame,
        length < 0 → length = -1 := by
    rw [only frame cuts]
    decide +kernel
  refine ⟨cut, marked, by decide +kernel, by decide +kernel, ?_⟩
  exact (reads_are_passed_on_unchanged setup rfl passive () () reads marked 2).2

end Session

end ColumnVeil.Relay
