import ColumnVeil.Proofs.Relay.Release

/-!
# Refused batches

A batch of messages that prepare and run statements ends with a Sync.  Prepared statements are
refused, so nothing of such a batch comes to the server.  The client gets an error for each
statement that it wants to prepare, also where the batch is refused already, and at the Sync
the message that the server is ready; then the exchange is as it was before.

The step lemma says what one message of a refused batch brings (`onMessage_of_refused`), the
run lemma follows the batch up to its end.
-/

namespace ColumnVeil.Relay

open Wire

/-- Messages that belong to a batch: those that prepare a statement, and those that are dropped
where the batch is refused. -/
inductive Batched : Message → Prop
  | parse (name text : Bytes) (types : List Int32) : Batched (.parse name text types)
  | other {tag : UInt8} (bytes : Bytes) :
      tag ∈ Exchange.batchTags → Batched (.raw (some tag) bytes)

/-- Whether a message prepares a statement. -/
def prepares : Message → Bool
  | .parse .. => true
  | _ => false

/-- The error for a statement that the client wants to prepare. -/
def refusal : Message :=
  errorMessage (.unsupported .preparedStatements)

/-- The errors for some messages, one for each that prepares a statement. -/
def refusals (messages : List Message) : List Message :=
  (messages.filter prepares).map fun _ => refusal

/-- What becomes of some messages of a refused batch: the errors with an event each, and nothing
for the server. -/
def refusedOutput (session : String) (messages : List Message) : Output where
  toClient := (refusals messages).flatMap Message.write
  events := (refusals messages).map fun _ => .preparedStatementRejected session

theorem refusals_cons (message : Message) (messages : List Message) :
    refusals (message :: messages) = refusals [message] ++ refusals messages := by
  rw [← List.singleton_append, refusals, List.filter_append, List.map_append]
  rfl

theorem refusedOutput_cons (session : String) (message : Message) (messages : List Message) :
    refusedOutput session (message :: messages) =
      refusedOutput session [message] ++ refusedOutput session messages := by
  ext1
  · rfl
  · simp only [refusedOutput, refusals_cons message messages, List.flatMap_append,
      Output.toClient_append]
  · simp only [refusedOutput, refusals_cons message messages, List.map_append,
      Output.events_append]

/-- Messages none of which prepares a statement are not answered. -/
theorem flatMap_write_refusals_eq_nil_iff {messages : List Message} :
    (refusals messages).flatMap Message.write = [] ↔
      ∀ message ∈ messages, prepares message = false := by
  have present : refusal.write ≠ [] := List.cons_ne_nil _ _
  simp only [refusals, List.flatMap_map, List.flatMap_eq_nil_iff, List.mem_filter, present,
    imp_false, not_and, Bool.not_eq_true]

variable {σ : Type}

namespace Exchange

/-- The messages of the client, one after the other. -/
def onClient (policy : Policy σ) : Exchange σ → List Message → Exchange σ × Output
  | exchange, [] => (exchange, {})
  | exchange, message :: messages =>
      let (next, output) := exchange.onMessage policy .frontend message
      let (last, more) := next.onClient policy messages
      (last, output ++ more)

variable {policy : Policy σ} {exchange : Exchange σ}

theorem onParse_of_shielding (shielding : policy.shielding = true) (exchange : Exchange σ)
    (name text : Bytes) (types : List Int32) :
    exchange.onMessage policy .frontend (.parse name text types) =
      ({ exchange with skipping := true },
        refusedOutput policy.session [.parse name text types]) := by
  simp only [onMessage, onParse, shielding, Bool.not_true, Bool.false_eq_true, if_false]
  refine Prod.ext rfl ?_
  ext1
  · rfl
  · exact (List.append_nil _).symm
  · rfl

/-- The step lemma: a message of a refused batch leaves the exchange as it is, and is answered
only if it prepares a statement. -/
theorem onMessage_of_refused (shielding : policy.shielding = true)
    (refused : exchange.skipping = true) {message : Message} (batched : Batched message) :
    exchange.onMessage policy .frontend message =
      (exchange, refusedOutput policy.session [message]) := by
  cases batched with
  | parse name text types =>
      rw [onParse_of_shielding shielding, ← refused]
  | @other tag bytes member =>
      have noSync : ¬ some tag = some (ascii 'S') := by
        rintro same
        cases same
        exact absurd member (by decide)
      simp only [onMessage, onOther, refused, Bool.not_true, Bool.false_eq_true, if_false,
        if_neg noSync, Option.any_some, List.contains_iff_mem.mpr member, if_true]
      rfl

/-- The run lemma: the rest of a refused batch brings its errors, and at its Sync the exchange
goes on from where it was. -/
theorem onClient_of_refused (shielding : policy.shielding = true) (exchange : Exchange σ)
    (refused : exchange.skipping = true) {batch : List Message}
    (batched : ∀ message ∈ batch, Batched message) (sync : Bytes) :
    exchange.onClient policy (batch ++ [.raw (some (ascii 'S')) sync]) =
      ({ exchange with skipping := false },
        refusedOutput policy.session batch ++ .answer (.readyForQuery exchange.status)) := by
  induction batch with
  | nil =>
      simp only [List.nil_append, onClient, onMessage, onOther, refused, Bool.not_true,
        Bool.false_eq_true, if_false, if_true]
      rfl
  | cons message batch inductionHypothesis =>
      have step := onMessage_of_refused shielding refused (batched message List.mem_cons_self)
      have run := inductionHypothesis fun later member =>
        batched later (List.mem_cons_of_mem message member)
      rw [refusedOutput_cons, Output.append_assoc]
      simp only [List.cons_append, onClient, step, run]

/--
Batches of prepared statements are refused.  With shields, and no batch being refused, a batch
that begins by preparing a statement leaves the exchange as it was at its Sync, and the
messages behind it are forwarded again.  Nothing of the batch reaches the server.  The client
gets an error for each statement to prepare, then once the message that the server is ready,
with the status that it announced last: a single error comes before it exactly if the rest of
the batch prepares no further statement.
-/
theorem batches_are_refused (policy : Policy σ) (exchange : Exchange σ)
    (shielding : policy.shielding = true) (idle : exchange.skipping = false)
    (name text : Bytes) (types : List Int32) {batch : List Message}
    (batched : ∀ message ∈ batch, Batched message) (sync : Bytes) :
    let messages := .parse name text types :: batch
    let run := exchange.onClient policy (messages ++ [.raw (some (ascii 'S')) sync])
    let answer := refusals messages ++ [Message.readyForQuery exchange.status]
    run.1 = exchange ∧
    run.2.toServer = [] ∧
    run.2.toClient = answer.flatMap Message.write ∧
    run.2.events = (refusals messages).map (fun _ => .preparedStatementRejected policy.session) ∧
    (answer.flatMap Message.write =
        ([refusal, Message.readyForQuery exchange.status]).flatMap Message.write ↔
      ∀ message ∈ batch, prepares message = false) ∧
    ∀ tag bytes, run.1.onMessage policy .frontend (.raw tag bytes) =
      (exchange, .forward .frontend bytes) := by
  intro messages run answer
  have first := onParse_of_shielding shielding exchange name text types
  have later := onClient_of_refused shielding { exchange with skipping := true } rfl batched sync
  have whole : run = (exchange, refusedOutput policy.session messages ++
      .answer (.readyForQuery exchange.status)) := by
    have both := refusedOutput_cons policy.session (.parse name text types) batch
    simp only [run, messages, List.cons_append, onClient, first, later, both,
      Output.append_assoc, ← idle]
  have opened : refusals messages = refusal :: refusals batch := refusals_cons _ batch
  rw [whole]
  refine ⟨rfl, rfl, ?_, ?_, ?_, ?_⟩
  · simp only [answer, Output.toClient_append, refusedOutput, Output.answer, List.flatMap_append,
      List.flatMap_singleton]
  · simp only [refusedOutput, Output.events_append, Output.answer, List.append_nil]
  · simp only [answer, opened, List.cons_append, List.flatMap_cons, List.flatMap_append,
      List.flatMap_nil, List.append_nil, List.append_cancel_left_eq, List.append_left_eq_self]
    exact flatMap_write_refusals_eq_nil_iff
  · intro tag bytes
    simp only [onMessage, onOther, idle, Bool.not_false, if_true]

/-- A batch with one statement to prepare gets one error. -/
theorem preparedAndBound_is_refused_once :
    let policy : Policy Unit := { shield := withoutNull, session := "1" }
    let exchange : Exchange Unit := { chain := (), status := ascii 'T' }
    let batch : List Message := [.raw (some (ascii 'B')) (Message.frame (ascii 'B') [])]
    let messages := .parse [] [59] [] :: batch
    policy.shielding = true ∧ exchange.skipping = false ∧ (∀ message ∈ batch, Batched message) ∧
      (exchange.onClient policy
        (messages ++ [.raw (some (ascii 'S')) (Message.frame (ascii 'S') [])])).2.toClient =
          ([refusal, .readyForQuery (ascii 'T')] : List Message).flatMap Message.write := by
  intro policy exchange batch messages
  have batched : ∀ message ∈ batch, Batched message :=
    List.forall_mem_singleton.mpr (.other _ (by decide))
  rcases batches_are_refused policy exchange rfl rfl [] [59] [] batched
    (Message.frame (ascii 'S') []) with ⟨-, -, answered, -, once, -⟩
  refine ⟨rfl, rfl, batched, answered.trans (once.mpr ?_)⟩
  exact List.forall_mem_singleton.mpr rfl

/-- A second statement to prepare is refused again, with an error and an event of its own. -/
theorem preparedTwice_is_refused_twice :
    let policy : Policy Unit := { shield := withoutNull, session := "1" }
    let exchange : Exchange Unit := { chain := (), status := ascii 'I' }
    let messages : List Message := [.parse [] [59] [], .parse [] [59] []]
    let run := exchange.onClient policy
      (messages ++ [.raw (some (ascii 'S')) (Message.frame (ascii 'S') [])])
    (∀ message ∈ messages, Batched message) ∧
      run.2.toClient =
        ([refusal, refusal, .readyForQuery (ascii 'I')] : List Message).flatMap Message.write ∧
      run.2.toClient ≠
        ([refusal, .readyForQuery (ascii 'I')] : List Message).flatMap Message.write ∧
      run.2.events.length = 2 := by
  intro policy exchange messages run
  have batched : ∀ message ∈ messages, Batched message := by
    simp only [messages, List.forall_mem_cons]
    exact ⟨.parse [] [59] [], .parse [] [59] [], List.forall_mem_nil _⟩
  have answered : run.2.toClient = ([refusal, refusal, .readyForQuery (ascii 'I')] :
    List Message).flatMap Message.write := rfl
  refine ⟨batched, answered, ?_, rfl⟩
  have present : 0 < refusal.write.length := Nat.succ_pos _
  rw [answered]
  intro same
  have lengths := congrArg List.length same
  simp only [List.flatMap_cons, List.length_append] at lengths
  omega

end Exchange

end ColumnVeil.Relay
