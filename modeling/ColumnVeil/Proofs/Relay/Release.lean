import ColumnVeil.Proofs.Traversal.Run
import ColumnVeil.Proofs.Wire.Rewriting
import ColumnVeil.Relay.Exchange

/-!
# Release of result sets

The result set of a query that passed the shields reaches the client as a whole or not at
all.  While descriptions and rows arrive, nothing is written.  At the end, either every
message has passed the shields and all that were not discarded are released together, or
the client receives one error, and nothing more of the results until the server is ready
for the next query.

What the shields make of a result set is said without the exchange, by `Shield.treat` for
one message and by a loop over the list of arrivals.  The main statement compares the
exchange with that loop, for every shield, in every state in which a result set can start.
-/

namespace ColumnVeil

open Relay Wire

variable {σ : Type}

/-- A message of a result set before its end. -/
inductive Arrival where
  | description (columns : List Column)
  | row (values : Row)

/-- The message that brings an arrival. -/
def Arrival.message : Arrival → Message
  | .description columns => .rowDescription columns
  | .row values => .dataRow values

/-- The tags of the messages that carry results. -/
def resultTags : List UInt8 :=
  [ascii 'T', ascii 'D', ascii 'C', ascii 'I', ascii 'E']

namespace Wire.Message

/-- Whether a message carries a result. -/
def isResult (message : Message) : Bool :=
  message.tag.any resultTags.contains

/-- Whether a message says that the server is ready for the next query. -/
def isReady : Message → Bool
  | .readyForQuery _ => true
  | _ => false

/-- Whether a message can be read from the stream of the server. -/
def FromServer (message : Message) : Prop :=
  ∃ tag frame, ofFrame (MessageKind.ofTag .backend tag).body (some tag) frame 5 = .ok message

end Wire.Message

/-- What a shield makes of an arrival; nothing remains of a row that it discards. -/
def Shield.treat (shield : Shield σ) (statement : Nat) : Arrival → Step σ (Option Message)
  | .description columns => do
      return some (.rowDescription (← shield.describe columns statement))
  | .row values => do
      match ← shield.inspect values with
      | (.keep, row) => return some (.dataRow row)
      | (.discard, _) => return none

/-- Whether a message brings a row. -/
def isRow : Message → Bool
  | .dataRow _ => true
  | _ => false

/-- The number of rows among the messages that a shield has left over. -/
def rowCount (treated : List (Option Message)) : Nat :=
  (treated.filterMap id).countP isRow

/--
The tag that ends a released result set.  It counts the rows anew if some were
discarded and the server's tag counts rows.
-/
def closingTag (treated : List (Option Message)) (tag : Bytes) : Bytes :=
  if none ∈ treated ∧ Text.utf8 "SELECT " <+: tag then
    Text.utf8 ("SELECT " ++ toString (rowCount treated))
  else tag

namespace Relay

/-- The response at the start of the result set of a statement that passed the shields. -/
def Response.starting (statement : Nat) : Response :=
  { guarded := true, statement }

namespace Exchange

/-- The messages of the server, one after the other. -/
def onServer (policy : Policy σ) : Exchange σ → List Message → Exchange σ × Output
  | exchange, [] => (exchange, {})
  | exchange, message :: messages =>
      let (next, output) := exchange.onMessage policy .backend message
      let (last, more) := next.onServer policy messages
      (last, output ++ more)

end Exchange

/-- Messages in a row bring the outputs of both parts in a row. -/
theorem Exchange.onServer_append (policy : Policy σ) (exchange : Exchange σ)
    (first second : List Message) :
    exchange.onServer policy (first ++ second) =
      ((exchange.onServer policy first).1.onServer policy second).map id
        fun output => (exchange.onServer policy first).2 ++ output := by
  induction first generalizing exchange with
  | nil =>
      rfl
  | cons message messages inductionHypothesis =>
      simp only [List.cons_append, onServer, inductionHypothesis]
      refine Prod.ext rfl ?_
      simp only [Prod.map_snd]
      exact (Output.append_assoc _ _ _).symm

theorem Exchange.onServer_singleton (policy : Policy σ) (exchange : Exchange σ)
    (message : Message) :
    exchange.onServer policy [message] = exchange.onMessage policy .backend message := by
  simp [onServer]

/-! ## Holding back -/

/-- The response that holds back what a shield has left over of an arrival. -/
def Response.hold (response : Response) : Option Message → Response
  | none => { response with dropped := response.dropped + 1 }
  | some message =>
      { response with
        retained := response.retained ++ [message]
        kept := response.kept + if isRow message then 1 else 0 }

/-- What is held back of one arrival after the other. -/
def Response.holdAll (response : Response) (treated : List (Option Message)) : Response :=
  treated.foldl Response.hold response

namespace Response

@[simp]
theorem guarded_hold (response : Response) (treated : Option Message) :
    (response.hold treated).guarded = response.guarded := by
  cases treated <;> rfl

@[simp]
theorem statement_hold (response : Response) (treated : Option Message) :
    (response.hold treated).statement = response.statement := by
  cases treated <;> rfl

@[simp]
theorem isSpoiled_hold (response : Response) (treated : Option Message) :
    (response.hold treated).isSpoiled = response.isSpoiled := by
  cases treated <;> rfl

/-- What is held back in the end, in the order of arrival, and how it is counted. -/
theorem holdAll_eq (response : Response) (treated : List (Option Message)) :
    response.holdAll treated =
      { response with
        retained := response.retained ++ treated.filterMap id
        kept := response.kept + rowCount treated
        dropped := response.dropped + treated.countP Option.isNone } := by
  induction treated generalizing response with
  | nil =>
      simp [holdAll, rowCount]
  | cons first rest inductionHypothesis =>
      have later := inductionHypothesis (response.hold first)
      simp only [holdAll, List.foldl_cons] at later ⊢
      rw [later]
      cases first with
      | none =>
          simp [hold, rowCount]
          omega
      | some message =>
          simp [hold, rowCount, List.countP_cons]
          omega

end Response

namespace Exchange

/-- A message that brings no output only changes the state for those behind it. -/
theorem onServer_cons_of_silent {policy : Policy σ} {exchange next : Exchange σ}
    {message : Message}
    (silent : exchange.onMessage policy .backend message = (next, {}))
    (messages : List Message) :
    exchange.onServer policy (message :: messages) = next.onServer policy messages := by
  rw [onServer, silent]
  rfl

/-- The response that has failed drops what arrives until the end. -/
theorem onMessage_arrival_of_failure (policy : Policy σ) (exchange : Exchange σ)
    (arrival : Arrival) {failure : Failure}
    (guarded : exchange.response.guarded = true)
    (failed : exchange.response.failure = some failure) :
    exchange.onMessage policy .backend arrival.message = (exchange, {}) := by
  have spoiled : exchange.response.isSpoiled = true := by
    simp [Response.isSpoiled, failed]
  cases arrival with
  | description columns =>
      simp [Arrival.message, onMessage, onRowDescription, guarded, spoiled]
  | row values =>
      simp [Arrival.message, onMessage, onDataRow, guarded, spoiled]

/-- An arrival is treated by the shield and held back, or its failure is noted. -/
theorem onMessage_arrival (policy : Policy σ) (exchange : Exchange σ) (arrival : Arrival)
    (guarded : exchange.response.guarded = true)
    (clean : exchange.response.isSpoiled = false) :
    exchange.onMessage policy .backend arrival.message =
      match (policy.shield.treat exchange.response.statement arrival).run.run
          exchange.chain with
      | (.ok treated, chain) =>
          ({ exchange with chain, response := exchange.response.hold treated }, {})
      | (.error failure, chain) =>
          ({ exchange with
              chain, response := { exchange.response with failure := some failure } }, {}) := by
  cases arrival with
  | description columns =>
      simp only [Arrival.message, onMessage, onRowDescription, guarded, clean,
        Shield.treat, run_bind]
      rcases (policy.shield.describe columns exchange.response.statement).run.run
        exchange.chain with ⟨outcome, chain⟩
      cases outcome with
      | error failure =>
          simp
      | ok described =>
          simp only [run_pure]
          simp [Response.hold, isRow, guarded]
  | row values =>
      simp only [Arrival.message, onMessage, onDataRow, guarded, clean,
        Shield.treat, run_bind]
      rcases (policy.shield.inspect values).run.run exchange.chain with ⟨outcome, chain⟩
      cases outcome with
      | error failure =>
          simp
      | ok inspected =>
          rcases inspected with ⟨action, row⟩
          cases action <;> simp only [run_pure] <;> simp [Response.hold, isRow, guarded]

/-- A response that has failed stays as it is, and nothing is written before the end. -/
theorem onServer_arrivals_of_failure (policy : Policy σ) (exchange : Exchange σ)
    (arrivals : List Arrival) {failure : Failure}
    (guarded : exchange.response.guarded = true)
    (failed : exchange.response.failure = some failure) :
    exchange.onServer policy (arrivals.map Arrival.message) = (exchange, {}) := by
  induction arrivals with
  | nil =>
      rfl
  | cons arrival arrivals inductionHypothesis =>
      have step := onMessage_arrival_of_failure policy exchange arrival guarded failed
      rw [List.map_cons, onServer_cons_of_silent step, inductionHypothesis]

/--
While a result set arrives nothing is written.  If the shield treats every arrival, what is
left over is held back; otherwise the response has the first failure.
-/
theorem onServer_arrivals (policy : Policy σ) (exchange : Exchange σ)
    (arrivals : List Arrival)
    (guarded : exchange.response.guarded = true)
    (clean : exchange.response.isSpoiled = false) :
    match (arrivals.mapM (policy.shield.treat exchange.response.statement)).run.run
        exchange.chain with
    | (.ok treated, chain) =>
        exchange.onServer policy (arrivals.map Arrival.message) =
          ({ exchange with chain, response := exchange.response.holdAll treated }, {})
    | (.error failure, chain) =>
        ∃ response : Response,
          response.guarded = true ∧ response.aborted = false ∧
            response.failure = some failure ∧
              exchange.onServer policy (arrivals.map Arrival.message) =
                ({ exchange with chain, response }, {}) := by
  induction arrivals generalizing exchange with
  | nil =>
      rfl
  | cons arrival arrivals inductionHypothesis =>
      have step := onMessage_arrival policy exchange arrival guarded clean
      rw [List.mapM_cons, run_bind, List.map_cons]
      rcases treating :
        (policy.shield.treat exchange.response.statement arrival).run.run exchange.chain with
        ⟨outcome, chain⟩
      rw [treating] at step
      cases outcome with
      | error failure =>
          have notAborted : exchange.response.aborted = false := by
            simp only [Response.isSpoiled, Bool.or_eq_false_iff] at clean
            exact clean.1
          refine ⟨{ exchange.response with failure := some failure },
            guarded, notAborted, rfl, ?_⟩
          rw [onServer_cons_of_silent step]
          exact onServer_arrivals_of_failure policy _ arrivals guarded rfl
      | ok treated =>
          have later := inductionHypothesis
            { exchange with chain, response := exchange.response.hold treated }
            (by simpa using guarded) (by simpa using clean)
          rw [onServer_cons_of_silent step]
          simp only [Response.statement_hold, run_bind] at later ⊢
          rcases treatingRest :
            (arrivals.mapM (policy.shield.treat exchange.response.statement)).run.run chain
            with ⟨outcome, last⟩
          rw [treatingRest] at later
          cases outcome with
          | error failure =>
              exact later
          | ok rest =>
              exact later

end Exchange

/-! ## The end of a result set -/

/-- A tag of a result means a kind of message that the exchange interprets. -/
theorem body_of_resultTag :
    ∀ tag ∈ resultTags,
      (MessageKind.ofTag .backend tag).body ∈
        [.rowDescription, .dataRow, .commandComplete, .emptyQueryResponse, .errorResponse] := by
  intro tag member
  simp only [resultTags, List.mem_cons, List.not_mem_nil, or_false] at member
  rcases member with rfl | rfl | rfl | rfl | rfl <;> decide

/-- The server sends no queries and prepares no statements. -/
theorem body_of_backend (tag : UInt8) :
    (MessageKind.ofTag .backend tag).body ≠ .query ∧
      (MessageKind.ofTag .backend tag).body ≠ .parse :=
  MessageKind.of_lookup (motive := fun _ kind => kind.body ≠ .query ∧ kind.body ≠ .parse)
    (by decide) tag (by decide)

/-- A message of the server carries a result, or says that the server is ready, or is raw. -/
theorem kinds_of_fromServer {message : Message} (fromServer : message.FromServer) :
    (message.isResult = true ∧ ∀ tag bytes, message ≠ .raw tag bytes) ∨
      message.isReady = true ∨
        ∃ tag bytes, message = .raw tag bytes ∧ message.isResult = false := by
  rcases fromServer with ⟨tag, frame, read⟩
  have notAsked := body_of_backend tag
  have results := body_of_resultTag tag
  cases body : (MessageKind.ofTag .backend tag).body
  case query =>
      exact absurd body notAsked.1
  case parse =>
      exact absurd body notAsked.2
  all_goals rw [body] at read results
  case rowDescription | dataRow | commandComplete | emptyQueryResponse | errorResponse =>
      rcases exists_of_map_eq_ok read with ⟨parts, -, rfl⟩
      exact Or.inl ⟨rfl, fun _ _ => Message.noConfusion⟩
  case readyForQuery =>
      rcases exists_of_map_eq_ok read with ⟨parts, -, rfl⟩
      exact Or.inr (Or.inl rfl)
  -- The other kinds are not looked into, and no result has a tag of such a kind.
  all_goals
    cases read
    have notResult : tag ∉ resultTags := by
      intro member
      exact absurd (results member) (by decide)
    refine Or.inr (Or.inr ⟨some tag, frame, rfl, ?_⟩)
    simpa [Message.isResult, Message.tag] using notResult

namespace Exchange

/-- What is written of a message of the server where the results have been given up. -/
def passed (message : Message) : Output :=
  if message.isResult then {} else .forward .backend message.write

/-- Where the results have been given up, no result is written. -/
theorem onMessage_of_aborted (policy : Policy σ) (exchange : Exchange σ) {message : Message}
    (fromServer : message.FromServer) (notReady : message.isReady = false)
    (guarded : exchange.response.guarded = true)
    (aborted : exchange.response.aborted = true) :
    ∃ next,
      exchange.onMessage policy .backend message = (next, passed message) ∧
        next.response.guarded = true ∧ next.response.aborted = true := by
  rcases kinds_of_fromServer fromServer with
    ⟨result, notRaw⟩ | ready | ⟨tag, bytes, rfl, notResult⟩
  · rw [passed, if_pos result]
    cases message with
    | rowDescription columns =>
        refine ⟨exchange, ?_, guarded, aborted⟩
        simp [onMessage, onRowDescription, Response.isSpoiled, guarded, aborted]
    | dataRow values =>
        refine ⟨exchange, ?_, guarded, aborted⟩
        simp [onMessage, onDataRow, Response.isSpoiled, guarded, aborted]
    | commandComplete tag =>
        refine ⟨exchange, ?_, guarded, aborted⟩
        simp [onMessage, onCommandComplete, guarded, aborted]
    | emptyQueryResponse =>
        refine ⟨exchange, ?_, guarded, aborted⟩
        simp [onMessage, onEmptyQueryResponse, aborted]
    | errorResponse fields terminator =>
        refine ⟨{ exchange with response := exchange.response.cleared }, ?_, guarded, aborted⟩
        simp [onMessage, onErrorResponse, aborted]
    | query text =>
        cases result
    | parse name text types =>
        cases result
    | readyForQuery status =>
        cases result
    | raw tag bytes =>
        exact absurd rfl (notRaw tag bytes)
  · rw [notReady] at ready
    cases ready
  · refine ⟨exchange, ?_, guarded, aborted⟩
    rw [passed, notResult]
    rfl

/--
Until the server is ready for the next query, what is written of the messages of
the server are exactly those that carry no result.
-/
theorem onServer_of_aborted (policy : Policy σ) (exchange : Exchange σ)
    (messages : List Message)
    (later : ∀ message ∈ messages, message.FromServer ∧ message.isReady = false)
    (guarded : exchange.response.guarded = true)
    (aborted : exchange.response.aborted = true) :
    (exchange.onServer policy messages).2.toClient =
      (messages.filter fun message => !message.isResult).flatMap Message.write := by
  induction messages generalizing exchange with
  | nil =>
      rfl
  | cons message messages inductionHypothesis =>
      have first := later message List.mem_cons_self
      rcases onMessage_of_aborted policy exchange first.1 first.2 guarded aborted with
        ⟨next, step, stillGuarded, stillAborted⟩
      have rest := inductionHypothesis next
        (fun message member => later message (List.mem_cons_of_mem _ member))
        stillGuarded stillAborted
      rw [onServer, step]
      simp only [Output.toClient_append, rest]
      cases result : message.isResult with
      | true =>
          simp [passed, result]
      | false =>
          simp [passed, result, Output.forward]

/-- The end of a result set that has failed brings the failure, and gives up the results. -/
theorem onMessage_commandComplete_of_failure (policy : Policy σ) (exchange : Exchange σ)
    (tag : Bytes) {failure : Failure}
    (guarded : exchange.response.guarded = true)
    (notAborted : exchange.response.aborted = false)
    (failed : exchange.response.failure = some failure) :
    let ended := exchange.onMessage policy .backend (.commandComplete tag)
    ended.2.toServer = [] ∧ ended.2.toClient = (errorMessage failure).write ∧
      ended.1.response.guarded = true ∧ ended.1.response.aborted = true := by
  simp [onMessage, onCommandComplete, guarded, notAborted, failed, Output.note,
    Output.answer, Response.cleared]

/-- The end of a result set that was held back releases all of it. -/
theorem onMessage_commandComplete_of_held (policy : Policy σ) (exchange : Exchange σ)
    (statement : Nat) (treated : List (Option Message)) (tag : Bytes)
    (held : exchange.response = (Response.starting statement).holdAll treated) :
    let ended := exchange.onMessage policy .backend (.commandComplete tag)
    ended.1 = { exchange with response := .starting (statement + 1) } ∧
      ended.2.toServer = [] ∧
        ended.2.toClient =
          (treated.filterMap id ++ [Message.commandComplete (closingTag treated tag)]).flatMap
            Message.write := by
  rw [Response.holdAll_eq] at held
  by_cases discarded : none ∈ treated
  · have counted : treated.countP Option.isNone ≠ 0 := by
      intro zero
      have kept := List.countP_eq_zero.mp zero none discarded
      exact kept rfl
    simp [onMessage, onCommandComplete, held, Response.starting, Response.nextStatement,
      Response.cleared, counted, closingTag, discarded, recounted, Output.answer, Output.note]
  · have counted : treated.countP Option.isNone = 0 := by
      rw [List.countP_eq_zero]
      intro message member absent
      rw [Option.isNone_iff_eq_none] at absent
      exact discarded (absent ▸ member)
    simp [onMessage, onCommandComplete, held, Response.starting, Response.nextStatement,
      Response.cleared, counted, closingTag, discarded, Output.answer]

/-! ## Where a result set starts -/

/-- A query that passed the shields is followed by the start of a result set. -/
theorem response_onQuery (policy : Policy σ) (exchange : Exchange σ) {text : Bytes}
    {query rewritten : String} {chain : σ} (shielding : policy.shielding = true)
    (decoded : Text.decode? text = some query)
    (passed : (policy.shieldText query).run.run exchange.chain =
      (.ok (some rewritten), chain)) :
    (exchange.onQuery policy text).1.response = .starting 0 := by
  simp only [onQuery, shielding, decoded, passed]
  rfl

/-- The result set of an empty statement is followed by the start of the next one. -/
theorem response_onEmptyQueryResponse (exchange : Exchange σ) (statement : Nat)
    (start : exchange.response = .starting statement) :
    exchange.onEmptyQueryResponse.1.response = .starting (statement + 1) := by
  simp only [onEmptyQueryResponse, start]
  rfl

/-! ## Whole or nothing -/

/--
From the start of a result set, nothing is written while descriptions and rows
arrive.  If the shield treats all of them, the end releases what it has left over
in order of arrival, then one tag, and the next result set can start.  If the
shield fails, the end brings its first failure alone, and no result is written
until the server is ready for the next query.
-/
theorem onServer_releases_whole_or_nothing (policy : Policy σ) (exchange : Exchange σ)
    (statement : Nat) (start : exchange.response = .starting statement)
    (arrivals : List Arrival) (tag : Bytes) :
    (exchange.onServer policy (arrivals.map Arrival.message)).2 = {} ∧
      let ended := exchange.onServer policy
        (arrivals.map Arrival.message ++ [.commandComplete tag])
      match (arrivals.mapM (policy.shield.treat statement)).run.run exchange.chain with
      | (.ok treated, chain) =>
          ended.1 = { exchange with chain, response := .starting (statement + 1) } ∧
            ended.2.toServer = [] ∧
              ended.2.toClient =
                (treated.filterMap id
                  ++ [Message.commandComplete (closingTag treated tag)]).flatMap Message.write
      | (.error failure, _) =>
          ended.2.toServer = [] ∧ ended.2.toClient = (errorMessage failure).write ∧
            ∀ messages : List Message,
              (∀ message ∈ messages, message.FromServer ∧ message.isReady = false) →
                (ended.1.onServer policy messages).2.toClient =
                  (messages.filter fun message => !message.isResult).flatMap
                    Message.write := by
  have arrived := onServer_arrivals policy exchange arrivals (by rw [start]; rfl)
    (by rw [start]; rfl)
  rw [start] at arrived
  simp only [Response.starting] at arrived
  simp only [onServer_append, onServer_singleton]
  rcases treating :
    (arrivals.mapM (policy.shield.treat statement)).run.run exchange.chain with
    ⟨outcome, chain⟩
  rw [treating] at arrived
  cases outcome with
  | ok treated =>
      simp only at arrived ⊢
      rw [arrived]
      have ended := onMessage_commandComplete_of_held policy
        { exchange with chain, response := (Response.starting statement).holdAll treated }
        statement treated tag rfl
      exact ⟨rfl, ended⟩
  | error failure =>
      rcases arrived with ⟨response, guarded, notAborted, failed, arrived⟩
      simp only
      rw [arrived]
      have ended := onMessage_commandComplete_of_failure policy
        { exchange with chain, response } tag guarded notAborted failed
      refine ⟨rfl, ended.1, ended.2.1, ?_⟩
      intro messages later
      exact onServer_of_aborted policy _ messages later ended.2.2.1 ended.2.2.2

/-- A shield that discards rows with a NULL. -/
def withoutNull : Shield Unit where
  protect := pure
  describe columns _ := pure columns
  inspect row := pure (if none ∈ row then .discard else .keep, row)

/-- Two rows arrive, one of which has a NULL, and only the other is released. -/
theorem withoutNull_releases_one_row :
    let policy : Policy Unit := { shield := withoutNull, session := "1" }
    let exchange : Exchange Unit := { chain := (), response := .starting 0 }
    let tag := Text.utf8 "SELECT 2"
    exchange.response = .starting 0 ∧
      (exchange.onServer policy
        [.rowDescription [], .dataRow [none], .dataRow [some [1]], .commandComplete tag]).2.toClient
          = [Message.rowDescription [], .dataRow [some [1]],
              .commandComplete
                (closingTag [some (.rowDescription []), none, some (.dataRow [some [1]])] tag)
            ].flatMap Message.write := by
  have released := onServer_releases_whole_or_nothing
    { shield := withoutNull, session := "1" } { chain := (), response := .starting 0 } 0 rfl
    [.description [], .row [none], .row [some [1]]] (Text.utf8 "SELECT 2")
  exact ⟨rfl, released.2.2.2⟩

end Exchange

end Relay

end ColumnVeil
