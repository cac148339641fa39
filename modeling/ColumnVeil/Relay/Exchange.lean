import ColumnVeil.Relay.Output
import ColumnVeil.Shield.Basic
import ColumnVeil.Sql.Parser
import ColumnVeil.Sql.Printer

/-!
# The exchange of queries and results

A query is rewritten on its way to the server, or refused and answered at once.  The result
set of a query that was read is held back until its end: either every row has passed the
shields and the whole set is released, or nothing is and the client gets an error instead.

Prepared statements cannot be rewritten, so a batch that begins with one is refused, and
what follows it is dropped up to the next Sync.
-/

namespace ColumnVeil.Relay

open Wire

/-- How the messages of a session are treated. -/
structure Policy (σ : Type) where
  shield : Shield σ
  /-- Shield queries and results, instead of passing all messages on. -/
  shielding : Bool := true
  /-- Pass on queries that cannot be read. -/
  permissive : Bool := false
  /-- The name of the session in events. -/
  session : String

/-- What is known of the results of the query in flight. -/
structure Response where
  /-- The results belong to a query that passed the shields. -/
  guarded : Bool := false
  /-- The statement whose result set arrives. -/
  statement : Nat := 0
  /-- The messages that are held back. -/
  retained : List Message := []
  kept : Nat := 0
  dropped : Nat := 0
  /-- The first failure on the result set. -/
  failure : Option Failure := none
  /-- A result set was replaced by an error, so everything is dropped until the server is
  ready for the next query. -/
  aborted : Bool := false
deriving Repr

namespace Response

/-- The response with no messages held back. -/
def cleared (response : Response) : Response :=
  { response with retained := [], kept := 0, dropped := 0, failure := none }

/-- The response at the start of the result set of the next statement. -/
def nextStatement (response : Response) : Response :=
  { response.cleared with statement := response.statement + 1 }

/-- Nothing more of the result set is wanted. -/
def isSpoiled (response : Response) : Bool :=
  response.aborted || response.failure.isSome

end Response

/-- The state of an exchange. -/
structure Exchange (σ : Type) where
  /-- The state of the shields. -/
  chain : σ
  response : Response := {}
  /-- The transaction status that the server announced last. -/
  status : UInt8 := idleStatus
  /-- A batch was refused; its messages are dropped up to Sync. -/
  skipping : Bool := false

/-- A failure as an error message for the client. -/
def errorMessage (failure : Failure) : Message :=
  Message.ofError failure.report.sqlstate failure.report.message

variable {σ : Type}

/-- The text to send for a query, or nothing if the query is to be passed on unread.  When no
shield has changed a statement, the client's own text is kept. -/
def Policy.shieldText (policy : Policy σ) (text : String) : Step σ (Option String) :=
  match Sql.parse text with
  | .error error => if policy.permissive then pure none else throw (.parse error)
  | .ok [] => pure none
  | .ok statements => do
    let rewritten := Sql.printStatements (← policy.shield.protect statements)
    return some (if rewritten = Sql.printStatements statements then text else rewritten)

namespace Exchange

/-- Refuse a query: note it, and answer in the server's place. -/
def refuse (policy : Policy σ) (exchange : Exchange σ) (failure : Failure) : Exchange σ × Output :=
  (exchange,
    Output.note (.queryRejected policy.session failure.report.message)
      ++ Output.answer (errorMessage failure)
      ++ Output.answer (.readyForQuery exchange.status))

/-- A query of the client. -/
def onQuery (policy : Policy σ) (exchange : Exchange σ) (text : Bytes) : Exchange σ × Output :=
  if !policy.shielding then (exchange, .forward .frontend (Message.query text).write)
  else match Text.decode? text with
    | none => exchange.refuse policy (.codec .invalidEncoding)
    | some query =>
      match (policy.shieldText query).run.run exchange.chain with
      | (.error failure, chain) => { exchange with chain }.refuse policy failure
      | (.ok none, chain) =>
        ({ exchange with chain, response := {} }, .forward .frontend (Message.query text).write)
      | (.ok (some rewritten), chain) =>
        ({ exchange with chain, response := { guarded := true } },
          if rewritten = query then .forward .frontend (Message.query text).write
          else Output.note (.queryRewritten policy.session rewritten)
            ++ .forward .frontend (Message.ofQuery rewritten).write)

/-- A statement that the client wants to prepare. -/
def onParse (policy : Policy σ) (exchange : Exchange σ) (message : Message) :
    Exchange σ × Output :=
  if !policy.shielding then (exchange, .forward .frontend message.write)
  else
    ({ exchange with skipping := true },
      Output.note (.preparedStatementRejected policy.session)
        ++ Output.answer (errorMessage (.unsupported .preparedStatements)))

/-- The tags of messages that belong to a batch: Bind, Describe, Execute, Close and Flush. -/
def batchTags : List UInt8 :=
  [ascii 'B', ascii 'D', ascii 'E', ascii 'C', ascii 'H']

/-- Any other message of the client. -/
def onOther (exchange : Exchange σ) (tag : Option UInt8) (bytes : Bytes) : Exchange σ × Output :=
  if !exchange.skipping then (exchange, .forward .frontend bytes)
  else if tag = some (ascii 'S') then
    ({ exchange with skipping := false }, .answer (.readyForQuery exchange.status))
  else if tag.any batchTags.contains then (exchange, {})
  else ({ exchange with skipping := false }, .forward .frontend bytes)

/-- A description of rows from the server. -/
def onRowDescription (policy : Policy σ) (exchange : Exchange σ) (columns : List Column) :
    Exchange σ × Output :=
  let response := exchange.response
  if !response.guarded then (exchange, .answer (.rowDescription columns))
  else if response.isSpoiled then (exchange, {})
  else match (policy.shield.describe columns response.statement).run.run exchange.chain with
    | (.error failure, chain) =>
      ({ exchange with chain, response := { response with failure := some failure } }, {})
    | (.ok described, chain) =>
      let retained := response.retained ++ [.rowDescription described]
      ({ exchange with chain, response := { response with retained } }, {})

/-- A row from the server. -/
def onDataRow (policy : Policy σ) (exchange : Exchange σ) (values : Row) : Exchange σ × Output :=
  let response := exchange.response
  if !response.guarded then (exchange, .answer (.dataRow values))
  else if response.isSpoiled then (exchange, {})
  else match (policy.shield.inspect values).run.run exchange.chain with
    | (.error failure, chain) =>
      ({ exchange with chain, response := { response with failure := some failure } }, {})
    | (.ok (.discard, _), chain) =>
      ({ exchange with chain, response := { response with dropped := response.dropped + 1 } }, {})
    | (.ok (.keep, row), chain) =>
      let retained := response.retained ++ [.dataRow row]
      let kept := response.kept + 1
      ({ exchange with chain, response := { response with retained, kept } }, {})

/-- The tag of a command with the number of rows that the client gets, where the tag tells
the number of rows. -/
def recounted (tag : Bytes) (kept : Nat) : Bytes :=
  if Text.utf8 "SELECT " <+: tag then Text.utf8 ("SELECT " ++ toString kept) else tag

/-- The end of a result set: release it, or replace it by the failure. -/
def onCommandComplete (policy : Policy σ) (exchange : Exchange σ) (tag : Bytes) :
    Exchange σ × Output :=
  let response := exchange.response
  if !response.guarded then (exchange, .answer (.commandComplete tag))
  else if response.aborted then (exchange, {})
  else match response.failure with
    | some failure =>
      ({ exchange with response := { response.cleared with aborted := true } },
        Output.note (.resultSetDiscarded policy.session failure.report.message
            response.retained.length)
          ++ Output.answer (errorMessage failure))
    | none =>
      let released : Output := { toClient := response.retained.flatMap Message.write }
      ({ exchange with response := response.nextStatement },
        if response.dropped = 0 then released ++ Output.answer (.commandComplete tag)
        else released ++ Output.note (.rowsFiltered policy.session response.dropped)
          ++ Output.answer (.commandComplete (recounted tag response.kept)))

/-- The end of the result set of an empty query. -/
def onEmptyQueryResponse (exchange : Exchange σ) : Exchange σ × Output :=
  if exchange.response.aborted then (exchange, {})
  else ({ exchange with response := exchange.response.nextStatement }, .answer .emptyQueryResponse)

/-- An error from the server, which takes the place of the result set. -/
def onErrorResponse (exchange : Exchange σ) (message : Message) : Exchange σ × Output :=
  let next := { exchange with response := exchange.response.cleared }
  if exchange.response.aborted then (next, {}) else (next, .answer message)

/-- The server is ready for the next query. -/
def onReadyForQuery (exchange : Exchange σ) (status : UInt8) : Exchange σ × Output :=
  ({ exchange with status, response := {} }, .answer (.readyForQuery status))

/-- A message from a side.  Messages are told apart by their kind; only the kinds that do not
tell their side, those passed on as bytes, need it. -/
def onMessage (policy : Policy σ) (side : Side) (message : Message) (exchange : Exchange σ) :
    Exchange σ × Output :=
  match message with
  | .query text => exchange.onQuery policy text
  | .parse .. => exchange.onParse policy message
  | .rowDescription columns => exchange.onRowDescription policy columns
  | .dataRow values => exchange.onDataRow policy values
  | .commandComplete tag => exchange.onCommandComplete policy tag
  | .emptyQueryResponse => exchange.onEmptyQueryResponse
  | .errorResponse .. => exchange.onErrorResponse message
  | .readyForQuery status => exchange.onReadyForQuery status
  | .raw tag bytes =>
    match side with
    | .frontend => exchange.onOther tag bytes
    | .backend => (exchange, .forward .backend bytes)

end Exchange

end ColumnVeil.Relay
