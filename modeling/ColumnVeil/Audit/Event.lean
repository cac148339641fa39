import ColumnVeil.Net.Address
import ColumnVeil.Text.Utf8

/-!
# Audit events

What a relay notes about its sessions.  An event does not know the time; a time is given
when it is written.  The text of a query is kept up to a limit and cut between characters
(`loggedQuery`).
-/

namespace ColumnVeil.Audit

/-- How serious an event is, from least to most. -/
inductive Severity
  | info
  | warning
  | high
  | critical
deriving DecidableEq, Repr

namespace Severity

/-- The place of a severity in the order. -/
def rank : Severity → Nat
  | info => 0
  | warning => 1
  | high => 2
  | critical => 3

/-- The severity as it is announced. -/
def word : Severity → String
  | info => "INFO"
  | warning => "WARNING"
  | high => "HIGH"
  | critical => "CRITICAL"

/-- The severity as a field of a structured event. -/
def name : Severity → String
  | info => "Info"
  | warning => "Warning"
  | high => "High"
  | critical => "Critical"

/-- All severities. -/
def all : List Severity := [info, warning, high, critical]

/-- The severity that a text names as a structured field. -/
def ofName? (text : String) : Option Severity :=
  all.find? fun severity => severity.name == text

/-- The severity that a text announces. -/
def ofWord? (text : String) : Option Severity :=
  all.find? fun severity => severity.word == text

end Severity

/-- What an event is about. -/
inductive EventKind
  | connectionAccepted
  | connectionClosed
  | sslNegotiation
  | queryRewritten
  | queryRejected
  | preparedStatementRejected
  | protocolViolation
  | resultSetDiscarded
  | rowsFiltered
deriving DecidableEq, Repr

namespace EventKind

/-- The kind of an event as it is announced. -/
def word : EventKind → String
  | connectionAccepted => "CONNECTION_ACCEPTED"
  | connectionClosed => "CONNECTION_CLOSED"
  | sslNegotiation => "SSL_NEGOTIATION"
  | queryRewritten => "QUERY_REWRITTEN"
  | queryRejected => "QUERY_REJECTED"
  | preparedStatementRejected => "PREPARED_STATEMENT_REJECTED"
  | protocolViolation => "PROTOCOL_VIOLATION"
  | resultSetDiscarded => "RESULT_SET_DISCARDED"
  | rowsFiltered => "ROWS_FILTERED"

/-- The kind of an event as a field of a structured event. -/
def name : EventKind → String
  | connectionAccepted => "ConnectionAccepted"
  | connectionClosed => "ConnectionClosed"
  | sslNegotiation => "SslNegotiation"
  | queryRewritten => "QueryRewritten"
  | queryRejected => "QueryRejected"
  | preparedStatementRejected => "PreparedStatementRejected"
  | protocolViolation => "ProtocolViolation"
  | resultSetDiscarded => "ResultSetDiscarded"
  | rowsFiltered => "RowsFiltered"

/-- All kinds of event. -/
def all : List EventKind :=
  [connectionAccepted, connectionClosed, sslNegotiation, queryRewritten, queryRejected,
    preparedStatementRejected, protocolViolation, resultSetDiscarded, rowsFiltered]

/-- The kind that a text names as a structured field. -/
def ofName? (text : String) : Option EventKind :=
  all.find? fun kind => kind.name == text

end EventKind

/-! ## The text of a query -/

/-- How many bytes of a query are kept. -/
def queryLimit : Nat := 1000

/-- What marks a query that has been cut. -/
def cutMark : String := "... [TRUNCATED]"

/-- The text of a query as it is kept. -/
def loggedQuery (text : String) : String :=
  if queryLimit < text.utf8ByteSize then Text.beginningWithin queryLimit text ++ cutMark else text

/-! ## Events -/

/-- Something that happened in a relay. -/
structure Event where
  kind : EventKind
  severity : Severity
  message : String
  client : Option Net.SocketAddress := none
  session : Option String := none
  query : Option String := none
  /-- Further facts under distinct keys. -/
  details : List (String × String) := []
deriving DecidableEq, Repr

namespace Event

/-- The event with a query, cut if it is too long. -/
def withQuery (event : Event) (text : String) : Event :=
  { event with query := some (loggedQuery text) }

/-- The event with one more fact, which replaces one under the same key. -/
def withDetail (event : Event) (key value : String) : Event :=
  { event with details := event.details.filter (fun detail => detail.1 != key) ++ [(key, value)] }

/-- A client has connected. -/
def connectionAccepted (session : String) (client : Net.SocketAddress) : Event :=
  { kind := .connectionAccepted, severity := .info, message := "client connected",
    session := some session, client := some client }

/-- A session has ended. -/
def connectionClosed (session reason : String) : Event :=
  { kind := .connectionClosed, severity := .info, message := reason, session := some session }

/-- Encryption has been negotiated with one end of a session. -/
def sslNegotiation (session direction outcome : String) : Event :=
  { kind := .sslNegotiation, severity := .info, message := outcome, session := some session,
    details := [("direction", direction)] }

/-- A query is sent in another form than the client's. -/
def queryRewritten (session rewritten : String) : Event :=
  { kind := .queryRewritten, severity := .info,
    message := "query rewritten for protected columns", session := some session,
    query := some (loggedQuery rewritten) }

/-- A query is refused. -/
def queryRejected (session reason : String) : Event :=
  { kind := .queryRejected, severity := .warning, message := reason, session := some session }

/-- A prepared statement is refused. -/
def preparedStatementRejected (session : String) : Event :=
  { kind := .preparedStatementRejected, severity := .warning,
    message := "extended query protocol is not supported", session := some session }

/-- One end of a session does not keep to the protocol. -/
def protocolViolation (session direction reason : String) : Event :=
  { kind := .protocolViolation, severity := .high, message := reason, session := some session,
    details := [("direction", direction)] }

/-- A result set is replaced by an error, with so many messages of it. -/
def resultSetDiscarded (session reason : String) (retained : Nat) : Event :=
  { kind := .resultSetDiscarded, severity := .high, message := reason, session := some session,
    details := [("retained_messages", toString retained)] }

/-- So many rows of a result set are left out. -/
def rowsFiltered (session : String) (dropped : Nat) : Event :=
  { kind := .rowsFiltered, severity := .info, message := "rows failed join verification",
    session := some session, details := [("dropped_rows", toString dropped)] }

end Event

end ColumnVeil.Audit
