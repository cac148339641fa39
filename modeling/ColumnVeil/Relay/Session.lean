import ColumnVeil.Relay.Exchange
import ColumnVeil.Relay.Framing
import ColumnVeil.Settings.Basic

/-!
# Sessions

A session joins the framing of a connection, the exchange of queries and results, and the
bytes of both streams that are not a whole message yet.  Whoever holds the sockets gives it
the bytes that have arrived, sends what comes out, and answers for the encryption of the
sockets as a `Transport`.
-/

namespace ColumnVeil.Relay

open Wire

/-- The sockets of a connection, as far as a session asks about them. -/
structure Transport (τ : Type) where
  /-- The client asks for encryption: true hands the request to the server, false promises to
  encrypt here. -/
  passesRequest : τ → Bool × τ
  /-- The connection to the server has to be encrypted. -/
  wantsEncryption : τ → Bool
  /-- Send bytes to the server ahead of everything else. -/
  send : Bytes → τ → τ
  /-- The server has answered the request for encryption.  True promises to secure the
  connection and to send the startup packet over it. -/
  encrypt : (agreed : Bool) → (startup : Bytes) → τ → Bool × τ

/-- What stays the same during a session. -/
structure Setup (σ τ : Type) where
  policy : Policy σ
  transport : Transport τ
  /-- The greatest length that a message may declare. -/
  limit : Nat := defaultMaxMessageSize

variable {σ τ : Type}

/-- The name of a side in events. -/
def sideWord : Side → String
  | .frontend => "frontend"
  | .backend => "backend"

/-- How asking the server for encryption ended. -/
def encryptionOutcome (agreed secured : Bool) : String :=
  if !agreed then "refused by server" else if secured then "established" else "failed"

/-- A session as the handler of its framing. -/
def Setup.handler (setup : Setup σ τ) : Handler (Exchange σ × τ) where
  onMessage side message := fun (exchange, transport) =>
    let (exchange, output) := exchange.onMessage setup.policy side message
    ((exchange, transport), output)
  passesRequest := fun (exchange, transport) =>
    let (passes, transport) := setup.transport.passesRequest transport
    let outcome := if passes then "forwarded" else "terminated"
    (passes, (exchange, transport),
      .note (.sslNegotiation setup.policy.session "client" outcome))
  wantsEncryption := fun (_, transport) => setup.transport.wantsEncryption transport
  send bytes := fun (exchange, transport) => (exchange, setup.transport.send bytes transport)
  encrypt agreed startup := fun (exchange, transport) =>
    let (secured, transport) := setup.transport.encrypt agreed startup transport
    (secured, (exchange, transport),
      .note (.sslNegotiation setup.policy.session "server" (encryptionOutcome agreed secured)))
  onViolation side violation state :=
    (state, .note (.protocolViolation setup.policy.session (sideWord side) violation.message))

/-- The state of a session. -/
structure Session (σ τ : Type) where
  framing : Framing := {}
  exchange : Exchange σ
  transport : τ
  /-- Bytes of the client that are not a whole message yet. -/
  fromClient : Bytes := []
  /-- Bytes of the server that are not a whole message yet. -/
  fromServer : Bytes := []

namespace Session

/-- The bytes of a side that are not a whole message yet. -/
def pending (session : Session σ τ) : Side → Bytes
  | .frontend => session.fromClient
  | .backend => session.fromServer

/-- The session with other bytes of a side. -/
def withPending (session : Session σ τ) (side : Side) (bytes : Bytes) : Session σ τ :=
  match side with
  | .frontend => { session with fromClient := bytes }
  | .backend => { session with fromServer := bytes }

/-- Bytes have arrived from a side.  Also says whether its stream has to rest. -/
def receive (setup : Setup σ τ) (session : Session σ τ) (side : Side) (bytes : Bytes) :
    Session σ τ × Output × Bool :=
  let taken := session.framing.drain setup.limit setup.handler
    (session.exchange, session.transport) side (session.pending side ++ bytes)
  let (exchange, transport) := taken.handler
  ({ session.withPending side taken.rest with framing := taken.framing, exchange, transport },
    taken.output, taken.progress = .stopped)

end Session

end ColumnVeil.Relay
