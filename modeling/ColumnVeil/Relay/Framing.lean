import ColumnVeil.Relay.Output

/-!
# Framing

The two byte streams of a connection are cut into messages.  A connection begins with a
startup packet, in clear text or asking for encryption; if the connection to the server has
to be encrypted, that is arranged before the startup packet is sent on.  From then on every
message that has arrived as a whole is handed to a handler.  What does not fit the protocol
is noted once, and from then on both streams are passed on as they are, as they are when
the client talks to the server under encryption.
-/

namespace ColumnVeil.Relay

open Wire

/-- How far a connection has come. -/
inductive Phase
  /-- No startup packet has been accepted. -/
  | starting
  /-- The server has been asked for encryption. -/
  | negotiating
  /-- Messages are cut out of both streams. -/
  | inSync
  /-- A stream has left the protocol; everything is passed on. -/
  | outOfSync
  /-- The client talks to the server under encryption; everything is passed on. -/
  | encrypted
deriving DecidableEq, Repr

/-- A way to leave the protocol. -/
inductive Violation
  | startupLength (length : Nat)
  | startupMalformed
  /-- The client goes on while the server is asked for encryption. -/
  | dataWhileNegotiating
  /-- The server's answer to the request for encryption is none. -/
  | unexpectedReply
  | messageTooSmall (name : String) (length : Nat)
  | messageTooLarge (name : String) (length : Nat)
  | messageMalformed (name : String)
deriving DecidableEq, Repr

/-- The wording of a violation. -/
def Violation.message : Violation → String
  | startupLength length => "invalid startup packet length " ++ toString length
  | startupMalformed => "malformed startup packet"
  | dataWhileNegotiating => "client data received while negotiating upstream TLS"
  | unexpectedReply => "unexpected reply to SSLRequest"
  | messageTooSmall name length => name ++ " message length " ++ toString length ++ " is too small"
  | messageTooLarge name length =>
    name ++ " message of " ++ toString length ++ " bytes exceeds limit"
  | messageMalformed name => "malformed " ++ name ++ " message"

/-- The longest startup packet. -/
def maxStartupLength : Nat := 10000

/-- Startup codes from here on ask for something else than a session. -/
def firstNegotiationCode : Nat := 0x04d20000

/-- The startup code that asks for encryption. -/
def encryptionRequestCode : Nat := 0x04d2162f

/-- The packet that asks for encryption. -/
def encryptionRequest : Bytes :=
  bigEndian 4 8 ++ bigEndian 4 encryptionRequestCode

/-- What the framing calls upon; `τ` is the state of whoever answers. -/
structure Handler (τ : Type) where
  /-- Take a message from a side, and say what is sent in its place. -/
  onMessage : Side → Message → τ → τ × Output
  /-- The client asks for encryption: pass the request on to the server, or else arrange for
  encryption here. -/
  passesRequest : τ → Bool × τ × Output
  /-- The connection to the server has to be encrypted. -/
  wantsEncryption : τ → Bool
  /-- Send bytes to the server ahead of everything else. -/
  send : Bytes → τ → τ
  /-- The server has answered the request for encryption.  Take the client's startup packet,
  and say whether the connection is secured and the packet will be sent over it. -/
  encrypt : (agreed : Bool) → (startup : Bytes) → τ → Bool × τ × Output
  /-- A side has left the protocol. -/
  onViolation : Side → Violation → τ → τ × Output

/-- What a call upon the framing came to. -/
inductive Progress
  /-- Something was dealt with, and there may be more. -/
  | ready
  /-- The bytes are the start of something. -/
  | needMore
  /-- The stream has to rest until the connection has been taken care of. -/
  | stopped
deriving DecidableEq, Repr

/-- The state of the framing of a connection. -/
structure Framing where
  phase : Phase := .starting
  /-- The startup packet that waits for encryption. -/
  startup : Bytes := []
deriving DecidableEq, Repr

/-- The result of a call upon the framing. -/
structure Taken (τ : Type) where
  progress : Progress
  framing : Framing
  handler : τ
  /-- The bytes that have not been dealt with. -/
  rest : Bytes
  output : Output := {}

namespace Framing

variable {τ : Type}

/-- Wait for more bytes: nothing has changed. -/
def wait (framing : Framing) (state : τ) (data : Bytes) : Taken τ :=
  { progress := .needMore, framing, handler := state, rest := data }

/-- Pass everything on. -/
def passOn (framing : Framing) (state : τ) (side : Side) (data : Bytes) : Taken τ :=
  { progress := .ready, framing, handler := state, rest := [], output := .forward side data }

/-- Note a violation, and pass everything on from now on. -/
def leave (handler : Handler τ) (framing : Framing) (state : τ) (side : Side) (data : Bytes)
    (violation : Violation) : Taken τ :=
  let (state, noted) := handler.onViolation side violation state
  { progress := .ready, framing := { framing with phase := .outOfSync }, handler := state,
    rest := [], output := noted ++ .forward side data }

/-- A startup packet of the client that is there as a whole. -/
def takeStartup (handler : Handler τ) (framing : Framing) (state : τ) (packet rest : Bytes) :
    Taken τ :=
  let code := ofBigEndian ((packet.drop 4).take 4)
  let passed := Output.forward .frontend packet
  if firstNegotiationCode ≤ code then
    let (passes, state, noted) :=
      if code = encryptionRequestCode then handler.passesRequest state else (true, state, {})
    if passes then
      { progress := .ready, framing := { framing with phase := .encrypted }, handler := state,
        rest, output := noted ++ passed }
    else { progress := .stopped, framing, handler := state, rest, output := noted ++ passed }
  else if handler.wantsEncryption state then
    { progress := .stopped, framing := { phase := .negotiating, startup := packet },
      handler := handler.send encryptionRequest state, rest, output := passed }
  else
    { progress := .ready, framing := { framing with phase := .inSync }, handler := state, rest,
      output := passed }

/-- Bytes of the client before its startup packet. -/
def onStarting (handler : Handler τ) (framing : Framing) (state : τ) (data : Bytes) : Taken τ :=
  if data.length < 4 then framing.wait state data
  else
    let length := ofBigEndian (data.take 4)
    if maxStartupLength < length ∨ length < 8 then
      framing.leave handler state .frontend data (.startupLength length)
    else match (MessageKind.startup.body.format.validate data ⟨4, length - 4⟩).1 with
      | .incomplete => framing.wait state data
      | .failed => framing.leave handler state .frontend data .startupMalformed
      | .complete => framing.takeStartup handler state (data.take length) (data.drop length)

/-- The server's answer to the request for encryption. -/
def onReply (handler : Handler τ) (framing : Framing) (state : τ) (data : Bytes) : Taken τ :=
  let agreed := data == [ascii 'S']
  let expected := agreed || data == [ascii 'N'] || data == [ascii 'E']
  let (state, noted) :=
    if expected then (state, {}) else handler.onViolation .backend .unexpectedReply state
  let (secured, state, more) := handler.encrypt agreed framing.startup state
  let phase :=
    if secured then .inSync else if expected then .starting else .outOfSync
  { progress := .stopped, framing := { phase, startup := [] }, handler := state, rest := [],
    output := noted ++ more }

/-- A message that is there as a whole. -/
def takeMessage (handler : Handler τ) (framing : Framing) (state : τ) (side : Side)
    (kind : MessageKind) (tag : UInt8) (frame rest : Bytes) : Taken τ :=
  match Message.ofFrame kind.body (some tag) frame 5 with
  | .error _ =>
    { progress := .ready, framing, handler := state, rest, output := .forward side frame }
  | .ok message =>
    let (state, output) := handler.onMessage side message state
    { progress := .ready, framing, handler := state, rest, output }

/-- Bytes of a stream of messages; `limit` is the greatest length that a message may declare. -/
def onMessages (limit : Nat) (handler : Handler τ) (framing : Framing) (state : τ) (side : Side)
    (data : Bytes) : Taken τ :=
  if data.length < 5 then framing.wait state data
  else
    let tag := data.headD 0
    let kind := MessageKind.ofTag side tag
    let length := ofBigEndian ((data.drop 1).take 4)
    if length < 4 then framing.leave handler state side data (.messageTooSmall kind.name length)
    else if limit < length then
      framing.leave handler state side data (.messageTooLarge kind.name length)
    else
      let (outcome, cursor) := kind.body.format.validate data ⟨5, length - 4⟩
      if outcome = .incomplete then framing.wait state data
      else if outcome = .complete ∧ cursor.left = 0 then
        framing.takeMessage handler state side kind tag (data.take (length + 1))
          (data.drop (length + 1))
      else framing.leave handler state side data (.messageMalformed kind.name)

/-- Deal with at most one message of a stream. -/
def take (limit : Nat) (handler : Handler τ) (framing : Framing) (state : τ) (side : Side)
    (data : Bytes) : Taken τ :=
  match framing.phase, side with
  | .outOfSync, side => framing.passOn state side data
  | .encrypted, side => framing.passOn state side data
  | .starting, .backend => framing.passOn state .backend data
  | .starting, .frontend => framing.onStarting handler state data
  | .negotiating, .frontend => framing.leave handler state .frontend data .dataWhileNegotiating
  | .negotiating, .backend => framing.onReply handler state data
  | .inSync, side => framing.onMessages limit handler state side data

/-! ## Progress -/

section Progress

variable (handler : Handler τ) (framing : Framing) (state : τ) (side : Side)

theorem progress_wait (data : Bytes) : (framing.wait state data).progress = .needMore := rfl

theorem rest_passOn (data : Bytes) : (framing.passOn state side data).rest = [] := rfl

theorem rest_leave (data : Bytes) (violation : Violation) :
    (framing.leave handler state side data violation).rest = [] := rfl

theorem rest_takeStartup (packet rest : Bytes) :
    (framing.takeStartup handler state packet rest).rest = rest := by
  simp only [takeStartup]
  split
  · split <;> split <;> rfl
  · split <;> rfl

theorem rest_takeMessage (kind : MessageKind) (tag : UInt8) (frame rest : Bytes) :
    (framing.takeMessage handler state side kind tag frame rest).rest = rest := by
  simp only [takeMessage]
  split <;> rfl

theorem length_rest_onStarting (data : Bytes) (nonempty : data ≠ [])
    (ready : (framing.onStarting handler state data).progress = .ready) :
    (framing.onStarting handler state data).rest.length < data.length := by
  have positive : 0 < data.length := List.length_pos_iff.2 nonempty
  revert ready
  simp only [onStarting]
  split
  · simp [progress_wait]
  · split
    · simp [rest_leave, positive]
    · split
      · simp [progress_wait]
      · simp [rest_leave, positive]
      · rw [rest_takeStartup]
        simp only [List.length_drop]
        omega

theorem length_rest_onMessages (limit : Nat) (data : Bytes) (nonempty : data ≠ [])
    (ready : (framing.onMessages limit handler state side data).progress = .ready) :
    (framing.onMessages limit handler state side data).rest.length < data.length := by
  have positive : 0 < data.length := List.length_pos_iff.2 nonempty
  revert ready
  simp only [onMessages]
  split
  · simp [progress_wait]
  · split
    · simp [rest_leave, positive]
    · split
      · simp [rest_leave, positive]
      · split
        · simp [progress_wait]
        · split
          · simp only [rest_takeMessage, List.length_drop]
            omega
          · simp [rest_leave, positive]

/-- Whatever is dealt with takes at least one byte. -/
theorem length_rest_take (limit : Nat) (data : Bytes) (nonempty : data ≠ [])
    (ready : (framing.take limit handler state side data).progress = .ready) :
    (framing.take limit handler state side data).rest.length < data.length := by
  have positive : 0 < data.length := List.length_pos_iff.2 nonempty
  revert ready
  simp only [take]
  split
  · simp [rest_passOn, positive]
  · simp [rest_passOn, positive]
  · simp [rest_passOn, positive]
  · exact length_rest_onStarting handler framing state data nonempty
  · simp [rest_leave, positive]
  · simp [onReply]
  · exact length_rest_onMessages handler framing state _ limit data nonempty

end Progress

/-- Deal with a stream as far as it goes.  The packet that stops it is not passed on: the
connection is taken care of in its place. -/
def drain (limit : Nat) (handler : Handler τ) (framing : Framing) (state : τ) (side : Side)
    (data : Bytes) : Taken τ :=
  if _ : data = [] then { progress := .ready, framing, handler := state, rest := [] }
  else
    let taken := framing.take limit handler state side data
    match _ : taken.progress with
    | .needMore => taken
    | .stopped => { taken with output := taken.output.withhold side }
    | .ready =>
      let later := taken.framing.drain limit handler taken.handler side taken.rest
      { later with output := taken.output ++ later.output }
termination_by data.length
decreasing_by exact length_rest_take handler framing state side limit data ‹_› ‹_›

end Framing

end ColumnVeil.Relay
