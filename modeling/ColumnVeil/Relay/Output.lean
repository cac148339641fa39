import ColumnVeil.Audit.Event
import ColumnVeil.Wire.Message

/-!
# Output

What a step of a relay gives: bytes for the server, bytes for the client, and events for the
audit trail.  Outputs of successive steps are put behind each other.
-/

namespace ColumnVeil.Relay

/-- What a step gives. -/
@[ext]
structure Output where
  toServer : Bytes := []
  toClient : Bytes := []
  events : List Audit.Event := []
deriving DecidableEq, Repr

namespace Output

/-- One output behind another. -/
def append (first second : Output) : Output where
  toServer := first.toServer ++ second.toServer
  toClient := first.toClient ++ second.toClient
  events := first.events ++ second.events

instance : Append Output := ⟨append⟩

/-- Bytes that come from a side, passed on to the other. -/
def forward (side : Wire.Side) (bytes : Bytes) : Output :=
  match side with
  | .frontend => { toServer := bytes }
  | .backend => { toClient := bytes }

/-- A message for the client. -/
def answer (message : Wire.Message) : Output :=
  { toClient := message.write }

/-- An event. -/
def note (event : Audit.Event) : Output :=
  { events := [event] }

/-- The output without the bytes that flow on from a side. -/
def withhold (side : Wire.Side) (output : Output) : Output :=
  match side with
  | .frontend => { output with toServer := [] }
  | .backend => { output with toClient := [] }

/-- No bytes for either end. -/
def isSilent (output : Output) : Bool :=
  output.toServer.isEmpty && output.toClient.isEmpty

@[simp] theorem toServer_append (first second : Output) :
    (first ++ second).toServer = first.toServer ++ second.toServer := rfl

@[simp] theorem toClient_append (first second : Output) :
    (first ++ second).toClient = first.toClient ++ second.toClient := rfl

@[simp] theorem events_append (first second : Output) :
    (first ++ second).events = first.events ++ second.events := rfl

@[simp] theorem empty_append (output : Output) : ({} : Output) ++ output = output := rfl

@[simp] theorem append_empty (output : Output) : output ++ ({} : Output) = output := by
  ext1 <;> simp

theorem append_assoc (first second third : Output) :
    first ++ second ++ third = first ++ (second ++ third) := by
  ext1 <;> simp

end Output

end ColumnVeil.Relay
