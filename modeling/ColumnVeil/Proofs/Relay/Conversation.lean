import ColumnVeil.Proofs.Relay.Release

/-!
# Conversations

What both sides send reaches the exchange one message after the other, in any order.  The
exchange answers a request itself if it does not pass the request on, and then the server
knows nothing of it.  So every request is settled once: the server gets one frame and will
answer, or the client gets its answer here, with the transaction status that the server
announced last.

The step lemma says how one message is settled and what it leaves behind (`Attuned`); the run
lemma follows a conversation message by message.
-/

namespace ColumnVeil

open Wire

/-- Whether a message is what is read from one frame of a side. -/
def Wire.Message.Arrives (side : Side) (message : Message) : Prop :=
  ∃ tag body,
    ofFrame (MessageKind.ofTag side tag).body (some tag) (frame tag body) 5 = .ok message

namespace Relay

variable {σ : Type}

/-- The status that a message of the server announces, if it says that the server is ready. -/
def announced? : Side × Message → Option UInt8
  | (.backend, .readyForQuery status) => some status
  | _ => none

/-- The status that the server announced last in a conversation, or that of a session outside
any transaction. -/
def announced (messages : List (Side × Message)) : UInt8 :=
  (messages.filterMap announced?).getLast?.getD idleStatus

/-- The output brings the client some messages, and the server nothing. -/
def Output.Answers (output : Output) (messages : List Message) : Prop :=
  output.toServer = [] ∧ output.toClient = messages.flatMap Message.write

namespace Exchange

/-- The outputs on the messages of a conversation, one for each. -/
def converse (policy : Policy σ) : Exchange σ → List (Side × Message) → List Output
  | _, [] => []
  | exchange, (side, message) :: messages =>
      let (next, output) := exchange.onMessage policy side message
      output :: next.converse policy messages

theorem converse_cons (policy : Policy σ) (exchange : Exchange σ) (side : Side)
    (message : Message) (messages : List (Side × Message)) :
    exchange.converse policy ((side, message) :: messages) =
      (exchange.onMessage policy side message).2 ::
        (exchange.onMessage policy side message).1.converse policy messages := rfl

end Exchange

/-! ## Messages of the two sides -/

/-- The client sends no results. -/
theorem body_of_frontend (tag : UInt8) :
    (MessageKind.ofTag .frontend tag).body ∉
      [.rowDescription, .dataRow, .commandComplete, .emptyQueryResponse, .errorResponse,
        .readyForQuery] :=
  MessageKind.of_lookup (motive := fun _ kind => kind.body ∉ [.rowDescription, .dataRow,
    .commandComplete, .emptyQueryResponse, .errorResponse, .readyForQuery]) (by decide) tag
    (by decide)

/-- A message of the client is a query, or prepares a statement, or is a frame as it came. -/
theorem kinds_of_frontend {message : Message} (arrives : message.Arrives .frontend) :
    (∃ text, message = .query text) ∨ (∃ name text types, message = .parse name text types) ∨
      ∃ tag body, message = .raw (some tag) (Message.frame tag body) := by
  rcases arrives with ⟨tag, body, read⟩
  have asked := body_of_frontend tag
  cases kind : (MessageKind.ofTag .frontend tag).body
  case rowDescription | dataRow | commandComplete | emptyQueryResponse | errorResponse |
      readyForQuery =>
    rw [kind] at asked
    exact absurd asked (by decide)
  all_goals rw [kind] at read
  case query =>
    rcases exists_of_map_eq_ok read with ⟨text, -, rfl⟩
    exact Or.inl ⟨text, rfl⟩
  case parse =>
    rcases exists_of_map_eq_ok read with ⟨⟨name, text, types, _⟩, -, rfl⟩
    exact Or.inr (Or.inl ⟨name, text, types, rfl⟩)
  all_goals
    cases read
    exact Or.inr (Or.inr ⟨tag, body, rfl⟩)

theorem fromServer_of_arrives {message : Message} (arrives : message.Arrives .backend) :
    message.FromServer := by
  rcases arrives with ⟨tag, body, read⟩
  exact ⟨tag, _, read⟩

/-- The server asks nothing. -/
theorem not_asked_of_backend {message : Message} (arrives : message.Arrives .backend) :
    (∀ text, message ≠ .query text) ∧ ∀ name text types, message ≠ .parse name text types := by
  rcases kinds_of_fromServer (fromServer_of_arrives arrives) with
    ⟨result, -⟩ | ready | ⟨tag, bytes, rfl, -⟩
  · constructor
    · rintro text rfl
      cases result
    · rintro name text types rfl
      cases result
  · constructor
    · rintro text rfl
      cases ready
    · rintro name text types rfl
      cases ready
  · exact ⟨fun _ => Message.noConfusion, fun _ _ _ => Message.noConfusion⟩

/-! ## One message -/

namespace Exchange

variable {policy : Policy σ} {exchange : Exchange σ} {status : UInt8}

end Exchange

end Relay

end ColumnVeil
