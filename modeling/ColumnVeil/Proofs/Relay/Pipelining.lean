import ColumnVeil.Proofs.Relay.Release

/-!
# Queries in flight

A client may send its next query before the last one is answered; the server answers in
turn.  The exchange keeps one response and one state of the shields, so it has room for one
query.  Queries that leave both alone may be sent at any time: what the client gets is what
it gets when each query waits for its turn.  Any other query takes the place of the one in
flight, and what was held back of that one's results is lost without an error.
-/

namespace ColumnVeil.Relay

open Wire

/-- A query of the client, and what the server answers if the query comes to it. -/
structure Turn where
  text : Bytes
  answer : List Message

/-- What happens to an exchange: the client asks, or a message of an answer arrives. -/
inductive Happening where
  | ask (text : Bytes)
  | answer (message : Message)

/-- Each query waits for the answer to the one before it. -/
def inTurn (turns : List Turn) : List Happening :=
  turns.flatMap fun turn => .ask turn.text :: turn.answer.map .answer

/--
The client asks its queries one after the other while the server, which still owes some
messages, answers them in the same order.  `allowed` says which query may be asked while
which messages are owed.
-/
inductive Interleaves (allowed : List Message → Bytes → Prop) :
    List Message → List Turn → List Happening → Prop
  | done : Interleaves allowed [] [] []
  | ask {owed : List Message} {turn : Turn} {turns : List Turn} {happenings : List Happening} :
      allowed owed turn.text → Interleaves allowed (owed ++ turn.answer) turns happenings →
      Interleaves allowed owed (turn :: turns) (.ask turn.text :: happenings)
  | answer {owed : List Message} {turns : List Turn} {happenings : List Happening}
      (message : Message) :
      Interleaves allowed owed turns happenings →
      Interleaves allowed (message :: owed) turns (.answer message :: happenings)

variable {σ : Type}

namespace Exchange

/-- What happens, one after the other: the bytes of all queries for the server, and the output
on each message of an answer. -/
def follow (policy : Policy σ) :
    Exchange σ → List Happening → Exchange σ × Bytes × List Output
  | exchange, [] => (exchange, [], [])
  | exchange, .ask text :: happenings =>
      let (next, output) := exchange.onQuery policy text
      let (last, asked, answers) := next.follow policy happenings
      (last, output.toServer ++ asked, answers)
  | exchange, .answer message :: happenings =>
      let (next, output) := exchange.onMessage policy .backend message
      let (last, asked, answers) := next.follow policy happenings
      (last, asked, output :: answers)

/-! ## What becomes of a query -/

variable {policy : Policy σ} {text : Bytes}

/--
Under shields a query is refused, and what is held back stays; or it is forwarded, and
nothing is left of the response to the query before it.
-/
theorem onQuery_refuses_or_forgets (shielding : policy.shielding = true)
    (exchange : Exchange σ) (text : Bytes) :
    ((exchange.onQuery policy text).1.response = exchange.response ∧
      (exchange.onQuery policy text).2.toServer = []) ∨
    (exchange.onQuery policy text).1.response.retained = [] ∧
      ∀ response : Response,
        { exchange with response }.onQuery policy text = exchange.onQuery policy text := by
  simp only [onQuery, shielding, Bool.not_true, Bool.false_eq_true, if_false]
  cases Text.decode? text with
  | none =>
      left
      exact ⟨rfl, rfl⟩
  | some query =>
      simp only
      rcases (policy.shieldText query).run.run exchange.chain with ⟨result, chain⟩
      cases result with
      | error failure =>
          left
          exact ⟨rfl, rfl⟩
      | ok rewritten =>
          right
          cases rewritten with
          | none =>
              exact ⟨rfl, fun response => rfl⟩
          | some rewritten =>
              exact ⟨rfl, fun response => rfl⟩

/-- A query that leaves every exchange as it is. -/
def Inert (policy : Policy σ) (text : Bytes) : Prop :=
  ∀ exchange : Exchange σ, (exchange.onQuery policy text).1 = exchange

/-- Queries that no shield gets to see: all of them without shields, and otherwise those that
are no text or, unless such queries are passed on, cannot be read. -/
def Unseen (policy : Policy σ) (text : Bytes) : Prop :=
  policy.shielding = false ∨ Text.decode? text = none ∨
    policy.permissive = false ∧ ∃ query error, Text.decode? text = some query ∧
      Sql.parse query = .error error

theorem inert_of_unseen (unseen : Unseen policy text) : Inert policy text := by
  intro exchange
  rcases unseen with off | undecodable | ⟨strict, query, error, decoded, unreadable⟩
  · simp only [onQuery, off, Bool.not_false, if_true]
  · simp only [onQuery, undecodable]
    split <;> rfl
  · simp only [onQuery, decoded, Policy.shieldText, unreadable, strict, Bool.false_eq_true,
      if_false]
    split <;> rfl

/-- What an inert query brings the server does not depend on what is in flight. -/
theorem toServer_of_inert (inert : Inert policy text) (exchange other : Exchange σ) :
    (exchange.onQuery policy text).2.toServer = (other.onQuery policy text).2.toServer := by
  cases shielding : policy.shielding with
  | false =>
      simp only [onQuery, shielding, Bool.not_false, if_true]
  | true =>
      have nothing (exchange : Exchange σ) : (exchange.onQuery policy text).2.toServer = [] := by
        rcases onQuery_refuses_or_forgets shielding exchange text with refused | forgets
        · exact refused.2
        · -- What is held back would be forgotten.
          have kept := inert { exchange with response := { retained := [.emptyQueryResponse] } }
          rw [forgets.2] at kept
          rw [kept] at forgets
          cases forgets.1
      rw [nothing, nothing]

/-! ## Turns -/

theorem follow_cons_congr {first second : List Happening}
    (same : ∀ exchange : Exchange σ, exchange.follow policy first = exchange.follow policy second)
    (exchange : Exchange σ) (happening : Happening) :
    exchange.follow policy (happening :: first) = exchange.follow policy (happening :: second) := by
  cases happening <;> simp only [follow, same]

/-- An inert query may change places with a message of an answer. -/
theorem follow_ask_answer (inert : Inert policy text) (exchange : Exchange σ) (message : Message)
    (happenings : List Happening) :
    exchange.follow policy (.ask text :: .answer message :: happenings) =
      exchange.follow policy (.answer message :: .ask text :: happenings) := by
  simp only [follow, inert _]
  rw [toServer_of_inert inert exchange (exchange.onMessage policy .backend message).1]

theorem follow_ask_answers (inert : Inert policy text) (exchange : Exchange σ)
    (owed : List Message) (happenings : List Happening) :
    exchange.follow policy (.ask text :: (owed.map .answer ++ happenings)) =
      exchange.follow policy (owed.map .answer ++ .ask text :: happenings) := by
  induction owed generalizing exchange with
  | nil =>
      rfl
  | cons message owed inductionHypothesis =>
      rw [List.map_cons, List.cons_append, List.cons_append, follow_ask_answer inert]
      apply follow_cons_congr
      exact inductionHypothesis

/-- What happens comes to the same as the rest of the answers owed, and then turn by turn. -/
theorem follow_of_interleaves {owed : List Message} {turns : List Turn}
    {happenings : List Happening}
    (calm : Interleaves (fun owed text => owed = [] ∨ Inert policy text) owed turns happenings)
    (exchange : Exchange σ) :
    exchange.follow policy happenings =
      exchange.follow policy (owed.map .answer ++ inTurn turns) := by
  -- On the schedule: a query that is asked early is carried behind the messages owed.
  induction calm generalizing exchange with
  | done =>
      rfl
  | @ask owed turn turns happenings allowed _ inductionHypothesis =>
      simp only [List.map_append, List.append_assoc] at inductionHypothesis
      rw [follow_cons_congr inductionHypothesis]
      rcases allowed with nothing | inert
      · subst nothing
        rfl
      · exact follow_ask_answers inert exchange owed _
  | answer message _ inductionHypothesis =>
      rw [List.map_cons, List.cons_append]
      apply follow_cons_congr
      exact inductionHypothesis

/--
Queries may be in flight together as long as they are inert, as those are that no shield gets
to see: the server gets the same bytes, every message of an answer brings the output that it
brings when each query waits for its turn, and the exchange ends in the same state.  A query
that comes to the shields is refused, and then nothing is lost, or it is forwarded, and then
what is held back of earlier results is dropped: whatever follows is the same as if there had
been none.
-/
theorem inert_queries_wait_for_nothing (policy : Policy σ) :
    (∀ (turns : List Turn) (happenings : List Happening) (exchange : Exchange σ),
      Interleaves (fun owed text => owed = [] ∨ Inert policy text) [] turns happenings →
      exchange.follow policy happenings = exchange.follow policy (inTurn turns)) ∧
    (∀ text : Bytes, Unseen policy text → Inert policy text) ∧
    (∀ (exchange : Exchange σ) (text : Bytes), policy.shielding = true →
      ((exchange.onQuery policy text).1.response = exchange.response ∧
        (exchange.onQuery policy text).2.toServer = []) ∨
      (exchange.onQuery policy text).1.response.retained = [] ∧
        ∀ (response : Response) (happenings : List Happening),
          { exchange with response }.follow policy (.ask text :: happenings) =
            exchange.follow policy (.ask text :: happenings)) := by
  refine ⟨?_, ?_, ?_⟩
  · intro turns happenings exchange calm
    exact follow_of_interleaves calm exchange
  · intro text unseen
    exact inert_of_unseen unseen
  · intro exchange text shielding
    rcases onQuery_refuses_or_forgets shielding exchange text with refused | forgets
    · exact Or.inl refused
    · right
      constructor
      · exact forgets.1
      · intro response happenings
        rw [follow, follow, forgets.2]

/-- A query that is no text, sent while a row is held back, does not disturb it. -/
theorem undecodable_query_waits_for_nothing :
    let policy : Policy Unit := { shield := withoutNull, session := "1" }
    let exchange : Exchange Unit := { chain := () }
    let first : Turn :=
      ⟨Text.utf8 "SELECT 1", [.dataRow [some [1]], .commandComplete (Text.utf8 "SELECT 1")]⟩
    let second : Turn := ⟨[0xff], []⟩
    policy.shielding = true ∧
    exchange.follow policy
        [.ask first.text, .answer (.dataRow [some [1]]), .ask second.text,
          .answer (.commandComplete (Text.utf8 "SELECT 1"))] =
      exchange.follow policy (inTurn [first, second]) := by
  intro policy exchange first second
  have inert : Inert policy second.text := inert_of_unseen (Or.inr (Or.inl (by decide +kernel)))
  refine ⟨rfl, ?_⟩
  apply (inert_queries_wait_for_nothing policy).1
  exact Interleaves.ask (Or.inl rfl)
    (Interleaves.answer _ (Interleaves.ask (Or.inr inert) (Interleaves.answer _ Interleaves.done)))

/-- The answer of a server that sends one row. -/
def oneRow (row : Row) : List Message :=
  [.dataRow row, .commandComplete (Text.utf8 "SELECT 1"), .readyForQuery idleStatus]

/-- A query that is sent while a row is held back takes that row away: the client is told that
the command is complete, and gets no row and no error.  Its own row is not held back. -/
theorem query_in_flight_loses_rows :
    let policy : Policy Unit := { shield := withoutNull, session := "1" }
    let exchange : Exchange Unit := { chain := () }
    let complete : Message := .commandComplete (Text.utf8 "SELECT 1")
    let ready : Message := .readyForQuery idleStatus
    let first : Turn := ⟨Text.utf8 "SELECT 1", oneRow [some [1]]⟩
    let second : Turn := ⟨Text.utf8 "SELECT 2", oneRow [some [2]]⟩
    let happenings : List Happening :=
      [.ask first.text, .answer (.dataRow [some [1]]), .ask second.text, .answer complete,
        .answer ready] ++ (oneRow [some [2]]).map .answer
    Interleaves (fun _ _ => True) [] [first, second] happenings ∧
      (exchange.follow policy happenings).2.2.map (·.toClient) =
        [[], complete.write, ready.write,
          (Message.dataRow [some [2]]).write, complete.write, ready.write] ∧
      (exchange.follow policy (inTurn [first, second])).2.2.map (·.toClient) =
        [[], (Message.dataRow [some [1]]).write ++ complete.write, ready.write,
          [], (Message.dataRow [some [2]]).write ++ complete.write, ready.write] := by
  intro policy exchange complete ready first second happenings
  refine ⟨?_, ?_, ?_⟩
  · apply Interleaves.ask trivial
    apply Interleaves.answer
    apply Interleaves.ask trivial
    exact Interleaves.answer _ (Interleaves.answer _ (Interleaves.answer _
      (Interleaves.answer _ (Interleaves.answer _ Interleaves.done))))
  · decide +kernel
  · decide +kernel

end Exchange

end ColumnVeil.Relay
