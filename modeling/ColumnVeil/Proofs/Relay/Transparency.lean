import ColumnVeil.Proofs.Relay.Refusal
import ColumnVeil.Proofs.Shield.Transparency

/-!
# Transparency

A client that uses unprotected tables only does not notice the shields.  Its query reaches the
server as it wrote it, however the printer would write it, and the answer comes back as the
server sent it: rows wait until their result set is complete, and are released in their order
under the server's own tag.

The chain is calm behind such a query, and the step lemma says that it stays so while the
exchange waits for the answer (`Waits`).
-/

namespace ColumnVeil.Relay

open Wire

/-- The messages of the server in a conversation. -/
def served (sent : List (Side × Message)) : List Message :=
  sent.filterMap fun (side, message) => if side = .backend then some message else none

/-- The outputs on the messages of an answer whose descriptions and rows are held back until
their result set is complete, behind those that are held back already. -/
def holdBack : List Message → List Message → List Output
  | _, [] => []
  | held, .rowDescription columns :: rest =>
      {} :: holdBack (held ++ [.rowDescription columns]) rest
  | held, .dataRow values :: rest => {} :: holdBack (held ++ [.dataRow values]) rest
  | held, .commandComplete tag :: rest =>
      { toClient := (held ++ [Message.commandComplete tag]).flatMap Message.write } ::
        holdBack [] rest
  | held, .raw _ bytes :: rest => .forward .backend bytes :: holdBack held rest
  | _, message :: rest => .answer message :: holdBack [] rest

/-- A result set is released as a whole, in order, when it is complete. -/
theorem holdBack_arrivals (held : List Message) (arrivals : List Arrival) (tag : Bytes)
    (rest : List Message) :
    holdBack held (arrivals.map Arrival.message ++ .commandComplete tag :: rest) =
      arrivals.map (fun _ => ({} : Output)) ++
        { toClient :=
            (held ++ arrivals.map Arrival.message ++ [Message.commandComplete tag]).flatMap
              Message.write } :: holdBack [] rest := by
  induction arrivals generalizing held with
  | nil =>
      simp [holdBack]
  | cons arrival arrivals inductionHypothesis =>
      cases arrival with
      | description columns =>
          have later := inductionHypothesis (held ++ [.rowDescription columns])
          simp only [List.map_cons, List.cons_append, Arrival.message, holdBack, later,
            List.append_assoc, List.nil_append]
      | row values =>
          have later := inductionHypothesis (held ++ [.dataRow values])
          simp only [List.map_cons, List.cons_append, Arrival.message, holdBack, later,
            List.append_assoc, List.nil_append]

namespace Exchange

/-- The outputs on the messages of the server in a conversation. -/
def hear {σ : Type} (policy : Policy σ) (exchange : Exchange σ) (sent : List (Side × Message)) :
    List Output :=
  ((exchange.converse policy sent).zip sent).filterMap fun (output, side, _) =>
    if side = .backend then some output else none

variable {catalog : Catalog} {policy : Policy ChainState} {exchange : Exchange ChainState}

/-- The exchange waits for the rest of an answer, of which some messages are held back, and the
chain has nothing to do with it. -/
structure Waits (catalog : Catalog) (held : List Message) (exchange : Exchange ChainState) :
    Prop where
  guarded : exchange.response.guarded = true
  retained : exchange.response.retained = held
  dropped : exchange.response.dropped = 0
  failure : exchange.response.failure = none
  aborted : exchange.response.aborted = false
  calm : catalog.Calm exchange.chain

variable {held : List Message}

/-- A description or a row is held back as it is. -/
theorem Waits.hold (waits : exchange.Waits catalog held) (shield : policy.shield = catalog.chain)
    (arrival : Arrival) :
    (exchange.onMessage policy .backend arrival.message).2 = {} ∧
      (exchange.onMessage policy .backend arrival.message).1.Waits catalog
        (held ++ [arrival.message]) := by
  have clean : exchange.response.isSpoiled = false := by
    simp [Response.isSpoiled, waits.aborted, waits.failure]
  have treats : ∃ chain, (policy.shield.treat exchange.response.statement arrival).run.run
      exchange.chain = (.ok (some arrival.message), chain) ∧ catalog.Calm chain := by
    rw [shield]
    cases arrival with
    | description columns =>
        rcases waits.calm.describe columns exchange.response.statement with ⟨chain, run, calm⟩
        refine ⟨chain, ?_, calm⟩
        rw [Shield.treat, run_bind, run]
        rfl
    | row values =>
        refine ⟨exchange.chain, ?_, waits.calm⟩
        rw [Shield.treat, run_bind, waits.calm.inspect values]
        rfl
  rcases treats with ⟨chain, run, calm⟩
  have step := onMessage_arrival policy exchange arrival waits.guarded clean
  rw [run] at step
  rw [step]
  refine ⟨rfl, waits.guarded, ?_, waits.dropped, waits.failure, waits.aborted, calm⟩
  simp [Response.hold, waits.retained]

/-- The step lemma for the server: what it sends before it is ready is held back or released. -/
theorem Waits.onBackend (waits : exchange.Waits catalog held)
    (shield : policy.shield = catalog.chain) {message : Message}
    (arrives : message.Arrives .backend) (pending : message.isReady = false) :
    ∃ output later, (∀ rest, holdBack held (message :: rest) = output :: holdBack later rest) ∧
      (exchange.onMessage policy .backend message).2 = output ∧
        (exchange.onMessage policy .backend message).1.Waits catalog later := by
  cases message with
  | query text =>
      exact absurd rfl ((not_asked_of_backend arrives).1 text)
  | parse name text types =>
      exact absurd rfl ((not_asked_of_backend arrives).2 name text types)
  | rowDescription columns =>
      rcases waits.hold shield (.description columns) with ⟨silent, next⟩
      exact ⟨{}, _, fun _ => rfl, silent, next⟩
  | dataRow values =>
      rcases waits.hold shield (.row values) with ⟨silent, next⟩
      exact ⟨{}, _, fun _ => rfl, silent, next⟩
  | commandComplete tag =>
      refine ⟨_, [], fun _ => rfl, ?_⟩
      simp only [onMessage, onCommandComplete, waits.guarded, waits.aborted, waits.failure,
        waits.dropped, waits.retained, Bool.not_true, Bool.false_eq_true, if_false, if_true]
      constructor
      · ext1 <;> simp [Output.answer]
      · exact ⟨waits.guarded, rfl, rfl, rfl, waits.aborted, waits.calm⟩
  | emptyQueryResponse =>
      refine ⟨_, [], fun _ => rfl, ?_⟩
      simp only [onMessage, onEmptyQueryResponse, waits.aborted, Bool.false_eq_true, if_false,
        true_and]
      exact ⟨waits.guarded, rfl, rfl, rfl, waits.aborted, waits.calm⟩
  | errorResponse fields terminator =>
      refine ⟨_, [], fun _ => rfl, ?_⟩
      simp only [onMessage, onErrorResponse, waits.aborted, Bool.false_eq_true, if_false,
        true_and]
      exact ⟨waits.guarded, rfl, rfl, rfl, waits.aborted, waits.calm⟩
  | readyForQuery status =>
      cases pending
  | raw tag bytes =>
      exact ⟨_, held, fun _ => rfl, rfl, waits⟩

/-- The step lemma for the client: whatever it sends but a query, the exchange waits on. -/
theorem Waits.onFrontend (waits : exchange.Waits catalog held) {message : Message}
    (arrives : message.Arrives .frontend) (other : ∀ text, message ≠ .query text) :
    (exchange.onMessage policy .frontend message).1.Waits catalog held := by
  have skips (skipping : Bool) : Exchange.Waits catalog held { exchange with skipping } :=
    ⟨waits.guarded, waits.retained, waits.dropped, waits.failure, waits.aborted, waits.calm⟩
  rcases kinds_of_frontend arrives with
    ⟨text, rfl⟩ | ⟨name, text, types, rfl⟩ | ⟨tag, body, rfl⟩
  · exact absurd rfl (other text)
  · simp only [onMessage, onParse]
    split
    · exact waits
    · exact skips true
  · simp only [onMessage, onOther]
    split
    · exact waits
    · split
      · exact skips false
      · split
        · exact waits
        · exact skips false

/-- The run lemma: until the server is ready or the client sends another query, the answer is
held back and released. -/
theorem Waits.hear (waits : exchange.Waits catalog held) (shield : policy.shield = catalog.chain)
    {sent : List (Side × Message)}
    (arrive : ∀ one ∈ sent, one.2.Arrives one.1)
    (pending : ∀ one ∈ sent, one.2.isReady = false ∧ ∀ text, one.2 ≠ .query text) :
    exchange.hear policy sent = holdBack held (served sent) := by
  induction sent generalizing exchange held with
  | nil =>
      cases held <;> rfl
  | cons one sent inductionHypothesis =>
      rcases one with ⟨side, message⟩
      rcases List.forall_mem_cons.mp arrive with ⟨arrives, arriveLater⟩
      rcases List.forall_mem_cons.mp pending with ⟨⟨unready, unasked⟩, pendingLater⟩
      cases side with
      | frontend =>
          exact inductionHypothesis (waits.onFrontend arrives unasked) arriveLater pendingLater
      | backend =>
          rcases waits.onBackend shield arrives unready with ⟨output, later, held, given, next⟩
          have rest := inductionHypothesis next arriveLater pendingLater
          have heard : exchange.hear policy ((.backend, message) :: sent) =
              (exchange.onMessage policy .backend message).2 ::
                (exchange.onMessage policy .backend message).1.hear policy sent := rfl
          have answered : served ((.backend, message) :: sent) = message :: served sent := rfl
          rw [heard, answered, held, given, rest]

/-- A query that is read, is accepted and names no protected table is sent as it is, and the
exchange waits for its answer with a chain that has nothing to do with it. -/
theorem waits_onQuery (shield : policy.shield = catalog.chain)
    (shielding : policy.shielding = true) {text : Bytes} {query : String}
    {statements : List Sql.Statement} (decoded : Text.decode? text = some query)
    (parsed : Sql.parse query = .ok statements) (nonempty : statements ≠ [])
    (spared : ∀ statement ∈ statements, ∀ table ∈ statement.relationNames, catalog.Spares table)
    (accepted : ¬ exchange.Refuses policy text) :
    (exchange.onQuery policy text).2 = .forward .frontend (Message.query text).write ∧
      (exchange.onQuery policy text).1.Waits catalog [] := by
  rcases exists_passage_of_accepted shielding decoded parsed nonempty accepted with
    ⟨sent, chain, run, asked⟩
  rw [shield] at run
  rcases catalog.calm_of_gives spared run with ⟨rfl, calm⟩
  simp only [if_true] at asked
  rw [asked]
  exact ⟨rfl, rfl, rfl, rfl, rfl, rfl, calm⟩

/--
Unprotected queries are transparent.  A query is read, holds a statement, and brings no
protected table into scope: neither by the name of a table nor by the alias of a query, of
joined tables or of a table function.  If it is accepted, the server gets the client's own
message and no event is noted.  Whatever is sent from there on until the server is ready or the
client sends another query, the descriptions and rows of every result set wait for its end, and
are then delivered as they came, in their order, under the server's own tag.
-/
theorem unprotected_queries_are_transparent (catalog : Catalog) (policy : Policy ChainState)
    (shield : policy.shield = catalog.chain) (shielding : policy.shielding = true)
    (exchange : Exchange ChainState) (text : Bytes) (query : String)
    (statements : List Sql.Statement) (decoded : Text.decode? text = some query)
    (parsed : Sql.parse query = .ok statements) (nonempty : statements ≠ [])
    (unprotected : ∀ statement ∈ statements, ∀ table ∈ statement.relationNames,
      catalog.isProtected table = false)
    (accepted : ¬ exchange.Refuses policy text) :
    (exchange.onQuery policy text).2 = { toServer := (Message.query text).write } ∧
      ∀ later : List (Side × Message),
        (∀ sent ∈ later, sent.2.Arrives sent.1) →
        (∀ sent ∈ later, sent.2.isReady = false ∧ ∀ text, sent.2 ≠ .query text) →
          (exchange.onQuery policy text).1.hear policy later = holdBack [] (served later) := by
  rcases waits_onQuery shield shielding decoded parsed nonempty unprotected accepted with
    ⟨forwarded, waits⟩
  exact ⟨forwarded, fun later arrive pending => waits.hear shield arrive pending⟩

/-- A query that would be printed with other blanks and capitals reaches the server as it is, and
the title of a region reaches the client together with the end of the result set. -/
theorem titleOfRegions_is_transparent :
    let policy : Policy ChainState := { shield := citiesCatalog.chain, session := "1" }
    let exchange : Exchange ChainState := { chain := .initial { stream := fun _ => 0 } }
    let query := "select  title from regions"
    let text := Text.utf8 query
    let title : Column := { name := Text.utf8 "title", typeOid := 25, typeSize := -1 }
    let answer : List Message :=
      [.rowDescription [title], .dataRow [some (Text.utf8 "Alb")],
        .commandComplete (Text.utf8 "SELECT 1")]
    ∃ statements, Text.decode? text = some query ∧ Sql.parse query = .ok statements ∧
      statements ≠ [] ∧
      (∀ statement ∈ statements, ∀ table ∈ statement.relationNames,
        citiesCatalog.isProtected table = false) ∧
      Sql.printStatements statements ≠ query ∧ ¬ exchange.Refuses policy text ∧
      (∀ message ∈ answer, message.Arrives .backend) ∧
      (exchange.onQuery policy text).2 = { toServer := (Message.query text).write } ∧
      (exchange.onQuery policy text).1.hear policy (answer.map (Side.backend, ·)) =
        [{}, {}, { toClient := answer.flatMap Message.write }] := by
  intro policy exchange query text title answer
  have decoded : Text.decode? text = some query := by decide +kernel
  have shape : (Sql.parse query).toOption.map (fun statements =>
      (statements.map Sql.Statement.relationNames, Sql.printStatements statements)) =
      some ([["regions"]], "SELECT title FROM regions") := by
    decide +kernel
  rcases parsed : Sql.parse query with error | statements
  · rw [parsed] at shape
    cases shape
  · rw [parsed] at shape
    have names : statements.map Sql.Statement.relationNames = [["regions"]] :=
      congrArg Prod.fst (Option.some.inj shape)
    have printed : Sql.printStatements statements = "SELECT title FROM regions" :=
      congrArg Prod.snd (Option.some.inj shape)
    have nonempty : statements ≠ [] := by
      rintro rfl
      cases names
    have unprotected : ∀ statement ∈ statements, ∀ table ∈ statement.relationNames,
        citiesCatalog.isProtected table = false := by
      intro statement member table named
      have listed : statement.relationNames ∈ [["regions"]] := by
        rw [← names]
        exact List.mem_map_of_mem member
      rw [List.mem_singleton.mp listed] at named
      rw [List.mem_singleton.mp named]
      decide
    have other : Sql.printStatements statements ≠ query := by
      rw [printed]
      decide
    have accepted : ¬ exchange.Refuses policy text := by
      rintro ⟨failure, refused⟩
      have sends : (exchange.onQuery policy text).2.toServer ≠ [] := by decide +kernel
      exact sends (congrArg Output.toServer refused)
    have arrive : ∀ message ∈ answer, message.Arrives .backend := by
      intro message member
      simp only [answer, List.mem_cons, List.not_mem_nil, or_false] at member
      rcases member with rfl | rfl | rfl
      · exact ⟨ascii 'T', (Message.write (.rowDescription [title])).drop 5, by decide +kernel⟩
      · exact ⟨ascii 'D', [0, 1, 0, 0, 0, 3, 65, 108, 98], by decide +kernel⟩
      · exact ⟨ascii 'C', Text.utf8 "SELECT 1" ++ [0], by decide +kernel⟩
    rcases unprotected_queries_are_transparent citiesCatalog policy rfl rfl exchange text query
      statements decoded parsed nonempty unprotected accepted with ⟨forwarded, heard⟩
    refine ⟨statements, decoded, rfl, nonempty, unprotected, other, accepted, arrive, forwarded, ?_⟩
    exact heard _ (by simpa using arrive) (by simp [answer, Message.isReady])

end Exchange

end ColumnVeil.Relay
