import ColumnVeil.Proofs.Relay.Conversation
import ColumnVeil.Proofs.Shield.Insertion
import ColumnVeil.Proofs.Shield.Renewal

/-!
# Refused queries

A query may be refused late, when shields before have already taken it in: scopes are filled,
pairs of columns are remembered, values are encrypted.  None of that is ever looked at again.
Results are only shown to the shields behind a query that passed all of them, and such a query
renews the chain.

The statement compares two conversations, one in which the query was refused and one in which
it was never sent.  The exchanges are `Alike` all along: they agree on everything but the state
of the shields, and on that too while results are awaited.
-/

namespace ColumnVeil

open Wire

namespace Crypto.Entropy

/-- The stream behind some first blocks. -/
def behind (entropy : Entropy) (count : Nat) : Entropy :=
  { entropy with used := entropy.used + count * Cbc.blockSize }

/-- Every first block is the same, however many have been drawn before. -/
def Repeats (entropy : Entropy) : Prop :=
  ∀ count, ((entropy.behind count).draw Cbc.blockSize).1 = (entropy.draw Cbc.blockSize).1

theorem behind_zero (entropy : Entropy) : entropy.behind 0 = entropy := by
  simp [behind]

theorem draw_behind (entropy : Entropy) (count : Nat) :
    ((entropy.behind count).draw Cbc.blockSize).2 = entropy.behind (count + 1) := by
  simp [behind, draw, Nat.add_mul, Nat.add_assoc]

/-- Two positions of a stream between first blocks. -/
def Drawn (entropy first second : Entropy) : Prop :=
  (∃ count, first = entropy.behind count) ∧ ∃ count, second = entropy.behind count

/-- Where first blocks repeat, positions between them cannot be told apart. -/
theorem Repeats.indistinct {entropy : Entropy} (repeats : entropy.Repeats) :
    Indistinct entropy.Drawn := by
  rintro first second ⟨⟨count, rfl⟩, ⟨other, rfl⟩⟩
  refine ⟨(repeats count).trans (repeats other).symm, ⟨count + 1, ?_⟩, ⟨other + 1, ?_⟩⟩
  · exact draw_behind entropy count
  · exact draw_behind entropy other

/-- Equal streams cannot be told apart. -/
theorem indistinct_eq : Indistinct Eq := by
  rintro first second rfl
  exact ⟨rfl, rfl⟩

end Crypto.Entropy

namespace Relay.Exchange

variable {same : Crypto.Entropy → Crypto.Entropy → Prop} {catalog : Catalog}
  {policy : Policy ChainState} {first second : Exchange ChainState}

/-- Exchanges that agree on everything but the shields, whose streams cannot be told apart, and
on the shields too while the results of a query that passed them are awaited. -/
structure Alike (same : Crypto.Entropy → Crypto.Entropy → Prop)
    (first second : Exchange ChainState) : Prop where
  response : first.response = second.response
  status : first.status = second.status
  skipping : first.skipping = second.skipping
  drawn : same first.chain.entropy second.chain.entropy
  chain : first.response.guarded = true → first.chain.Alike same second.chain

/-- The text to send for a query is the same for chains whose streams cannot be told apart. -/
theorem run_shieldText (indistinct : Crypto.Entropy.Indistinct same)
    (shield : policy.shield = catalog.chain) (text : String) {first second : ChainState}
    (drawn : same first.entropy second.entropy) :
    let one := (policy.shieldText text).run.run first
    let two := (policy.shieldText text).run.run second
    one.1 = two.1 ∧ same one.2.entropy two.2.entropy ∧
      ((∃ rewritten, one.1 = .ok (some rewritten)) ∨ first.Alike same second →
        one.2.Alike same two.2) := by
  intro one two
  -- Where no text comes out of the shields, the chains are as they were.
  have unread {outcome : Except Failure (Option String)}
      (nothing : ∀ rewritten, outcome ≠ .ok (some rewritten)) :
      (∃ rewritten, outcome = .ok (some rewritten)) ∨ first.Alike same second →
        first.Alike same second := by
    rintro (⟨rewritten, read⟩ | alike)
    · exact absurd read (nothing rewritten)
    · exact alike
  simp only [one, two, Policy.shieldText, shield]
  split
  · split
    · exact ⟨rfl, drawn, unread (by rintro _ ⟨⟩)⟩
    · exact ⟨rfl, drawn, unread (by rintro _ ⟨⟩)⟩
  · exact ⟨rfl, drawn, unread (by rintro _ ⟨⟩)⟩
  · rename_i statements _ _
    rcases ChainState.renews catalog indistinct statements drawn with
      ⟨outcome, reached, alike⟩
    simp only [run_bind]
    rcases firstRun : (catalog.chain.protect statements).run.run first with ⟨sent, one⟩
    rcases secondRun : (catalog.chain.protect statements).run.run second with ⟨other, two⟩
    rw [firstRun, secondRun] at outcome reached alike
    cases outcome
    cases sent with
    | error failure =>
        refine ⟨rfl, reached, ?_⟩
        rintro (⟨rewritten, impossible⟩ | before)
        · cases impossible
        · exact alike (Or.inr before)
    | ok sent =>
        exact ⟨rfl, reached, fun _ => alike (Or.inl ⟨sent, rfl⟩)⟩

/-- A refusal says nothing of the exchange but the status. -/
theorem refuse_congr (status : first.status = second.status) (failure : Failure) :
    (first.refuse policy failure).2 = (second.refuse policy failure).2 := by
  rw [refuse, refuse, status]

theorem Alike.onQuery (indistinct : Crypto.Entropy.Indistinct same)
    (shield : policy.shield = catalog.chain) (alike : first.Alike same second) (text : Bytes) :
    (first.onQuery policy text).2 = (second.onQuery policy text).2 ∧
      (first.onQuery policy text).1.Alike same (second.onQuery policy text).1 := by
  simp only [Exchange.onQuery]
  split
  · exact ⟨rfl, alike⟩
  · split
    · exact ⟨refuse_congr alike.status _, alike⟩
    · rename_i query decoded
      rcases run_shieldText indistinct shield query alike.drawn with ⟨outcome, reached, chains⟩
      rcases firstRun : (policy.shieldText query).run.run first.chain with ⟨sent, one⟩
      rcases secondRun : (policy.shieldText query).run.run second.chain with ⟨other, two⟩
      rw [firstRun, secondRun] at outcome reached chains
      cases outcome
      rcases sent with failure | _ | rewritten
      · refine ⟨refuse_congr alike.status failure, ?_⟩
        refine ⟨alike.response, alike.status, alike.skipping, reached, ?_⟩
        exact fun guarded => chains (Or.inr (alike.chain guarded))
      · exact ⟨rfl, rfl, alike.status, alike.skipping, reached,
          fun guarded => absurd guarded Bool.false_ne_true⟩
      · exact ⟨rfl, rfl, alike.status, alike.skipping, reached,
          fun _ => chains (Or.inl ⟨rewritten, rfl⟩)⟩

theorem Alike.onParse (alike : first.Alike same second) (message : Message) :
    (first.onParse policy message).2 = (second.onParse policy message).2 ∧
      (first.onParse policy message).1.Alike same (second.onParse policy message).1 := by
  simp only [Exchange.onParse]
  split
  · exact ⟨rfl, alike⟩
  · exact ⟨rfl, alike.response, alike.status, rfl, alike.drawn, alike.chain⟩

theorem Alike.onOther (alike : first.Alike same second) (tag : Option UInt8) (bytes : Bytes) :
    (first.onOther tag bytes).2 = (second.onOther tag bytes).2 ∧
      (first.onOther tag bytes).1.Alike same (second.onOther tag bytes).1 := by
  simp only [Exchange.onOther, alike.skipping, alike.status]
  split
  · exact ⟨rfl, alike⟩
  · split
    · exact ⟨rfl, alike.response, rfl, rfl, alike.drawn, alike.chain⟩
    · split
      · exact ⟨rfl, alike⟩
      · exact ⟨rfl, alike.response, rfl, rfl, alike.drawn, alike.chain⟩

/-- Exchanges that are alike may be given the same response, unless results were not awaited. -/
theorem Alike.respond (alike : first.Alike same second) {response : Response}
    (awaited : response.guarded = true → second.response.guarded = true) :
    Exchange.Alike same { first with response } { second with response } := by
  refine ⟨rfl, alike.status, alike.skipping, alike.drawn, fun guarded => alike.chain ?_⟩
  rw [alike.response]
  exact awaited guarded

/-- Whatever the response is, chains that are alike go with it. -/
theorem Alike.withChain (alike : first.Alike same second) {one two : ChainState}
    (chains : one.Alike same two) (response : Response) :
    Exchange.Alike same { first with chain := one, response }
      { second with chain := two, response } :=
  ⟨rfl, alike.status, alike.skipping, chains.encryption.own.entropy, fun _ => chains⟩

theorem Alike.onRowDescription (shield : policy.shield = catalog.chain)
    (alike : first.Alike same second) (columns : List Column) :
    (first.onRowDescription policy columns).2 = (second.onRowDescription policy columns).2 ∧
      (first.onRowDescription policy columns).1.Alike same
        (second.onRowDescription policy columns).1 := by
  simp only [Exchange.onRowDescription, alike.response, shield]
  split
  · exact ⟨rfl, alike⟩
  · rename_i unguarded
    split
    · exact ⟨rfl, alike⟩
    · have guarded : first.response.guarded = true := by
        rw [alike.response]
        simpa using unguarded
      rcases (alike.chain guarded).describe catalog columns
        second.response.statement with ⟨outcome, reached⟩
      rcases firstRun : (catalog.chain.describe columns second.response.statement).run.run
        first.chain with ⟨described, one⟩
      rcases secondRun : (catalog.chain.describe columns second.response.statement).run.run
        second.chain with ⟨other, two⟩
      rw [firstRun, secondRun] at outcome reached
      cases outcome
      cases described with
      | error failure =>
          exact ⟨rfl, alike.withChain reached _⟩
      | ok described =>
          exact ⟨rfl, alike.withChain reached _⟩

theorem Alike.onDataRow (shield : policy.shield = catalog.chain)
    (alike : first.Alike same second) (values : Row) :
    (first.onDataRow policy values).2 = (second.onDataRow policy values).2 ∧
      (first.onDataRow policy values).1.Alike same (second.onDataRow policy values).1 := by
  simp only [Exchange.onDataRow, alike.response, shield]
  split
  · exact ⟨rfl, alike⟩
  · rename_i unguarded
    split
    · exact ⟨rfl, alike⟩
    · have guarded : first.response.guarded = true := by
        rw [alike.response]
        simpa using unguarded
      rcases (alike.chain guarded).inspect catalog values with ⟨outcome, reached⟩
      rcases firstRun : (catalog.chain.inspect values).run.run first.chain with ⟨inspected, one⟩
      rcases secondRun : (catalog.chain.inspect values).run.run second.chain with ⟨other, two⟩
      rw [firstRun, secondRun] at outcome reached
      cases outcome
      rcases inspected with failure | ⟨_ | _, row⟩
      · exact ⟨rfl, alike.withChain reached _⟩
      · exact ⟨rfl, alike.withChain reached _⟩
      · exact ⟨rfl, alike.withChain reached _⟩

theorem Alike.onCommandComplete (alike : first.Alike same second) (tag : Bytes) :
    (first.onCommandComplete policy tag).2 = (second.onCommandComplete policy tag).2 ∧
      (first.onCommandComplete policy tag).1.Alike same
        (second.onCommandComplete policy tag).1 := by
  simp only [Exchange.onCommandComplete, alike.response]
  split
  · exact ⟨rfl, alike⟩
  · split
    · exact ⟨rfl, alike⟩
    · split
      · exact ⟨rfl, alike.respond id⟩
      · exact ⟨rfl, alike.respond id⟩

/-- The step lemma: exchanges that are alike give the same output on a message, and stay alike. -/
theorem Alike.onMessage (indistinct : Crypto.Entropy.Indistinct same)
    (shield : policy.shield = catalog.chain) (alike : first.Alike same second) (side : Side)
    (message : Message) :
    (first.onMessage policy side message).2 = (second.onMessage policy side message).2 ∧
      (first.onMessage policy side message).1.Alike same
        (second.onMessage policy side message).1 := by
  cases message with
  | query text =>
      exact alike.onQuery indistinct shield text
  | parse name text types =>
      exact alike.onParse (.parse name text types)
  | rowDescription columns =>
      exact alike.onRowDescription shield columns
  | dataRow values =>
      exact alike.onDataRow shield values
  | commandComplete tag =>
      exact alike.onCommandComplete tag
  | emptyQueryResponse =>
      simp only [Exchange.onMessage, onEmptyQueryResponse, alike.response]
      split
      · exact ⟨rfl, alike⟩
      · exact ⟨rfl, alike.respond id⟩
  | errorResponse fields terminator =>
      simp only [Exchange.onMessage, onErrorResponse, alike.response]
      split
      · exact ⟨rfl, alike.respond id⟩
      · exact ⟨rfl, alike.respond id⟩
  | readyForQuery status =>
      exact ⟨rfl, rfl, rfl, alike.skipping, alike.drawn,
        fun guarded => absurd guarded Bool.false_ne_true⟩
  | raw tag bytes =>
      cases side with
      | frontend =>
          exact alike.onOther tag bytes
      | backend =>
          exact ⟨rfl, alike⟩

/-- The run lemma: exchanges that are alike give the same outputs in every conversation. -/
theorem Alike.converse (indistinct : Crypto.Entropy.Indistinct same)
    (shield : policy.shield = catalog.chain) (alike : first.Alike same second)
    (messages : List (Side × Message)) :
    first.converse policy messages = second.converse policy messages := by
  induction messages generalizing first second with
  | nil =>
      rfl
  | cons sent messages inductionHypothesis =>
      rcases sent with ⟨side, message⟩
      rcases alike.onMessage indistinct shield side message with ⟨output, reached⟩
      rw [converse_cons, converse_cons, output, inductionHypothesis reached]

/-! ## Refusal -/

/-- A query is refused: the client gets an error, and the server gets nothing. -/
def Refuses (policy : Policy ChainState) (exchange : Exchange ChainState) (text : Bytes) : Prop :=
  ∃ failure, (exchange.onQuery policy text).2 = (exchange.refuse policy failure).2

/-- A text that holds statements and is not refused has passed the shields: it is sent, and the
results of its first statement are awaited. -/
theorem exists_passage_of_accepted {exchange : Exchange ChainState} {text : Bytes} {query : String}
    {statements : List Sql.Statement} (shielding : policy.shielding = true)
    (decoded : Text.decode? text = some query) (parsed : Sql.parse query = .ok statements)
    (nonempty : statements ≠ []) (accepted : ¬ exchange.Refuses policy text) :
    ∃ sent chain, Gives (policy.shield.protect statements) exchange.chain sent chain ∧
      let rewritten := if Sql.printStatements sent = Sql.printStatements statements then query
        else Sql.printStatements sent
      exchange.onQuery policy text =
        ({ exchange with chain, response := .starting 0 },
          if rewritten = query then .forward .frontend (Message.query text).write
          else Output.note (.queryRewritten policy.session rewritten)
            ++ .forward .frontend (Message.ofQuery rewritten).write) := by
  have asks : policy.shieldText query = do
      let rewritten := Sql.printStatements (← policy.shield.protect statements)
      return some (if rewritten = Sql.printStatements statements then query else rewritten) := by
    rw [Policy.shieldText, parsed]
    cases statements with
    | nil =>
        exact absurd rfl nonempty
    | cons statement rest =>
        rfl
  rcases run : (policy.shield.protect statements).run.run exchange.chain with ⟨outcome, chain⟩
  cases outcome with
  | error failure =>
      refine absurd ⟨failure, ?_⟩ accepted
      have fails : (policy.shieldText query).run.run exchange.chain = (.error failure, chain) := by
        rw [asks, run_bind, run]
      simp only [Exchange.onQuery, shielding, decoded, fails, Bool.not_true, Bool.false_eq_true,
        if_false]
      rfl
  | ok sent =>
      have passes : (policy.shieldText query).run.run exchange.chain =
          (.ok (some (if Sql.printStatements sent = Sql.printStatements statements then query
            else Sql.printStatements sent)), chain) := by
        rw [asks, run_bind, run]
        rfl
      refine ⟨sent, chain, run, ?_⟩
      simp only [Exchange.onQuery, shielding, decoded, passes, Bool.not_true, Bool.false_eq_true,
        if_false]
      rfl

/-- A refused query changes nothing but the shields. -/
theorem onQuery_of_refuses {exchange : Exchange ChainState} {text : Bytes}
    (refuses : exchange.Refuses policy text) :
    (exchange.onQuery policy text).1 =
      { exchange with chain := (exchange.onQuery policy text).1.chain } := by
  rcases refuses with ⟨failure, refused⟩
  have nothing : (exchange.onQuery policy text).2.toServer = [] := by
    rw [refused]
    rfl
  revert nothing
  simp only [Exchange.onQuery]
  split
  · exact fun _ => rfl
  · split
    · exact fun _ => rfl
    · split
      · exact fun _ => rfl
      · exact fun nothing => absurd nothing (List.cons_ne_nil _ _)
      · split
        · exact fun nothing => absurd nothing (List.cons_ne_nil _ _)
        · exact fun nothing => absurd nothing (List.cons_ne_nil _ _)

/-- Where no response is pending, a refused query and one that was never sent leave exchanges
that are alike, as long as the streams of the two cannot be told apart. -/
theorem alike_of_refuses {exchange : Exchange ChainState} {text : Bytes} (chain : ChainState)
    (idle : exchange.response = {}) (refuses : exchange.Refuses policy text)
    (drawn : same (exchange.onQuery policy text).1.chain.entropy chain.entropy) :
    (exchange.onQuery policy text).1.Alike same { exchange with chain } := by
  have unguarded : exchange.response.guarded = true → False := by
    rw [idle]
    exact Bool.false_ne_true
  rw [onQuery_of_refuses refuses]
  exact ⟨rfl, rfl, rfl, drawn, fun guarded => (unguarded guarded).elim⟩

/-- A refused query leaves nothing behind but the random bytes that it has drawn: the outputs
from there on are those of the exchange with its stream moved on. -/
theorem refused_query_only_draws (shield : policy.shield = catalog.chain)
    (exchange : Exchange ChainState) (idle : exchange.response = {}) (text : Bytes)
    (refuses : exchange.Refuses policy text) (later : List (Side × Message)) :
    let next := (exchange.onQuery policy text).1
    next.converse policy later =
      { exchange with chain := exchange.chain.movedTo next.chain.entropy }.converse policy later :=
  (alike_of_refuses (exchange.chain.movedTo _) idle refuses rfl).converse
    Crypto.Entropy.indistinct_eq shield later

/--
A refused query leaves no trace.  No response is pending, and a query is refused at
whatever stage: its bytes are no text, it cannot be read, or any of the shields refuses it,
after others have taken it in.  Then whatever is sent by both sides from there on brings the
outputs, audit events included, that it brings where the query was never sent, provided
that a first block does not depend on those drawn before.
-/
theorem refused_queries_leave_no_trace (catalog : Catalog) (policy : Policy ChainState)
    (shield : policy.shield = catalog.chain) (exchange : Exchange ChainState)
    (idle : exchange.response = {}) (repeats : exchange.chain.entropy.Repeats) (text : Bytes)
    (refuses : exchange.Refuses policy text) (later : List (Side × Message)) :
    (exchange.onQuery policy text).1.converse policy later = exchange.converse policy later := by
  have here : exchange.chain.entropy.Drawn exchange.chain.entropy exchange.chain.entropy :=
    ⟨⟨0, (Crypto.Entropy.behind_zero _).symm⟩, ⟨0, (Crypto.Entropy.behind_zero _).symm⟩⟩
  have itself : exchange.Alike exchange.chain.entropy.Drawn exchange := by
    refine ⟨rfl, rfl, rfl, here, fun guarded => ?_⟩
    rw [idle] at guarded
    cases guarded
  -- What the refused query has drawn are first blocks.
  have drawn := (itself.onQuery repeats.indistinct shield text).2.drawn
  have alike : (exchange.onQuery policy text).1.Alike exchange.chain.entropy.Drawn exchange :=
    alike_of_refuses exchange.chain idle refuses ⟨drawn.1, here.2⟩
  exact alike.converse repeats.indistinct shield later

/-- The name of a city has been encrypted when the second statement of the text is refused. -/
theorem refusedStar_leaves_no_trace :
    let policy : Policy ChainState := { shield := citiesCatalog.chain, session := "1" }
    let exchange : Exchange ChainState := { chain := .initial { stream := fun _ => 0 } }
    let text := Text.utf8 "INSERT INTO cities (name) VALUES ('Ulm'); SELECT * FROM cities"
    let later : List (Side × Message) :=
      [(.frontend, .query (Text.utf8 "INSERT INTO cities (name) VALUES ('Ulm')"))]
    exchange.response = {} ∧ exchange.chain.entropy.Repeats ∧ exchange.Refuses policy text ∧
      (exchange.onQuery policy text).1.chain.entropy.used = 16 ∧
        (exchange.onQuery policy text).1.converse policy later =
          exchange.converse policy later := by
  intro policy exchange text later
  have repeats : exchange.chain.entropy.Repeats := fun _ => rfl
  have refuses : exchange.Refuses policy text := ⟨.query .starExpression, by decide +kernel⟩
  have drawn : (exchange.onQuery policy text).1.chain.entropy.used = 16 := by decide +kernel
  exact ⟨rfl, repeats, refuses, drawn,
    refused_queries_leave_no_trace citiesCatalog policy rfl exchange rfl repeats text refuses later⟩

end Relay.Exchange

end ColumnVeil
