import ColumnVeil.Proofs.Relay.Refusal
import ColumnVeil.Proofs.Shield.Registration

/-!
# Statements and their results

A query may hold several statements.  The server answers them in order, each with the rows that
it gives, if it gives any, and the tag of its command.  The exchange counts these parts of the
answer, and the shields look up by that number what they have registered of the statement.

The main statement says that the two numbers stay in step.  What becomes of a part of the answer
is said by `Registration.treat?`, from the registration of one statement and the part itself.
-/

namespace ColumnVeil

open Wire

/-- What the server sends for one statement: the description of its rows and the rows, if it
gives any, and the tag of the command. -/
structure Segment where
  results : Option (List Column × List Row)
  tag : Bytes

namespace Segment

/-- The description and the rows. -/
def arrivals (segment : Segment) : List Arrival :=
  match segment.results with
  | none => []
  | some (columns, rows) => .description columns :: rows.map .row

/-- All messages for the statement. -/
def messages (segment : Segment) : List Message :=
  segment.arrivals.map Arrival.message ++ [.commandComplete segment.tag]

end Segment

/-- The message that is left over of a row. -/
def leftOver : RowAction × Row → Option Message
  | (.keep, row) => some (.dataRow row)
  | (.discard, _) => none

/--
What is left over of the description and the rows for a statement, by what is registered of it:
the description settles how every row is decrypted and what is compared in it.
-/
def Registration.treat? (registration : Registration) (catalog : Catalog) :
    Option (List Column × List Row) → Option (List (Option Message))
  | none => some []
  | some (columns, rows) => do
      let reading ← registration.read? catalog columns
      let inspected ← rows.mapM reading.inspect?
      return some (.rowDescription reading.columns) :: inspected.map leftOver

/-! ## One part of the answer -/

section Treatment

variable {catalog : Catalog} {before after : ChainState} {index : Nat}

/-- Rows are treated one by one, and leave the chain as it is. -/
theorem inspect?_of_gives_mapM {rows : List Row} {treated : List (Option Message)}
    (run : Gives ((rows.map Arrival.row).mapM (catalog.chain.treat index)) before treated after)
    (columns : List Column) :
    after = before ∧ ∃ inspected, rows.mapM (before.reading columns).inspect? = some inspected ∧
      treated = inspected.map leftOver := by
  induction rows generalizing treated with
  | nil =>
      rcases gives_pure_iff.mp run with ⟨rfl, rfl⟩
      exact ⟨rfl, [], rfl, rfl⟩
  | cons row rows inductionHypothesis =>
      rw [List.map_cons] at run
      rcases gives_mapM_cons_iff.mp run with ⟨first, middle, rest, firstRun, restRun, rfl⟩
      rcases gives_bind_iff.mp firstRun with ⟨⟨action, opened⟩, reached, inspects, remains⟩
      rcases inspect?_of_gives inspects columns with ⟨rfl, inspected⟩
      have left : first = leftOver (action, opened) ∧ middle = reached := by
        cases action with
        | keep =>
            rcases gives_pure_iff.mp remains with ⟨rfl, rfl⟩
            exact ⟨rfl, rfl⟩
        | discard =>
            rcases gives_pure_iff.mp remains with ⟨rfl, rfl⟩
            exact ⟨rfl, rfl⟩
      rcases left with ⟨rfl, rfl⟩
      rcases inductionHypothesis restRun with ⟨rfl, others, allInspected, rfl⟩
      refine ⟨rfl, (action, opened) :: others, ?_, rfl⟩
      rw [List.mapM_cons, inspected, allInspected]
      rfl

/-- What the chain leaves over of a part of the answer is what the registration of the statement
says, and the chain still knows all registrations. -/
theorem treat?_of_gives {segment : Segment} {treated : List (Option Message)}
    (run : Gives (segment.arrivals.mapM (catalog.chain.treat index)) before treated after) :
    before.Remembers after ∧ ∀ registration, before.Knows index registration →
      registration.treat? catalog segment.results = some treated := by
  rcases segment with ⟨_ | ⟨columns, rows⟩, tag⟩
  · rcases gives_pure_iff.mp run with ⟨rfl, rfl⟩
    exact ⟨.refl before, fun _ _ => rfl⟩
  · rcases gives_mapM_cons_iff.mp run with ⟨first, middle, rest, firstRun, restRun, rfl⟩
    rcases gives_bind_iff.mp firstRun with ⟨described, reached, describes, ends⟩
    rcases gives_pure_iff.mp ends with ⟨rfl, rfl⟩
    rcases read?_of_gives describes with ⟨remembers, reads⟩
    rcases inspect?_of_gives_mapM restRun described with ⟨rfl, inspected, allInspected, rfl⟩
    refine ⟨remembers, fun registration knows => ?_⟩
    simp only [Registration.treat?, reads registration knows, allInspected, Option.bind_eq_bind,
      Option.bind_some]
    rfl

end Treatment

namespace Relay.Exchange

section Segments

variable {σ : Type} {policy : Policy σ} {exchange : Exchange σ}

/-- Where the results have been given up, the messages for statements change nothing. -/
theorem onMessage_segment_of_aborted {segment : Segment} {message : Message}
    (member : message ∈ segment.messages) (aborted : exchange.response.aborted = true) :
    (exchange.onMessage policy .backend message).1 = exchange := by
  have spoiled : exchange.response.isSpoiled = true := by
    simp [Response.isSpoiled, aborted]
  rcases List.mem_append.mp member with arrival | ending
  · rcases List.mem_map.mp arrival with ⟨columns | values, -, rfl⟩
    · cases guarded : exchange.response.guarded <;>
        simp [Arrival.message, onMessage, onRowDescription, guarded, spoiled]
    · cases guarded : exchange.response.guarded <;>
        simp [Arrival.message, onMessage, onDataRow, guarded, spoiled]
  · rcases List.mem_singleton.mp ending with rfl
    cases guarded : exchange.response.guarded <;>
      simp [onMessage, onCommandComplete, guarded, aborted]

theorem onServer_segments_of_aborted {messages : List Message}
    (parts : ∀ message ∈ messages, ∃ segment : Segment, message ∈ segment.messages)
    (aborted : exchange.response.aborted = true) :
    (exchange.onServer policy messages).1 = exchange := by
  induction messages with
  | nil =>
      rfl
  | cons message messages inductionHypothesis =>
      rcases List.forall_mem_cons.mp parts with ⟨⟨segment, member⟩, others⟩
      rw [onServer]
      simp only [onMessage_segment_of_aborted member aborted]
      exact inductionHypothesis others

/-- Results that are not given up in the end have not been given up before. -/
theorem not_aborted_of_append {messages : List Message} (segments : List Segment)
    (mutated : (exchange.onServer policy
      (messages ++ segments.flatMap Segment.messages)).1.response.aborted = false) :
    (exchange.onServer policy messages).1.response.aborted = false := by
  rw [onServer_append] at mutated
  by_contra aborted
  rw [Bool.not_eq_false] at aborted
  have parts (message : Message) (member : message ∈ segments.flatMap Segment.messages) :
      ∃ segment : Segment, message ∈ segment.messages := by
    rcases List.mem_flatMap.mp member with ⟨segment, -, inside⟩
    exact ⟨segment, inside⟩
  rw [Prod.map_fst, onServer_segments_of_aborted parts aborted, id, aborted] at mutated
  cases mutated

theorem not_aborted_of_parts (segments : List Segment)
    (mutated : (exchange.onServer policy
      (segments.flatMap Segment.messages)).1.response.aborted = false) (count : Nat) :
    (exchange.onServer policy
      ((segments.take count).flatMap Segment.messages)).1.response.aborted = false := by
  refine not_aborted_of_append (segments.drop count) ?_
  rw [← List.flatMap_append, List.take_append_drop]
  exact mutated

/-- The messages of one more part come behind those of the parts before it. -/
theorem messages_take_succ {segments : List Segment} {index : Nat}
    (within : index < segments.length) :
    (segments.take (index + 1)).flatMap Segment.messages =
      (segments.take index).flatMap Segment.messages ++ (segments[index]).messages := by
  rw [← List.take_append_getElem within, List.flatMap_append, List.flatMap_singleton]

/-- A part of the answer after which results are not given up has been treated by the shield as a
whole, and the part for the next statement can start. -/
theorem treated_of_not_aborted {index : Nat} (start : exchange.response = .starting index)
    (segment : Segment)
    (mutated : (exchange.onServer policy segment.messages).1.response.aborted = false) :
    ∃ treated chain,
      Gives (segment.arrivals.mapM (policy.shield.treat index)) exchange.chain treated chain ∧
        (exchange.onServer policy segment.messages).1 =
          { exchange with chain, response := .starting (index + 1) } ∧
          (exchange.onServer policy segment.messages).2.toServer = [] ∧
            (exchange.onServer policy segment.messages).2.toClient =
              (treated.filterMap id
                ++ [Message.commandComplete (closingTag treated segment.tag)]).flatMap
                Message.write := by
  have arrived := onServer_arrivals policy exchange segment.arrivals (by rw [start]; rfl)
    (by rw [start]; rfl)
  rw [start] at arrived
  simp only [Response.starting] at arrived
  rw [Segment.messages, onServer_append, onServer_singleton] at mutated ⊢
  rcases treating : (segment.arrivals.mapM (policy.shield.treat index)).run.run exchange.chain with
    ⟨outcome, chain⟩
  rw [treating] at arrived
  cases outcome with
  | ok treated =>
      simp only at arrived
      rw [arrived]
      have ended := onMessage_commandComplete_of_held policy
        { exchange with chain, response := (Response.starting index).holdAll treated }
        index treated segment.tag rfl
      exact ⟨treated, chain, treating, ended⟩
  | error failure =>
      rcases arrived with ⟨response, guarded, notAborted, failed, arrived⟩
      rw [arrived] at mutated
      have ended := onMessage_commandComplete_of_failure policy
        { exchange with chain, response } segment.tag guarded notAborted failed
      rw [Prod.map_fst, id, ended.2.2.2] at mutated
      cases mutated

end Segments

variable {catalog : Catalog} {policy : Policy ChainState} {exchange : Exchange ChainState}

/-- The run lemma: behind as many parts of the answer as there were, the part for the next
statement can start, and the chain knows what it has known of all statements. -/
theorem starting_of_segments (shield : policy.shield = catalog.chain)
    (start : exchange.response = .starting 0) (segments : List Segment)
    (mutated : (exchange.onServer policy
      (segments.flatMap Segment.messages)).1.response.aborted = false)
    {index : Nat} (within : index ≤ segments.length) :
    (exchange.onServer policy ((segments.take index).flatMap Segment.messages)).1.response =
        .starting index ∧
      exchange.chain.Remembers
        (exchange.onServer policy ((segments.take index).flatMap Segment.messages)).1.chain := by
  induction index with
  | zero =>
      exact ⟨start, .refl _⟩
  | succ index inductionHypothesis =>
      rcases inductionHypothesis (Nat.le_of_succ_le within) with ⟨waiting, remembers⟩
      have still := not_aborted_of_parts segments mutated (index + 1)
      rw [messages_take_succ within, onServer_append] at still ⊢
      rcases treated_of_not_aborted waiting segments[index] still with
        ⟨treated, chain, treating, next, -, -⟩
      rw [shield] at treating
      rw [Prod.map_fst, id, next]
      exact ⟨rfl, remembers.trans (treat?_of_gives treating).1⟩

/--
Every part of an answer is read by the statement that it answers.  A query of any
number of statements is accepted, whatever came before it, and the server sends for one statement
after the other either nothing or a description and rows, and the tag of the command; none of
it is replaced by an error.  Then the part at an index is treated by what the chain registers while
it traverses the statement at that index: what is written behind the parts before it is what is
left over of this part, and nothing that has come before it makes a difference.
-/
theorem results_map_to_their_statements (catalog : Catalog) (policy : Policy ChainState)
    (shield : policy.shield = catalog.chain) (shielding : policy.shielding = true)
    (exchange : Exchange ChainState) (text : Bytes) (query : String)
    (statements : List Sql.Statement) (decoded : Text.decode? text = some query)
    (parsed : Sql.parse query = .ok statements) (accepted : ¬ exchange.Refuses policy text)
    (segments : List Segment) (within : segments.length ≤ statements.length)
    (mutated : ((exchange.onQuery policy text).1.onServer policy
      (segments.flatMap Segment.messages)).1.response.aborted = false)
    (index : Nat) (segment : Segment) (found : segments[index]? = some segment) :
    let reached := ((exchange.onQuery policy text).1.onServer policy
      ((segments.take index).flatMap Segment.messages)).1
    ∃ registration treated,
      catalog.Registers exchange.chain.entropy statements index registration ∧
        registration.treat? catalog segment.results = some treated ∧
          (reached.onServer policy segment.messages).2.toServer = [] ∧
            (reached.onServer policy segment.messages).2.toClient =
              (treated.filterMap id
                ++ [Message.commandComplete (closingTag treated segment.tag)]).flatMap
                Message.write := by
  intro reached
  rcases List.getElem?_eq_some_iff.mp found with ⟨inside, place⟩
  have nonempty : statements ≠ [] := by
    rintro rfl
    exact absurd (Nat.lt_of_lt_of_le inside within) (Nat.not_lt_zero index)
  rcases exists_passage_of_accepted shielding decoded parsed nonempty accepted with
    ⟨sent, chain, run, asked⟩
  rw [shield] at run
  rcases exists_registered run (Nat.lt_of_lt_of_le inside within) with
    ⟨registration, registers, knows⟩
  have start : (exchange.onQuery policy text).1.response = .starting 0 := by rw [asked]
  have known : (exchange.onQuery policy text).1.chain.Knows index registration := by
    rw [asked]
    exact knows
  rcases starting_of_segments shield start segments mutated (Nat.le_of_lt inside) with
    ⟨waiting, remembers⟩
  have still : (reached.onServer policy segment.messages).1.response.aborted = false := by
    have through := not_aborted_of_parts segments mutated (index + 1)
    rw [messages_take_succ inside, onServer_append, place] at through
    exact through
  rcases treated_of_not_aborted waiting segment still with ⟨treated, last, treating, -, written⟩
  rw [shield] at treating
  exact ⟨registration, treated, registers,
    (treat?_of_gives treating).2 registration (remembers.knows known), written⟩

/-- A relay in front of a database of cities. -/
def cityPolicy : Policy ChainState := { shield := citiesCatalog.chain, session := "1" }

/-- The exchange of that relay before its first query. -/
def cityExchange : Exchange ChainState := { chain := .initial { stream := fun _ => 0 } }

/-- A query for the ids and for the names of all cities. -/
def idsAndNames : String := "SELECT id FROM cities; SELECT name FROM cities"

/-- The id of one city. -/
def idSegment : Segment where
  results := some ([{ name := Text.utf8 "id", typeOid := DataType.int4, typeSize := 4 }],
    [[some [0x33]]])
  tag := Text.utf8 "SELECT 1"

/-- The names of cities as the server describes them. -/
def nameColumn : Column where
  name := Text.utf8 "name"
  typeOid := DataType.bytea
  typeSize := -1

/-- The missing name of one city. -/
def nameSegment : Segment where
  results := some ([nameColumn], [[none]])
  tag := Text.utf8 "SELECT 1"

/-- The statements of that query. -/
def idAndNameStatements : List Sql.Statement := (Sql.parse idsAndNames).toOption.getD []

theorem parse_idsAndNames : Sql.parse idsAndNames = .ok idAndNameStatements := by
  have reads : (Sql.parse idsAndNames).isOk = true := by decide +kernel
  rw [idAndNameStatements]
  cases found : Sql.parse idsAndNames with
  | error failure =>
      rw [found] at reads
      cases reads
  | ok statements =>
      rfl

/-- The names are read by what the second statement registers, so that they are described as texts
behind the ids. -/
theorem nameSegment_is_read_by_its_statement :
    let asked := (cityExchange.onQuery cityPolicy (Text.utf8 idsAndNames)).1
    let reached := (asked.onServer cityPolicy
      (([idSegment, nameSegment].take 1).flatMap Segment.messages)).1
    Text.decode? (Text.utf8 idsAndNames) = some idsAndNames ∧
      Sql.parse idsAndNames = .ok idAndNameStatements ∧
        ¬ cityExchange.Refuses cityPolicy (Text.utf8 idsAndNames) ∧
          [idSegment, nameSegment].length ≤ idAndNameStatements.length ∧
            (asked.onServer cityPolicy
              ([idSegment, nameSegment].flatMap Segment.messages)).1.response.aborted = false ∧
              (∃ registration treated,
                citiesCatalog.Registers cityExchange.chain.entropy idAndNameStatements 1
                    registration ∧
                  registration.treat? citiesCatalog nameSegment.results = some treated ∧
                    (reached.onServer cityPolicy nameSegment.messages).2.toClient =
                      (treated.filterMap id ++ [Message.commandComplete
                        (closingTag treated nameSegment.tag)]).flatMap Message.write) ∧
                (reached.onServer cityPolicy nameSegment.messages).2.toClient =
                  [Message.rowDescription [{ nameColumn with typeOid := DataType.text }],
                    .dataRow [none], .commandComplete nameSegment.tag].flatMap Message.write := by
  intro asked reached
  have decoded : Text.decode? (Text.utf8 idsAndNames) = some idsAndNames := by decide +kernel
  have accepted : ¬ cityExchange.Refuses cityPolicy (Text.utf8 idsAndNames) := by
    rintro ⟨failure, refused⟩
    have sends : (cityExchange.onQuery cityPolicy (Text.utf8 idsAndNames)).2.toServer ≠ [] := by
      decide +kernel
    exact sends (congrArg Output.toServer refused)
  have within : [idSegment, nameSegment].length ≤ idAndNameStatements.length := by decide +kernel
  have mutated : (asked.onServer cityPolicy
      ([idSegment, nameSegment].flatMap Segment.messages)).1.response.aborted = false := by
    decide +kernel
  rcases results_map_to_their_statements citiesCatalog cityPolicy rfl rfl cityExchange _ idsAndNames
    idAndNameStatements decoded parse_idsAndNames accepted [idSegment, nameSegment] within mutated 1
    nameSegment rfl with ⟨registration, treated, registers, treats, -, written⟩
  have released : (reached.onServer cityPolicy nameSegment.messages).2.toClient =
      [Message.rowDescription [{ nameColumn with typeOid := DataType.text }], .dataRow [none],
        .commandComplete nameSegment.tag].flatMap Message.write := by
    decide +kernel
  exact ⟨decoded, parse_idsAndNames, accepted, within, mutated,
    ⟨registration, treated, registers, treats, written⟩, released⟩

end Relay.Exchange

end ColumnVeil
