import ColumnVeil.Proofs.Shield.Decryption
import ColumnVeil.Proofs.Shield.Passage

/-!
# Answers to a query

Whatever the server answers, the chain goes on knowing what it has remembered of the query.
A description settles which positions are compared in the rows behind it, and rows leave the
chain as it is.
-/

namespace ColumnVeil

open Sql

/-! ## Results that arrive -/

/-- What the server sends of a result: the description of its rows, or a row. -/
inductive Answer where
  | description (columns : List Wire.Column) (statement : Nat)
  | row (values : Row)

namespace Catalog

variable {catalog : Catalog}

/-- The state of the chain behind an answer, whether or not the answer is accepted. -/
def receive (catalog : Catalog) (state : ChainState) : Answer → ChainState
  | .description columns statement =>
      ((catalog.chain.describe columns statement).run.run state).2
  | .row values => ((catalog.chain.inspect values).run.run state).2

/-- The state of the chain behind some answers. -/
def receiveAll (catalog : Catalog) (state : ChainState) (answers : List Answer) : ChainState :=
  answers.foldl catalog.receive state

/--
What the chain does with a row of the result of a query with a selection, under the
labels that the result has been described with.  The text with the query has been accepted;
any other results may have come before this one, and any other rows before this row.
-/
inductive Inspects (catalog : Catalog) (query : Query) (select : Select) :
    List String → RowAction → Row → Prop where
  | row {statements sent : List Statement} {index : Nat} {before asked described last : ChainState}
      {answers : List Answer} {columns shown : List Wire.Column} {rows : List Row}
      {returned row : Row} {action : RowAction} :
      Gives (catalog.chain.protect statements) before sent asked →
        statements[index]? = some (.query query) → query.selection? = some select →
          Gives (catalog.chain.describe columns index) (catalog.receiveAll asked answers) shown
              described →
            Gives (catalog.chain.inspect returned)
                (catalog.receiveAll described (rows.map .row)) (action, row) last →
              Inspects catalog query select (shown.map Wire.Column.label) action row

end Catalog

/-! ## What the chain does with answers -/

section Answers

variable {catalog : Catalog}

/-- A row leaves the state of the chain as it is.  It is decrypted and compared. -/
theorem run_inspect_chain (returned : Row) (state : ChainState) :
    (catalog.chain.inspect returned).run.run state =
      ((Encryption.decryptRow state.2.2.own.results returned).map fun row =>
          (if state.2.1.own.active.any (JoinShadow.differs row) then .discard else .keep, row),
        state) := by
  rw [Catalog.chain, Shield.run_inspect_andThen, Shield.run_inspect_andThen]
  have opens : ((Encryption.shield catalog).inspect returned).run.run state.2.2 =
      ((Encryption.decryptRow state.2.2.own.results returned).map (RowAction.keep, ·), state.2.2) :=
    Encryption.run_inspect returned state.2.2
  rw [opens]
  cases Encryption.decryptRow state.2.2.own.results returned with
  | error failure => rfl
  | ok row =>
      have compares : ((JoinShadow.shield catalog).inspect row).run.run state.2.1 =
          (.ok (if state.2.1.own.active.any (JoinShadow.differs row) then .discard else .keep, row),
            state.2.1) := rfl
      simp only [Except.map, compares]
      cases state.2.1.own.active.any (JoinShadow.differs row) <;> rfl

/-- Rows leave the state of the chain as it is. -/
theorem receiveAll_rows (state : ChainState) (rows : List Row) :
    catalog.receiveAll state (rows.map .row) = state := by
  induction rows with
  | nil => rfl
  | cons row rest inductionHypothesis =>
      have same : catalog.receive state (.row row) = state := by
        rw [Catalog.receive, run_inspect_chain]
      rw [Catalog.receiveAll, List.map_cons, List.foldl_cons, same]
      exact inductionHypothesis

namespace JoinShadow

/-- The pairs of columns that a statement joins. -/
def pairsOf (state : Traversal State) (statement : Nat) : List (ColumnRef × ColumnRef) :=
  state.own.pairs.filterMap fun (index, pair) => if index = statement then some pair else none

theorem mem_pairsOf_iff {state : Traversal State} {statement : Nat}
    {pair : ColumnRef × ColumnRef} :
    pair ∈ pairsOf state statement ↔ (statement, pair) ∈ state.own.pairs := by
  rw [pairsOf, List.mem_filterMap]
  constructor
  · rintro ⟨⟨index, other⟩, member, selected⟩
    rcases Option.ite_none_right_eq_some.mp selected with ⟨rfl, same⟩
    cases same
    exact member
  · intro member
    exact ⟨_, member, if_pos rfl⟩

/-- The positions to compare in the rows of a result, if every joined column is shown. -/
def compared? (state : Traversal State) (labels : List String) (statement : Nat) :
    Option (List (Nat × Nat)) :=
  match state.scope.results? statement with
  | some results =>
      (pairsOf state statement).mapM fun pair => positions? results labels pair.1 pair.2
  | none => some []

/-- The state in which some positions are compared in every row. -/
def comparing (state : Traversal State) (active : List (Nat × Nat)) : Traversal State :=
  { state with own := { state.own with active } }

/-- Describing a result forgets the earlier positions before it looks for others. -/
theorem run_describe_comparing (columns : List Wire.Column) (statement : Nat)
    (state : Traversal State) :
    (describe columns statement).run.run state =
      (match pairsOf state statement, state.scope.results? statement with
        | [], _ => pure columns
        | _, none => pure columns
        | pairs, some results =>
            match pairs.mapM fun pair =>
                positions? results (columns.map Wire.Column.label) pair.1 pair.2 with
            | some active => do
                set (comparing state active)
                return columns
            | none => throw (.query .joinColumnMissing) : Walk State (List Wire.Column)).run.run
        (comparing state []) :=
  rfl

/-- Describing a result finds the positions to compare, and keeps the columns. -/
theorem run_describe (columns : List Wire.Column) (statement : Nat) (state : Traversal State) :
    (describe columns statement).run.run state =
      match compared? state (columns.map Wire.Column.label) statement with
      | some active => (.ok columns, comparing state active)
      | none => (.error (.query .joinColumnMissing), comparing state []) := by
  rw [run_describe_comparing, compared?]
  cases pairsOf state statement with
  | nil => cases state.scope.results? statement <;> rfl
  | cons pair rest =>
      cases state.scope.results? statement with
      | none => rfl
      | some results =>
          dsimp only
          cases (pair :: rest).mapM fun pair =>
            positions? results (columns.map Wire.Column.label) pair.1 pair.2 <;> rfl

end JoinShadow

/-- Every answer keeps what is remembered of queries. -/
theorem keeps_receive (state : ChainState) (answer : Answer) :
    (catalog.receive state answer).2.1.scope = state.2.1.scope ∧
      (catalog.receive state answer).2.1.own.pairs = state.2.1.own.pairs := by
  cases answer with
  | row values =>
      rw [Catalog.receive, run_inspect_chain]
      exact ⟨rfl, rfl⟩
  | description columns statement =>
      rw [Catalog.receive, Catalog.chain, Shield.run_describe_andThen, Shield.run_describe_andThen]
      rcases ((Encryption.shield catalog).describe columns statement).run.run state.2.2 with
        ⟨failure | opened, reached⟩
      · exact ⟨rfl, rfl⟩
      · have describes := JoinShadow.run_describe opened statement state.2.1
        have joins : ((JoinShadow.shield catalog).describe opened statement).run.run state.2.1 =
            (JoinShadow.describe opened statement).run.run state.2.1 := rfl
        simp only [joins, describes]
        cases JoinShadow.compared? state.2.1 (opened.map Wire.Column.label) statement <;>
          exact ⟨rfl, rfl⟩

theorem keeps_receiveAll (state : ChainState) (answers : List Answer) :
    (catalog.receiveAll state answers).2.1.scope = state.2.1.scope ∧
      (catalog.receiveAll state answers).2.1.own.pairs = state.2.1.own.pairs := by
  induction answers generalizing state with
  | nil => exact ⟨rfl, rfl⟩
  | cons answer rest inductionHypothesis =>
      rcases inductionHypothesis (catalog.receive state answer) with ⟨scope, pairs⟩
      rcases @keeps_receive catalog state answer with ⟨headScope, headPairs⟩
      exact ⟨scope.trans headScope, pairs.trans headPairs⟩

/-- A description that is accepted says which positions are compared. -/
theorem compared?_of_gives {columns shown : List Wire.Column} {statement : Nat}
    {before after : ChainState}
    (run : Gives (catalog.chain.describe columns statement) before shown after) :
    JoinShadow.compared? before.2.1 (shown.map Wire.Column.label) statement =
      some after.2.1.own.active := by
  rw [Gives, Catalog.chain, Shield.run_describe_andThen, Shield.run_describe_andThen] at run
  rcases described : ((Encryption.shield catalog).describe columns statement).run.run before.2.2
    with ⟨failure | opened, reached⟩
  · rw [described] at run
    cases run
  · have describes := JoinShadow.run_describe opened statement before.2.1
    have joins : ((JoinShadow.shield catalog).describe opened statement).run.run before.2.1 =
        (JoinShadow.describe opened statement).run.run before.2.1 := rfl
    simp only [described, joins, describes] at run
    cases compared : JoinShadow.compared? before.2.1 (opened.map Wire.Column.label) statement with
    | none =>
        rw [compared] at run
        cases run
    | some active =>
        rw [compared] at run
        cases run
        exact compared

/-- The positions of a pair: the first ones whose output names stand for its columns. -/
theorem positions?_eq_some_iff {results : ResultColumns} {labels : List String}
    {left right : ColumnRef} {places : Nat × Nat} :
    JoinShadow.positions? results labels left right = some places ↔
      labels.findIdx? (fun name => results.column? name == some left) = some places.1 ∧
        labels.findIdx? (fun name => results.column? name == some right) = some places.2 := by
  rcases places with ⟨leftPlace, rightPlace⟩
  simp only [JoinShadow.positions?, Option.bind_eq_bind, Option.bind_eq_some_iff, Option.pure_def,
    Option.some.injEq, Prod.mk.injEq]
  constructor
  · rintro ⟨_, leftFound, _, rightFound, rfl, rfl⟩
    exact ⟨leftFound, rightFound⟩
  · rintro ⟨leftFound, rightFound⟩
    exact ⟨_, leftFound, _, rightFound, rfl, rfl⟩

end Answers

end ColumnVeil
