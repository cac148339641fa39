import ColumnVeil.Proofs.Shield.Insertion
import ColumnVeil.Proofs.Shield.Renewal

/-!
# Unprotected tables

A text that brings no protected table into scope passes the chain as it is, if it passes, and
leaves the chain with nothing to do: no columns are compared, and no output name stands for a
column of a protected table.  Such a chain is `Calm`; it lets every description and every row
pass as it is, and stays calm.
-/

namespace ColumnVeil

open Sql

variable {catalog : Catalog} {σ α : Type}

/-- A table without protected columns. -/
def Catalog.Spares (catalog : Catalog) (table : String) : Prop :=
  catalog.isProtected table = false

theorem Catalog.Spares.rule {table column : String} {rule : ColumnRule}
    (spares : catalog.Spares table) (found : catalog.rule? table column = some rule) :
    rule.isProtected = false := by
  rcases List.lookup_eq_some_iff.mp found with ⟨before, after, split, -⟩
  have member : (⟨foldCase table, foldCase column⟩, rule) ∈ catalog.rules := by
    simp [split]
  have every := List.any_eq_false.mp spares _ member
  simpa using every

/-- No protection is found for a column of a table without protected columns. -/
theorem Catalog.Spares.bind_eq_none {column : ColumnRef} (spares : catalog.Spares column.table)
    {protection? : ColumnRule → Option α}
    (protects : ∀ {rule value}, protection? rule = some value → rule.isProtected = true) :
    (catalog.ruleOf? column).bind protection? = none := by
  cases found : catalog.ruleOf? column with
  | none =>
      rfl
  | some rule =>
      cases protection : protection? rule with
      | none =>
          exact protection
      | some value =>
          have isProtected := protects protection
          rw [spares.rule found] at isProtected
          cases isProtected

/-! ## Visitors -/

section Visitors

variable {like : σ → σ → Prop}

/-- An insertion into a table without protected columns stays as it is. -/
theorem Treatment.parallel_treatInsert (treatment : Treatment σ) {insert : Insert}
    (known : ∀ table ∈ insert.relationNames, catalog.Spares table) :
    Walk.Parallel catalog.Spares like (Unaltered True insert)
      (treatment.treatInsert catalog insert) := by
  rw [Treatment.treatInsert]
  cases named : insert.table.last? with
  | none =>
      exact .pure fun _ => rfl
  | some table =>
      have spares : catalog.isProtected table = false := by
        apply known
        simp [Insert.relationNames, named]
      simp only [spares]
      exact .pure fun _ => rfl

theorem Treatment.parallel_treatUpdate (treatment : Treatment σ) {update : Update}
    (known : ∀ table ∈ update.relationNames, catalog.Spares table) :
    Walk.Parallel catalog.Spares like (Unaltered True update)
      (treatment.treatUpdate catalog update) := by
  rw [Treatment.treatUpdate]
  split
  · rename_i name arguments aliasName tail relation
    cases named : name.last? with
    | none =>
        exact .pure fun _ => rfl
    | some table =>
        have spares : catalog.isProtected table = false := by
          apply known
          cases whole : update.table with
          | mk factor joins =>
              rw [whole] at relation
              cases relation
              simp [Update.relationNames, whole, TableWithJoins.relationNames,
                TableFactor.relationNames, named]
        simp only [spares]
        exact .pure fun _ => rfl
  · exact .pure fun _ => rfl

/-- No pair of columns of such tables is joined through shadows. -/
theorem JoinShadow.parallel_pair? (left : Expr) (operator : BinaryOperator) (right : Expr)
    (context : Context) :
    Walk.Parallel catalog.Spares like (· = none)
      (pair? catalog left operator right context : Walk σ (Option (ColumnRef × ColumnRef))) := by
  have unjoined (column : ColumnRef) (spares : catalog.Spares column.table) :
      ((catalog.ruleOf? column).any fun rule => rule.joinShadow.isSome) = false := by
    have nothing := spares.bind_eq_none ColumnRule.isProtected_of_joinShadow
    cases found : catalog.ruleOf? column with
    | none =>
        rfl
    | some rule =>
        rw [found, Option.bind_some] at nothing
        simp [nothing]
  unfold pair?
  split
  · exact .pure rfl
  · split
    · exact .pure rfl
    · refine (Walk.Parallel.resolve left context).bind fun leftColumn leftKnown => ?_
      refine (Walk.Parallel.resolve right context).bind fun rightColumn _ => ?_
      split
      · refine .pure ?_
        simp only [unjoined _ (leftKnown _ rfl), Bool.false_and]
        rfl
      · exact .pure rfl

end Visitors

namespace IndexShadow

variable {like : Unit → Unit → Prop}

theorem parallel_indexed? (expr : Expr) (context : Context) :
    Walk.Parallel catalog.Spares like (· = none) (indexed? catalog expr context) := by
  refine (Walk.Parallel.resolve expr context).bind fun found known => ?_
  cases found with
  | none =>
      exact .pure rfl
  | some column =>
      refine .pure ?_
      have nothing := (known column rfl).bind_eq_none ColumnRule.isProtected_of_blindIndex
      cases found : catalog.ruleOf? column with
      | none =>
          rfl
      | some rule =>
          rw [found, Option.bind_some] at nothing
          simp [nothing]

theorem parallel_membership (operand : Expr) (items : List Expr) (context : Context) :
    Walk.Parallel catalog.Spares like (Unaltered True none)
      (membership catalog operand items context) := by
  unfold membership
  split
  · exact .pure fun _ => rfl
  · split
    · exact .pure fun _ => rfl
    · refine (parallel_indexed? operand context).bind fun found nothing => ?_
      rw [nothing]
      exact .pure fun _ => rfl

/-- What happens to an indexed column does not happen. -/
theorem parallel_compared {α : Type} (column : Expr) (context : Context)
    {next : Option (ColumnRule × BlindIndex) → Walk Unit (Option α)}
    (absent : next none = pure none) :
    Walk.Parallel catalog.Spares like (· = none) (indexed? catalog column context >>= next) := by
  refine (parallel_indexed? column context).bind fun found nothing => ?_
  rw [nothing, absent]
  exact .pure rfl

theorem parallel_operation (left : Expr) (operator : BinaryOperator) (right : Expr)
    (context : Context) :
    Walk.Parallel catalog.Spares like (Unaltered True none)
      (operation catalog left operator right context) := by
  unfold operation
  refine (JoinShadow.parallel_pair? left operator right context).bind fun found nothing => ?_
  rw [nothing]
  simp only [Option.isSome_none, Bool.false_eq_true, if_false]
  split
  · exact .pure fun _ => rfl
  · split
    · refine (parallel_compared left context ?absent).bind fun compared nothing => ?_
      case absent => rfl
      rw [nothing]
      exact .pure fun _ => rfl
    · refine (parallel_compared right context ?absent).bind fun compared nothing => ?_
      case absent => rfl
      rw [nothing]
      exact .pure fun _ => rfl
    · exact .pure fun _ => rfl

/-- Where no table is protected, the visitor for indexed columns has nothing to do. -/
theorem parallel_visitor (catalog : Catalog) (like : Unit → Unit → Prop) :
    (visitor catalog).Parallel catalog.Spares like True where
  confined := Or.inl trivial
  insert _ := treatment.parallel_treatInsert
  update _ := treatment.parallel_treatUpdate
  membership := parallel_membership
  operation := parallel_operation
  column expr column context spares := by
    have nothing := spares.bind_eq_none ColumnRule.isProtected_of_blindIndex
    simp only [visitor, IndexShadow.column, nothing]
    exact .pure fun _ => rfl
  wildcard := .pure trivial
  unsupported _ := .pure trivial
  other := .pure trivial

end IndexShadow

/-- Where no table is protected, the visitor for joined columns has nothing to do. -/
theorem JoinShadow.parallel_visitor (catalog : Catalog)
    (like : JoinShadow.State → JoinShadow.State → Prop) :
    (visitor catalog).Parallel catalog.Spares like True where
  confined := Or.inl trivial
  insert _ := (treatment catalog).parallel_treatInsert
  update _ := (treatment catalog).parallel_treatUpdate
  membership _ _ _ := .pure fun _ => rfl
  operation left operator right context := by
    refine (parallel_pair? left operator right context).bind fun found nothing => ?_
    rw [nothing]
    exact .pure fun _ => rfl
  column expr column context spares := by
    have nothing := spares.bind_eq_none ColumnRule.isProtected_of_joinShadow
    simp only [visitor, JoinShadow.column, shadow?, nothing, Option.isNone_none, Bool.or_true,
      if_true]
    exact .pure fun _ => rfl
  wildcard := .pure trivial
  unsupported _ := .pure trivial
  other := .pure trivial

/-- Where no table is protected, the visitor for encrypted columns has nothing to do. -/
theorem Encryption.idle_visitor (catalog : Catalog)
    (like : Encryption.State → Encryption.State → Prop) :
    (visitor catalog).Parallel catalog.Spares like True where
  confined := Or.inl trivial
  insert _ := treatment.parallel_treatInsert
  update _ := treatment.parallel_treatUpdate
  membership _ _ _ := .pure fun _ => rfl
  operation _ _ _ _ := .pure fun _ => rfl
  column expr column context _ := parallel_column catalog expr column context
  wildcard := parallel_refuseProtected catalog _
  unsupported _ := parallel_refuseProtected catalog _
  other := parallel_refuseProtected catalog _

/-! ## The chain -/

/-- The chain has nothing to do with results: it compares no columns, no column that is shown
belongs to a protected table, and no column of the result set at hand is encrypted. -/
structure Catalog.Calm (catalog : Catalog) (state : ChainState) : Prop where
  pairs : state.2.1.own.pairs = []
  active : state.2.1.own.active = []
  scope : state.2.2.scope.Within catalog.Spares
  results : ∀ column ∈ state.2.2.own.results, column = none

/--
Statements that bring no protected table into scope pass the chain as they are, if they pass,
and leave it calm.
-/
theorem Catalog.calm_of_gives {statements sent : List Statement} {before after : ChainState}
    (spared : ∀ statement ∈ statements, ∀ table ∈ statement.relationNames, catalog.Spares table)
    (run : Gives (catalog.chain.protect statements) before sent after) :
    sent = statements ∧ catalog.Calm after := by
  simp only [Catalog.chain, Shield.gives_protect_andThen_iff] at run
  rcases run with ⟨indexed, indexRun, joined, joinRun, sealRun⟩
  have indexing := (IndexShadow.parallel_visitor catalog fun _ _ => True).run_walkStatements
    statements spared before.1 before.1 trivial
  have indexWalk : (walkStatements (IndexShadow.visitor catalog) statements).run.run before.1 =
      (.ok indexed, after.1) := indexRun
  rw [indexWalk] at indexing
  rcases indexing.2.2 indexed rfl trivial with rfl
  have joining := (JoinShadow.parallel_visitor catalog fun state _ => state = {}).run_walkStatements
    indexed spared { before.2.1 with own := {} } { before.2.1 with own := {} } rfl
  have joinWalk : (walkStatements (JoinShadow.visitor catalog) indexed).run.run
      { before.2.1 with own := {} } = (.ok joined, after.2.1) := joinRun
  rw [joinWalk] at joining
  rcases joining.2.2 joined rfl trivial with rfl
  let renewed : Traversal Encryption.State :=
    { before.2.2 with own := { before.2.2.own with results := [] } }
  have sealing := (Encryption.idle_visitor catalog fun state _ =>
    state.results = []).run_walkStatements joined spared renewed renewed rfl
  have sealWalk : (walkStatements (Encryption.visitor catalog) joined).run.run renewed =
      (.ok sent, after.2.2) := sealRun
  rw [sealWalk] at sealing
  rcases sealing.2.2 sent rfl trivial with rfl
  have pairs : after.2.1.own = {} := joining.2.1.own
  have results : after.2.2.own.results = [] := sealing.2.1.own
  refine ⟨rfl, ?_, ?_, sealing.2.1.within, ?_⟩
  · rw [pairs]
  · rw [pairs]
  · rw [results]
    intro column member
    cases member

/-! ## Results -/

namespace Encryption

/-- No output name that stands for a column of an unprotected table is encrypted. -/
theorem encrypted?_eq_none {results : Option ResultColumns}
    (spared : ∀ shown ∈ results, ∀ output ∈ shown.outputs, catalog.Spares output.2.table)
    (label : String) : encrypted? catalog results label = none := by
  cases found : encrypted? catalog results label with
  | none =>
      rfl
  | some column =>
      simp only [encrypted?, Option.bind_eq_bind, Option.bind_eq_some_iff] at found
      rcases found with ⟨shown, known, reference, output, rule, ruled, key, encrypted, -⟩
      rcases List.lookup_eq_some_iff.mp output with ⟨before, after, split, -⟩
      have spares := spared shown known (label, reference) (by simp [split])
      have isProtected := ColumnRule.isProtected_of_encryptionKey encrypted
      rw [spares.rule ruled] at isProtected
      cases isProtected

theorem run_describeColumns_of_spared {results : Option ResultColumns}
    (spared : ∀ shown ∈ results, ∀ output ∈ shown.outputs, catalog.Spares output.2.table)
    (columns : List Wire.Column) (state : Traversal State) :
    ∃ own : State, (∀ column ∈ own.results, column ∈ state.own.results ∨ column = none) ∧
      (describeColumns catalog results columns).run.run state =
        (.ok columns, { state with own }) := by
  induction columns generalizing state with
  | nil =>
      exact ⟨state.own, fun _ member => Or.inl member, rfl⟩
  | cons column rest inductionHypothesis =>
      let recorded : Traversal State :=
        { state with own := { state.own with results := state.own.results ++ [none] } }
      rcases inductionHypothesis recorded with ⟨own, marks, run⟩
      refine ⟨own, ?_, ?_⟩
      · intro mark member
        rcases marks mark member with earlier | nothing
        · rcases List.mem_append.mp earlier with before | last
          · exact Or.inl before
          · exact Or.inr (List.mem_singleton.mp last)
        · exact Or.inr nothing
      · have unfolded : (describeColumns catalog results (column :: rest)).run.run state =
            (describeColumns catalog results rest >>= fun rest =>
              pure (column :: rest)).run.run recorded := by
          rw [describeColumns, encrypted?_eq_none spared]
          rfl
        rw [unfolded, run_bind, run]
        rfl

end Encryption

namespace Catalog.Calm

variable {state : ChainState}

/-- A calm chain lets every description pass as it is, and stays calm. -/
theorem describe (calm : catalog.Calm state) (columns : List Wire.Column) (statement : Nat) :
    ∃ after, Gives (catalog.chain.describe columns statement) state columns after ∧
      catalog.Calm after := by
  have spared : ∀ shown ∈ state.2.2.scope.results? statement,
      ∀ output ∈ shown.outputs, catalog.Spares output.2.table := by
    intro shown found
    exact calm.scope.shown shown (List.mem_of_getElem? found)
  rcases Encryption.run_describeColumns_of_spared spared columns
      { state.2.2 with own := { state.2.2.own with results := [] } } with ⟨own, marks, run⟩
  have opens : ((Encryption.shield catalog).describe columns statement).run.run state.2.2 =
      (.ok columns, { state.2.2 with own }) := run
  have pairs : JoinShadow.pairsOf state.2.1 statement = [] := by
    rw [JoinShadow.pairsOf, calm.pairs, List.filterMap_nil]
  have compared : JoinShadow.compared? state.2.1 (columns.map Wire.Column.label) statement =
      some [] := by
    rw [JoinShadow.compared?, pairs]
    split <;> rfl
  have joins : ((JoinShadow.shield catalog).describe columns statement).run.run state.2.1 =
      (.ok columns, JoinShadow.comparing state.2.1 []) := by
    have describes := JoinShadow.run_describe columns statement state.2.1
    rw [compared] at describes
    exact describes
  refine ⟨(state.1, JoinShadow.comparing state.2.1 [], { state.2.2 with own }), ?_, ?_⟩
  · rw [Gives, Catalog.chain, Shield.run_describe_andThen, Shield.run_describe_andThen, opens]
    simp only [joins]
    rfl
  · refine ⟨calm.pairs, rfl, calm.scope, ?_⟩
    intro column member
    rcases marks column member with earlier | nothing
    · cases earlier
    · exact nothing

/-- A calm chain keeps every row as it is, and stays as it is. -/
theorem inspect (calm : catalog.Calm state) (row : Row) :
    Gives (catalog.chain.inspect row) state (.keep, row) state := by
  have kept (results : List (Option Encryption.EncryptedColumn))
      (unmarked : ∀ column ∈ results, column = none) :
      Encryption.decryptRow results row = .ok row := by
    induction row generalizing results with
    | nil =>
        cases results <;> rfl
    | cons value row inductionHypothesis =>
        cases results with
        | nil =>
            rfl
        | cons column results =>
            rcases List.forall_mem_cons.mp unmarked with ⟨rfl, others⟩
            rw [Encryption.decryptRow, inductionHypothesis results others]
            rfl
  rw [Gives, run_inspect_chain, kept _ calm.results, calm.active]
  rfl

end Catalog.Calm

end ColumnVeil
