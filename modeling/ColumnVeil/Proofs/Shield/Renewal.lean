import ColumnVeil.Proofs.Shield.Answer
import ColumnVeil.Proofs.Shield.Treatment
import ColumnVeil.Proofs.Traversal.Parallel

/-!
# What a chain keeps from query to query

Every query that comes to the chain renews it: the scopes, the joined pairs and the encrypted
columns are made anew, whatever the queries before have left behind.  Only the position in the
stream of random bytes goes on.  So two chains whose streams cannot be told apart (`same`) treat
a query alike; and if it passes all shields they also treat its results alike.
-/

namespace ColumnVeil

open Sql

/-- Streams that are told apart neither by the next first block nor by those after it. -/
def Crypto.Entropy.Indistinct (same : Crypto.Entropy → Crypto.Entropy → Prop) : Prop :=
  ∀ ⦃first second : Crypto.Entropy⦄, same first second →
    (first.draw Crypto.Cbc.blockSize).1 = (second.draw Crypto.Cbc.blockSize).1 ∧
      same (first.draw Crypto.Cbc.blockSize).2 (second.draw Crypto.Cbc.blockSize).2

/-- Where streams cannot be told apart, the same payload is made of a value, or none. -/
theorem Crypto.Entropy.Indistinct.encrypt {same : Crypto.Entropy → Crypto.Entropy → Prop}
    (indistinct : Crypto.Entropy.Indistinct same) {first second : Crypto.Entropy}
    (alike : same first second) (key plaintext : Bytes) :
    (∃ error, Crypto.Cbc.encrypt key plaintext first = .error error ∧
        Crypto.Cbc.encrypt key plaintext second = .error error) ∨
      ∃ payload firstLater secondLater,
        Crypto.Cbc.encrypt key plaintext first = .ok (payload, firstLater) ∧
          Crypto.Cbc.encrypt key plaintext second = .ok (payload, secondLater) ∧
            same firstLater secondLater := by
  rcases indistinct alike with ⟨block, later⟩
  simp only [Crypto.Cbc.encrypt]
  split
  · exact Or.inl ⟨_, rfl, rfl⟩
  · rw [block]
    exact Or.inr ⟨_, _, _, rfl, rfl, later⟩

variable {same : Crypto.Entropy → Crypto.Entropy → Prop} {catalog : Catalog}

namespace Encryption

/-- States with the same encrypted columns and streams that cannot be told apart. -/
structure State.Alike (same : Crypto.Entropy → Crypto.Entropy → Prop) (first second : State) :
    Prop where
  results : first.results = second.results
  entropy : same first.entropy second.entropy

variable {allowed : String → Prop} {like : State → State → Prop} {idle : Prop}

theorem parallel_refuseProtected (catalog : Catalog) (failure : Failure) :
    Walk.Parallel allowed like (fun _ => True) (refuseProtected catalog failure) := by
  have asking : Walk.Parallel allowed like (fun _ => True) (inProtectedScope catalog) :=
    Walk.Parallel.scope.bind fun _ _ => .pure trivial
  refine asking.bind fun found _ => ?_
  split
  · exact .throw failure
  · exact .pure trivial

theorem parallel_column (catalog : Catalog) (expr : Expr) (column : ColumnRef)
    (context : Context) :
    Walk.Parallel allowed like (Unaltered idle expr)
      ((visitor catalog).column expr column context) := by
  simp only [visitor]
  split
  · exact .throw _
  · exact .pure fun _ => rfl

/-- The constant for a plaintext, drawn from the stream at hand. -/
theorem run_value {rule : ColumnRule} {key plaintext : Bytes} {literal : Literal}
    (known : rule.plaintext literal = .ok (some plaintext)) (state : Traversal State) :
    (value rule key literal).run.run state =
      match Crypto.Cbc.encrypt key plaintext state.own.entropy with
      | .ok (payload, entropy) =>
          (.ok (.ofBytes payload), { state with own := { state.own with entropy } })
      | .error error => (.error (.cipher error), state) := by
  have unfolded : (value rule key literal).run.run state =
      (match Crypto.Cbc.encrypt key plaintext state.own.entropy with
        | .ok (payload, entropy) => do
            set { state with own := { state.own with entropy } }
            return .ofBytes payload
        | .error error => throw (.cipher error) : Walk State Expr).run.run state := by
    rw [value, known]
    rfl
  rw [unfolded]
  cases Crypto.Cbc.encrypt key plaintext state.own.entropy <;> rfl

theorem parallel_value (indistinct : Crypto.Entropy.Indistinct same) (rule : ColumnRule)
    (key : Bytes) (literal : Literal) :
    Walk.Parallel allowed (State.Alike same) (fun _ => True) (value rule key literal) := by
  cases known : rule.plaintext literal with
  | error failure =>
      rw [value, known]
      exact .throw failure
  | ok found =>
      cases found with
      | none =>
          rw [value, known]
          exact .pure trivial
      | some plaintext =>
          intro first second alike
          rw [run_value known, run_value known]
          rcases indistinct.encrypt alike.own.entropy key plaintext with
            ⟨error, firstFails, secondFails⟩ |
              ⟨payload, firstLater, secondLater, firstSent, secondSent, later⟩
          · rw [firstFails, secondFails]
            exact ⟨rfl, alike, fun _ _ => trivial⟩
          · rw [firstSent, secondSent]
            exact ⟨rfl, ⟨alike.scope, alike.within, alike.own.results, later⟩, fun _ _ => trivial⟩

theorem obeys_treatment (indistinct : Crypto.Entropy.Indistinct same) :
    treatment.Obeys (Walk.Parallel.logic allowed (State.Alike same)) := by
  intro rule literal
  simp only [treatment]
  split
  · exact parallel_value indistinct rule _ literal
  · exact .pure trivial

/-- The visitor for encrypted columns tells streams apart only by what it draws. -/
theorem parallel_visitor (catalog : Catalog) (indistinct : Crypto.Entropy.Indistinct same) :
    (visitor catalog).Parallel (fun _ => True) (State.Alike same) False where
  confined := Or.inr fun _ => trivial
  insert insert _ :=
    ((obeys_treatment indistinct).insertion insert).weaken fun _ _ => False.elim
  update update _ :=
    ((obeys_treatment indistinct).alteration update).weaken fun _ _ => False.elim
  membership _ _ _ := .pure False.elim
  operation _ _ _ _ := .pure False.elim
  column expr column context _ := parallel_column catalog expr column context
  wildcard := parallel_refuseProtected catalog _
  unsupported _ := parallel_refuseProtected catalog _
  other := parallel_refuseProtected catalog _

/-- A query forgets the encrypted columns of the one before. -/
theorem run_protect (catalog : Catalog) (indistinct : Crypto.Entropy.Indistinct same)
    (statements : List Statement) {first second : Traversal State}
    (alike : same first.own.entropy second.own.entropy) :
    (((shield catalog).protect statements).run.run first).1 =
        (((shield catalog).protect statements).run.run second).1 ∧
      (((shield catalog).protect statements).run.run first).2.Alike (fun _ => True)
        (State.Alike same) (((shield catalog).protect statements).run.run second).2 := by
  have renewed : State.Alike same { first.own with results := [] }
      { second.own with results := [] } := ⟨rfl, alike⟩
  have walked := (parallel_visitor catalog indistinct).run_walkStatements statements
    (fun _ _ _ _ => trivial) { first with own := { first.own with results := [] } }
    { second with own := { second.own with results := [] } } renewed
  exact ⟨walked.1, walked.2.1⟩

theorem parallel_recordColumn (column : Option EncryptedColumn) :
    Walk.Parallel allowed (State.Alike same) (fun _ => True) (recordColumn column) := by
  intro first second alike
  refine ⟨rfl, ⟨alike.scope, alike.within, ?_, alike.own.entropy⟩, fun _ _ => trivial⟩
  exact congrArg (· ++ [column]) alike.own.results

theorem parallel_describeColumns (results : Option ResultColumns) (columns : List Wire.Column) :
    Walk.Parallel allowed (State.Alike same) (fun _ => True)
      (describeColumns catalog results columns) := by
  induction columns with
  | nil =>
      exact .pure trivial
  | cons column rest inductionHypothesis =>
      rw [describeColumns]
      cases encrypted? catalog results column.label with
      | none =>
          exact (parallel_recordColumn none).bind fun _ _ =>
            inductionHypothesis.bind fun _ _ => .pure trivial
      | some encrypted =>
          refine (Walk.Parallel.logic allowed (State.Alike same)).refuseIf
            (column.formatCode ≠ 0) _ ?_
          exact (parallel_recordColumn (some encrypted)).bind fun _ _ =>
            inductionHypothesis.bind fun _ _ => .pure trivial

/-- Descriptions do not draw. -/
theorem parallel_describe (catalog : Catalog) (columns : List Wire.Column) (statement : Nat) :
    Walk.Parallel allowed (State.Alike same) (fun _ => True)
      (describe catalog columns statement) := by
  have forgetting : Walk.Parallel allowed (State.Alike same) (fun _ => True)
      (modify fun state => { state with own := { state.own with results := [] } } :
        Walk State PUnit) := by
    intro first second alike
    exact ⟨rfl, ⟨alike.scope, alike.within, rfl, alike.own.entropy⟩, fun _ _ => trivial⟩
  exact forgetting.bind fun _ _ => Walk.Parallel.scope.bind fun _ _ =>
    parallel_describeColumns _ columns

end Encryption

/-! ## The chain -/

/-- A query comes to the first shield and then to the second, whatever becomes of it. -/
theorem Shield.run_protect_andThen {σ τ : Type} {first : Shield σ} {second : Shield τ}
    (statements : List Statement) (before : σ × τ) :
    ((first.andThen second).protect statements).run.run before =
      match (first.protect statements).run.run before.1 with
      | (.ok passed, reached) =>
          (((second.protect passed).run.run before.2).1, reached,
            ((second.protect passed).run.run before.2).2)
      | (.error failure, reached) => (.error failure, reached, before.2) := by
  have unfolded : ((first.andThen second).protect statements).run.run before =
      ((first.protect statements).onFirst >>= fun passed =>
        (second.protect passed).onSecond : Step (σ × τ) _).run.run before := rfl
  have inner : ((first.protect statements).onFirst (τ := τ)).run.run before =
      (((first.protect statements).run.run before.1).1,
        ((first.protect statements).run.run before.1).2, before.2) := rfl
  rw [unfolded, run_bind, inner]
  rcases (first.protect statements).run.run before.1 with ⟨outcome, reached⟩
  cases outcome <;> rfl

namespace ChainState

/-- The position of a chain in the stream of random bytes. -/
def entropy (state : ChainState) : Crypto.Entropy :=
  state.2.2.own.entropy

/-- The chain at another position in a stream. -/
def movedTo (state : ChainState) (entropy : Crypto.Entropy) : ChainState :=
  (state.1, state.2.1, { state.2.2 with own := { state.2.2.own with entropy } })

/-- States that differ by the stream alone, and that cannot be told apart. -/
structure Alike (same : Crypto.Entropy → Crypto.Entropy → Prop) (first second : ChainState) :
    Prop where
  index : first.1 = second.1
  join : first.2.1 = second.2.1
  encryption : first.2.2.Alike (fun _ => True) (Encryption.State.Alike same) second.2.2

variable {first second : ChainState}

/--
A query is treated alike by two chains whose streams cannot be told apart, whatever they
remember.  If it passes, or if they are alike in everything, they are alike again.
-/
theorem renews (catalog : Catalog) (indistinct : Crypto.Entropy.Indistinct same)
    (statements : List Statement) (drawn : same first.entropy second.entropy) :
    let one := (catalog.chain.protect statements).run.run first
    let two := (catalog.chain.protect statements).run.run second
    one.1 = two.1 ∧ same one.2.entropy two.2.entropy ∧
      ((∃ sent, one.1 = .ok sent) ∨ first.Alike same second → one.2.Alike same two.2) := by
  intro one two
  -- The first two shields forget everything, so their outcome and state are the same.
  have indexed : ((IndexShadow.shield catalog).protect statements).run.run first.1 =
      ((IndexShadow.shield catalog).protect statements).run.run second.1 := rfl
  have joined (passed : List Statement) :
      ((JoinShadow.shield catalog).protect passed).run.run first.2.1 =
        ((JoinShadow.shield catalog).protect passed).run.run second.2.1 := rfl
  simp only [one, two, Catalog.chain, Shield.run_protect_andThen]
  rw [indexed]
  rcases ((IndexShadow.shield catalog).protect statements).run.run second.1 with
    ⟨failure | passed, index⟩
  · refine ⟨rfl, drawn, ?_⟩
    rintro (⟨sent, impossible⟩ | alike)
    · cases impossible
    · exact ⟨rfl, alike.join, alike.encryption⟩
  · simp only [joined passed]
    rcases ((JoinShadow.shield catalog).protect passed).run.run second.2.1 with
      ⟨failure | sent, join⟩
    · refine ⟨rfl, drawn, ?_⟩
      rintro (⟨sent, impossible⟩ | alike)
      · cases impossible
      · exact ⟨rfl, rfl, alike.encryption⟩
    · rcases Encryption.run_protect catalog indistinct sent drawn with ⟨outcome, reached⟩
      exact ⟨outcome, reached.own.entropy, fun _ => ⟨rfl, rfl, reached⟩⟩

/-- What the server answers is treated alike by chains that are alike. -/
theorem Alike.describe (catalog : Catalog) (alike : first.Alike same second)
    (columns : List Wire.Column) (statement : Nat) :
    let one := (catalog.chain.describe columns statement).run.run first
    let two := (catalog.chain.describe columns statement).run.run second
    one.1 = two.1 ∧ one.2.Alike same two.2 := by
  intro one two
  rcases Encryption.parallel_describe catalog columns statement alike.encryption with
    ⟨outcome, reached, -⟩
  have encrypted (state : Traversal Encryption.State) :
      ((Encryption.shield catalog).describe columns statement).run.run state =
        (Encryption.describe catalog columns statement).run.run state := rfl
  simp only [one, two, Catalog.chain, Shield.run_describe_andThen, encrypted]
  rcases firstRun : (Encryption.describe catalog columns statement).run.run first.2.2 with
    ⟨opened, encryption⟩
  rcases secondRun : (Encryption.describe catalog columns statement).run.run second.2.2 with
    ⟨other, otherEncryption⟩
  rw [firstRun, secondRun] at outcome reached
  cases outcome
  cases opened with
  | error failure =>
      exact ⟨rfl, alike.index, alike.join, reached⟩
  | ok opened =>
      simp only [alike.index, alike.join]
      rcases ((JoinShadow.shield catalog).describe opened statement).run.run second.2.1 with
        ⟨failure | described, join⟩
      · exact ⟨rfl, rfl, rfl, reached⟩
      · exact ⟨rfl, rfl, rfl, reached⟩

theorem Alike.inspect (catalog : Catalog) (alike : first.Alike same second) (row : Row) :
    let one := (catalog.chain.inspect row).run.run first
    let two := (catalog.chain.inspect row).run.run second
    one.1 = two.1 ∧ one.2.Alike same two.2 := by
  intro one two
  simp only [one, two, run_inspect_chain]
  rw [alike.encryption.own.results, alike.join]
  exact ⟨rfl, alike⟩

end ChainState

end ColumnVeil
