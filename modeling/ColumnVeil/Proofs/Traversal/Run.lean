import ColumnVeil.Shield.Basic
import ColumnVeil.Traversal.Visitor

/-!
# Successful runs

Walks and the steps of shields are one monad: they carry a state, and a failure keeps the
state that was reached.  `Gives` says that such a computation succeeds from a state with a
value in another state.  The lemmas below take a successful run apart, so that no later
proof looks into the monad.

`Gives` only speaks about runs that succeed.  What a failed run leaves behind needs the
whole result of `run`.
-/

namespace ColumnVeil

open Sql

variable {σ α β : Type}

/--
The computation succeeds from the state `before` with a value, and leaves the
state `after`.
-/
def Gives (step : Step σ α) (before : σ) (value : α) (after : σ) : Prop :=
  step.run.run before = (.ok value, after)

/-! ## The monad -/

@[simp]
theorem gives_pure_iff {value result : α} {before after : σ} :
    Gives (pure value : Step σ α) before result after ↔
      value = result ∧ before = after := by
  constructor
  · intro run
    cases run
    exact ⟨rfl, rfl⟩
  · rintro ⟨rfl, rfl⟩
    rfl

theorem run_pure {value : α} {before : σ} :
    (pure value : Step σ α).run.run before = (.ok value, before) := rfl

/-- The second part of a sequence runs where the first has succeeded. -/
theorem run_bind {step : Step σ α} {next : α → Step σ β} {before : σ} :
    (step >>= next).run.run before =
      match step.run.run before with
      | (.ok value, middle) => (next value).run.run middle
      | (.error failure, middle) => (.error failure, middle) := by
  rw [ExceptT.run_bind, StateT.run_bind]
  rcases step.run.run before with ⟨outcome, middle⟩
  cases outcome <;> rfl

/-- A sequence succeeds exactly if its two parts do, one behind the other. -/
theorem gives_bind_iff {step : Step σ α} {next : α → Step σ β}
    {before after : σ} {result : β} :
    Gives (step >>= next) before result after ↔
      ∃ value middle,
        Gives step before value middle ∧
          Gives (next value) middle result after := by
  constructor
  · intro run
    rw [Gives, run_bind] at run
    rcases outcome : step.run.run before with ⟨value, middle⟩
    rw [outcome] at run
    cases value with
    | error failure =>
        cases run
    | ok value =>
        exact ⟨value, middle, outcome, run⟩
  · rintro ⟨value, middle, first, second⟩
    rw [Gives, run_bind, first]
    exact second

/-- A computation whose outcome is no failure succeeds. -/
theorem exists_gives_of_isOk {step : Step σ α} {before : σ}
    (succeeds : (step.run.run before).1.isOk = true) :
    ∃ value after, Gives step before value after := by
  rcases outcome : step.run.run before with ⟨result, after⟩
  rw [outcome] at succeeds
  cases result with
  | error failure =>
      cases succeeds
  | ok value =>
      exact ⟨value, after, outcome⟩

@[simp]
theorem not_gives_throw {failure : Failure} {before after : σ} {result : α} :
    ¬ Gives (throw failure : Step σ α) before result after := by
  intro run
  cases run

@[simp]
theorem gives_get_iff {before after result : σ} :
    Gives (get : Step σ σ) before result after ↔
      before = result ∧ before = after := by
  constructor
  · intro run
    cases run
    exact ⟨rfl, rfl⟩
  · rintro ⟨rfl, rfl⟩
    rfl

@[simp]
theorem gives_set_iff {state before after : σ} {result : PUnit} :
    Gives (set state : Step σ PUnit) before result after ↔ state = after := by
  constructor
  · intro run
    cases run
    rfl
  · rintro rfl
    rfl

@[simp]
theorem gives_modify_iff {change : σ → σ} {before after : σ} {result : PUnit} :
    Gives (modify change : Step σ PUnit) before result after ↔
      change before = after := by
  constructor
  · intro run
    cases run
    rfl
  · rintro rfl
    rfl

/-! ## Lists -/

/-- A loop over a list succeeds exactly if every round does. -/
theorem gives_mapM_cons_iff {step : α → Step σ β} {item : α} {items : List α}
    {before after : σ} {results : List β} :
    Gives ((item :: items).mapM step) before results after ↔
      ∃ value middle rest,
        Gives (step item) before value middle ∧
          Gives (items.mapM step) middle rest after ∧
            value :: rest = results := by
  simp only [List.mapM_cons, gives_bind_iff, gives_pure_iff]
  constructor
  · rintro ⟨value, middle, first, rest, last, others, rfl, rfl⟩
    exact ⟨value, middle, rest, first, others, rfl⟩
  · rintro ⟨value, middle, rest, first, others, rfl⟩
    exact ⟨value, middle, first, rest, after, others, rfl, rfl⟩

/-- A fold succeeds exactly if its first round and the fold of the rest do. -/
theorem gives_foldlM_cons_iff {step : β → α → Step σ β} {start : β} {item : α}
    {items : List α} {before after : σ} {result : β} :
    Gives ((item :: items).foldlM step start) before result after ↔
      ∃ value middle,
        Gives (step start item) before value middle ∧
          Gives (items.foldlM step value) middle result after := by
  rw [List.foldlM_cons, gives_bind_iff]

/-! ## Two states -/

namespace Step

variable {τ : Type}

/-- A step on the first of two states succeeds exactly if the step itself does. -/
theorem gives_onFirst_iff {step : Step σ α} {before after : σ × τ} {result : α} :
    Gives step.onFirst before result after ↔
      Gives step before.1 result after.1 ∧ before.2 = after.2 := by
  have unfolded : (step.onFirst (τ := τ)).run.run before =
      ((step.run.run before.1).1, (step.run.run before.1).2, before.2) := rfl
  rw [Gives, Gives, unfolded]
  rcases after with ⟨first, second⟩
  rcases step.run.run before.1 with ⟨outcome, reached⟩
  constructor
  · intro run
    cases run
    exact ⟨rfl, rfl⟩
  · rintro ⟨run, rfl⟩
    cases run
    rfl

/-- A step on the second of two states succeeds exactly if the step itself does. -/
theorem gives_onSecond_iff {step : Step τ α} {before after : σ × τ} {result : α} :
    Gives step.onSecond before result after ↔
      Gives step before.2 result after.2 ∧ before.1 = after.1 := by
  have unfolded : (step.onSecond (σ := σ)).run.run before =
      ((step.run.run before.2).1, before.1, (step.run.run before.2).2) := rfl
  rw [Gives, Gives, unfolded]
  rcases after with ⟨first, second⟩
  rcases step.run.run before.2 with ⟨outcome, reached⟩
  constructor
  · intro run
    cases run
    exact ⟨rfl, rfl⟩
  · rintro ⟨run, rfl⟩
    cases run
    rfl

end Step

/-- Statements pass a chain if they pass its first shield and then its second. -/
theorem Shield.gives_protect_andThen_iff {τ : Type} {first : Shield σ} {second : Shield τ}
    {statements result : List Statement} {before after : σ × τ} :
    Gives ((first.andThen second).protect statements) before result after ↔
      ∃ middle,
        Gives (first.protect statements) before.1 middle after.1 ∧
          Gives (second.protect middle) before.2 result after.2 := by
  simp only [Shield.andThen, gives_bind_iff, Step.gives_onFirst_iff, Step.gives_onSecond_iff]
  constructor
  · rintro ⟨middle, between, ⟨firstRun, unchanged⟩, secondRun, kept⟩
    refine ⟨middle, ?_, ?_⟩
    · rw [← kept]
      exact firstRun
    · rw [unchanged]
      exact secondRun
  · rintro ⟨middle, firstRun, secondRun⟩
    exact ⟨middle, (after.1, before.2), ⟨firstRun, rfl⟩, secondRun, rfl⟩

section Results

variable {τ : Type} {first : Shield σ} {second : Shield τ}

/-- A description passes a chain from its second shield to its first. -/
theorem Shield.run_describe_andThen (columns : List Wire.Column) (statement : Nat)
    (before : σ × τ) :
    ((first.andThen second).describe columns statement).run.run before =
      match (second.describe columns statement).run.run before.2 with
      | (.ok shown, reached) =>
          (((first.describe shown statement).run.run before.1).1,
            ((first.describe shown statement).run.run before.1).2, reached)
      | (.error failure, reached) => (.error failure, before.1, reached) := by
  have unfolded : ((first.andThen second).describe columns statement).run.run before =
      ((second.describe columns statement).onSecond >>= fun shown =>
        (first.describe shown statement).onFirst : Step (σ × τ) _).run.run before := rfl
  have inner : ((second.describe columns statement).onSecond (σ := σ)).run.run before =
      (((second.describe columns statement).run.run before.2).1, before.1,
        ((second.describe columns statement).run.run before.2).2) := rfl
  rw [unfolded, run_bind, inner]
  rcases (second.describe columns statement).run.run before.2 with ⟨outcome, reached⟩
  cases outcome <;> rfl

/-- A row passes a chain from its second shield to its first, unless it is discarded. -/
theorem Shield.run_inspect_andThen (row : Row) (before : σ × τ) :
    ((first.andThen second).inspect row).run.run before =
      match (second.inspect row).run.run before.2 with
      | (.ok (.keep, row), reached) =>
          (((first.inspect row).run.run before.1).1,
            ((first.inspect row).run.run before.1).2, reached)
      | (.ok (.discard, row), reached) => (.ok (.discard, row), before.1, reached)
      | (.error failure, reached) => (.error failure, before.1, reached) := by
  have chained : ∃ pass, (first.andThen second).inspect row =
      ((second.inspect row).onSecond >>= pass : Step (σ × τ) _) ∧
        (∀ kept, pass (.keep, kept) = (first.inspect kept).onFirst) ∧
          ∀ discarded, pass (.discard, discarded) = pure (.discard, discarded) :=
    ⟨_, rfl, fun _ => rfl, fun _ => rfl⟩
  rcases chained with ⟨pass, chained, passKept, passDiscarded⟩
  have inner : ((second.inspect row).onSecond (σ := σ)).run.run before =
      (((second.inspect row).run.run before.2).1, before.1,
        ((second.inspect row).run.run before.2).2) := rfl
  rw [chained, run_bind, inner]
  rcases (second.inspect row).run.run before.2 with ⟨outcome, reached⟩
  rcases outcome with failure | ⟨_ | _, row⟩
  · rfl
  · exact congrArg (fun step => step.run.run (before.1, reached)) (passKept row)
  · exact congrArg (fun step => step.run.run (before.1, reached)) (passDiscarded row)

end Results

/-! ## Walks -/

namespace Walk

@[simp]
theorem gives_scope_iff {before after : Traversal σ} {result : Scope} :
    Gives (scope : Walk σ Scope) before result after ↔
      before.scope = result ∧ before = after := by
  constructor
  · intro run
    cases run
    exact ⟨rfl, rfl⟩
  · rintro ⟨rfl, rfl⟩
    rfl

@[simp]
theorem gives_changeScope_iff {change : Scope → Scope}
    {before after : Traversal σ} {result : Unit} :
    Gives (changeScope change : Walk σ Unit) before result after ↔
      { before with scope := change before.scope } = after := by
  constructor
  · intro run
    cases run
    rfl
  · rintro rfl
    rfl

/-- A result that is known beforehand leaves the state as it is. -/
theorem run_ofExcept (result : Except Failure α) (state : Traversal σ) :
    (ofExcept result : Walk σ α).run.run state = (result, state) := by
  cases result with
  | error failure => rfl
  | ok value => rfl

@[simp]
theorem gives_ofExcept_iff {result : Except Failure α}
    {before after : Traversal σ} {value : α} :
    Gives (ofExcept result : Walk σ α) before value after ↔
      result = .ok value ∧ before = after := by
  cases result with
  | error failure =>
      simp [ofExcept]
  | ok found =>
      simp [ofExcept]

@[simp]
theorem gives_addTable_iff {name table : String}
    {before after : Traversal σ} {result : Unit} :
    Gives (addTable name table : Walk σ Unit) before result after ↔
      { before with scope := before.scope.add name table } = after := by
  simp [addTable]

/-- A reference is resolved in the scope at hand, which stays as it is. -/
theorem gives_resolve_iff {expr : Expr} {context : Context}
    {before after : Traversal σ} {result : Option ColumnRef} :
    Gives (resolve expr context : Walk σ (Option ColumnRef)) before result after ↔
      before.scope.resolve expr context = .ok result ∧ before = after := by
  simp only [resolve, gives_bind_iff, gives_scope_iff, gives_ofExcept_iff]
  constructor
  · rintro ⟨scope, middle, ⟨rfl, rfl⟩, found, rfl⟩
    exact ⟨found, rfl⟩
  · rintro ⟨found, rfl⟩
    exact ⟨before.scope, before, ⟨rfl, rfl⟩, found, rfl⟩

/-- A walk in a frame of its own succeeds exactly if the walk does behind the new frame. -/
theorem gives_inFrame_iff {returnsRows : Bool} {body : Walk σ α}
    {before after : Traversal σ} {result : α} :
    Gives (inFrame returnsRows body) before result after ↔
      ∃ inside,
        Gives body { before with scope := before.scope.push returnsRows } result inside ∧
          { inside with scope := inside.scope.pop } = after := by
  have unfolded :
      (inFrame returnsRows body).run.run before =
        Prod.map id (fun inside => { inside with scope := inside.scope.pop })
          (body.run.run { before with scope := before.scope.push returnsRows }) := rfl
  constructor
  · intro run
    rw [Gives, unfolded] at run
    rcases outcome :
        body.run.run { before with scope := before.scope.push returnsRows } with
      ⟨value, inside⟩
    rw [outcome] at run
    cases run
    exact ⟨inside, outcome, rfl⟩
  · rintro ⟨inside, run, rfl⟩
    rw [Gives, unfolded, run]
    rfl

end Walk

/-- Visiting a reference succeeds if it means no column, or if visiting that column does. -/
theorem Visitor.gives_reference_iff {visitor : Visitor σ} {context : Context}
    {expr result : Expr} {before after : Traversal σ} :
    Gives (visitor.reference context expr) before result after ↔
      (before.scope.resolve expr context = .ok none ∧ expr = result ∧ before = after) ∨
        ∃ column,
          before.scope.resolve expr context = .ok (some column) ∧
            Gives (visitor.column expr column context) before result after := by
  simp only [reference, gives_bind_iff, Walk.gives_resolve_iff]
  constructor
  · rintro ⟨found, middle, ⟨resolved, rfl⟩, run⟩
    cases found with
    | none =>
        exact Or.inl ⟨resolved, gives_pure_iff.mp run⟩
    | some column =>
        exact Or.inr ⟨column, resolved, run⟩
  · rintro (⟨resolved, unchanged⟩ | ⟨column, resolved, run⟩)
    · exact ⟨none, before, ⟨resolved, rfl⟩, gives_pure_iff.mpr unchanged⟩
    · exact ⟨some column, before, ⟨resolved, rfl⟩, run⟩

end ColumnVeil
