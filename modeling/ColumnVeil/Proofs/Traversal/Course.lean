import ColumnVeil.Proofs.Traversal.Inspection
import ColumnVeil.Proofs.Traversal.Operation
import ColumnVeil.Proofs.Traversal.Sweeping

/-!
# The course of a walk

What a successful walk does to the state and to the syntax follows from what its visitor does
at the constructs that it meets.  The scope after a walk is the one that the syntax says.  A
relation between states that the visitor respects, and that frames and new output names do
not matter to, holds between the states before and after.  And if the visitor turns harmless
operations into harmless ones, so does the walk.

In contrast to an inspection the visitor may replace what it meets, and the query need not be
plain.
-/

namespace ColumnVeil

open Sql

variable {σ α β : Type}

/-- A projection item leaves the scope as it is, or records an output name. -/
theorem Scope.showing_cases (scope : Scope) (reaches : Bool) (expr : Expr)
    (aliasName : Option Ident) :
    scope.showing reaches expr aliasName = scope ∨
      ∃ name column, scope.register name column = .ok (scope.showing reaches expr aliasName) := by
  unfold showing
  split
  · split
    · rename_i column resolved
      cases registered : scope.register (outputName aliasName column) column with
      | error failure =>
          exact Or.inl rfl
      | ok recorded =>
          exact Or.inr ⟨_, column, registered⟩
    · exact Or.inl rfl
  · exact Or.inl rfl

/-! ## Steps of a walk -/

/-- A relation between the states of a walk that frames and output names do not matter to. -/
class Steady (related : Traversal σ → Traversal σ → Prop) : Prop where
  trans {first second third : Traversal σ} :
    related first second → related second third → related first third
  frames (state : Traversal σ) (frames : List Frame) :
    related state { state with scope := { state.scope with frames } }
  register {state : Traversal σ} {name : String} {column : ColumnRef} {registered : Scope} :
    state.scope.register name column = .ok registered →
      related state { state with scope := registered }

namespace Steady

variable {related : Traversal σ → Traversal σ → Prop} [Steady related]

theorem refl (state : Traversal σ) : related state state :=
  Steady.frames state state.scope.frames

theorem add (state : Traversal σ) (name table : String) :
    related state { state with scope := state.scope.add name table } := by
  unfold Scope.add
  split
  · exact Steady.refl state
  · exact Steady.frames state _

theorem addAll (state : Traversal σ) (names : List (String × String)) :
    related state { state with scope := state.scope.addAll names } := by
  induction names generalizing state with
  | nil =>
      exact Steady.refl state
  | cons name rest inductionHypothesis =>
      exact Steady.trans (Steady.add state name.1 name.2) (inductionHypothesis _)

theorem showing (state : Traversal σ) (reaches : Bool) (expr : Expr)
    (aliasName : Option Ident) :
    related state { state with scope := state.scope.showing reaches expr aliasName } := by
  rcases state.scope.showing_cases reaches expr aliasName with same | ⟨name, column, registered⟩
  · rw [same]
    exact Steady.refl state
  · exact Steady.register registered

end Steady

/-- States of which nothing is said. -/
def Unrelated {σ : Type} (_ _ : Traversal σ) : Prop :=
  True

instance {σ : Type} : Steady (@Unrelated σ) where
  trans _ _ := trivial
  frames _ _ := trivial
  register _ := trivial

namespace Walk

/-- What a successful walk does: it changes the scope in a certain way, relates the states
before and after it, and gives a value of which something is known. -/
def Moves (change : Scope → Scope) (related : Traversal σ → Traversal σ → Prop)
    (ensured : α → Prop) (walk : Walk σ α) : Prop :=
  ∀ ⦃before after : Traversal σ⦄ ⦃value : α⦄, Gives walk before value after →
    after.scope = change before.scope ∧ related before after ∧ ensured value

/-- A walk that leaves the scope as it is. -/
def Stays (related : Traversal σ → Traversal σ → Prop) (ensured : α → Prop)
    (walk : Walk σ α) : Prop :=
  Moves (fun scope => scope) related ensured walk

variable {related : Traversal σ → Traversal σ → Prop}

theorem Stays.spec {ensured : α → Prop} {walk : Walk σ α} (stays : Stays related ensured walk)
    {before after : Traversal σ} {value : α} (run : Gives walk before value after) :
    after.scope = before.scope ∧ related before after ∧ ensured value :=
  stays run

theorem Stays.pure [Steady related] {ensured : α → Prop} {value : α}
    (holds : ensured value) : Stays related ensured (Pure.pure value : Walk σ α) := by
  intro before after result run
  rcases gives_pure_iff.mp run with ⟨rfl, rfl⟩
  exact ⟨rfl, Steady.refl _, holds⟩

theorem Moves.bind [Steady related] {change later : Scope → Scope}
    {ensured : α → Prop} {concluded : β → Prop} {walk : Walk σ α} {next : α → Walk σ β}
    (first : Moves change related ensured walk)
    (second : ∀ value, ensured value → Moves later related concluded (next value)) :
    Moves (fun scope => later (change scope)) related concluded (walk >>= next) := by
  intro before after result run
  rcases gives_bind_iff.mp run with ⟨value, middle, firstRun, secondRun⟩
  rcases first firstRun with ⟨firstScope, firstRelated, holds⟩
  rcases second value holds secondRun with ⟨secondScope, secondRelated, ends⟩
  refine ⟨?_, Steady.trans firstRelated secondRelated, ends⟩
  rw [secondScope, firstScope]

theorem Stays.bind [Steady related] {ensured : α → Prop} {concluded : β → Prop}
    {walk : Walk σ α} {next : α → Walk σ β} (first : Stays related ensured walk)
    (second : ∀ value, ensured value → Stays related concluded (next value)) :
    Stays related concluded (walk >>= next) :=
  Moves.bind first second

theorem Moves.weaken {change : Scope → Scope} {ensured concluded : α → Prop} {walk : Walk σ α}
    (moves : Moves change related ensured walk)
    (enough : ∀ value, ensured value → concluded value) :
    Moves change related concluded walk := by
  intro before after value run
  rcases moves run with ⟨scope, states, holds⟩
  exact ⟨scope, states, enough value holds⟩

/-- A walk in a frame of its own, which is left again. -/
theorem Stays.inFrame [Steady related] {returnsRows : Bool} {ensured : α → Prop}
    {body : Walk σ α}
    (inside : ∀ {before after : Traversal σ} {value : α}, before.scope.returnsRows = returnsRows →
      Gives body before value after →
        after.scope.pop = before.scope.pop ∧ related before after ∧ ensured value) :
    Stays related ensured (Walk.inFrame returnsRows body) := by
  intro before after value run
  rcases gives_inFrame_iff.mp run with ⟨inner, bodyRun, rfl⟩
  rcases inside rfl bodyRun with ⟨scope, states, holds⟩
  refine ⟨scope, ?_, holds⟩
  exact Steady.trans (Steady.frames before _) (Steady.trans states (Steady.frames inner _))

end Walk

/-! ## Sweeps -/

section Sweeps

variable {related : Traversal σ → Traversal σ → Prop} [Steady related] {sweep : Sweep (Walk σ)}

/-- What a sweep does to the state follows from what it does at each reference. -/
structure Sweep.Tame (related : Traversal σ → Traversal σ → Prop) (sweep : Sweep (Walk σ)) :
    Prop where
  column : ∀ expr, expr.isColumn = true →
    Walk.Stays related (fun _ => True) (sweep.column expr)
  relation : ∀ name, Walk.Stays related (fun _ => True) (sweep.relation name)

/-- What is said of walks by `Stays` can be said of sweeps. -/
def Walk.Stays.logic (related : Traversal σ → Traversal σ → Prop) [Steady related] :
    Walk.Logic σ where
  holds := Walk.Stays related
  pure := .pure
  bind := .bind
  throw _ _ _ _ run := absurd run not_gives_throw

theorem Sweep.Tame.obeys (tame : Sweep.Tame related sweep) :
    Sweep.Obeys (Walk.Stays.logic related) False sweep where
  column expr isColumn :=
    (tame.column expr isColumn).weaken fun _ _ impossible => impossible.elim
  relation := tame.relation

theorem Sweep.Tame.expr (tame : Sweep.Tame related sweep) (expr : Expr) :
    Walk.Stays related (fun _ => True) (expr.sweep sweep) :=
  Walk.Moves.weaken (tame.obeys.expr expr) fun _ _ => trivial

theorem Sweep.Tame.parts (tame : Sweep.Tame related sweep) (parts : List Part) :
    Walk.Stays related (fun _ => True) (Part.sweepAll sweep parts) :=
  Walk.Moves.weaken (tame.obeys.parts parts) fun _ _ => trivial

end Sweeps

end ColumnVeil
