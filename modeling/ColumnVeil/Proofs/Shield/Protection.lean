import ColumnVeil.Proofs.Shield.Comparison
import ColumnVeil.Proofs.Shield.Registration
import ColumnVeil.Proofs.Traversal.Coverage

/-!
# Visitors that protect a catalog

A treatment puts values in the place of literals only, so every other value of an insertion or
an update is still there when the statement is walked through.  The visitors of the three
protections are attentive, and so they are thorough: what holds of thorough visitors holds of
whatever protects a catalog.
-/

namespace ColumnVeil

open Sql

variable {σ : Type} {catalog : Catalog} {table : String}

namespace Spot.Spares

theorem refl (spots : List Spot) : Spot.Spares spots spots :=
  fun _ member => Or.inr member

theorem append {first second firstOthers secondOthers : List Spot}
    (former : Spot.Spares first firstOthers) (latter : Spot.Spares second secondOthers) :
    Spot.Spares (first ++ second) (firstOthers ++ secondOthers) := by
  intro spot member
  rcases List.mem_append.mp member with early | late
  · exact (former spot early).imp id (List.mem_append_left _)
  · exact (latter spot late).imp id (List.mem_append_right _)

/-- Expressions of one context. -/
theorem of_exprs {scope : Scope} {context : Context} {exprs others : List Expr}
    (spares : ∀ expr ∈ exprs, expr.literal?.isSome = true ∨ expr ∈ others) :
    Spot.Spares (exprs.map (.expr scope context)) (others.map (.expr scope context)) := by
  intro spot member
  rcases List.mem_map.mp member with ⟨expr, place, rfl⟩
  exact (spares expr place).imp id List.mem_map_of_mem

end Spot.Spares

namespace Treatment

variable {treatment : Treatment σ}

/-- A value of a row is a literal, or it is still there behind the treatment. -/
theorem treatRow_spares {targets : List Target} {row result : List Expr}
    {before after : Traversal σ}
    (run : Gives (treatment.treatRow targets row) before result after) :
    ∀ expr ∈ row, expr.literal?.isSome = true ∨ expr ∈ result := by
  induction targets generalizing row before with
  | nil =>
      rcases gives_pure_iff.mp run with ⟨rfl, _⟩
      exact fun _ member => Or.inr member
  | cons target targets inductionHypothesis =>
      rcases gives_treatRow_cons run with ⟨value, middle, ⟨literal, _, _, found, _⟩, rest⟩
      intro expr member
      have placed : expr.literal?.isSome = true ∨ expr ∈ target.put value row := by
        rw [Target.put]
        split
        · exact Or.inr (List.mem_append_left _ member)
        · rcases List.mem_iff_getElem?.mp member with ⟨position, place⟩
          by_cases here : target.position = position
          · left
            rw [literalAt, here, place, Option.bind_some] at found
            rw [found, Option.isSome_some]
          · right
            exact List.mem_of_getElem? (by rw [List.getElem?_set_ne here, place])
      rcases placed with literal | still
      · exact Or.inl literal
      · exact inductionHypothesis rest expr still

theorem treatRows_spares {width : Nat} {targets : List Target} {rows result : List (List Expr)}
    {before after : Traversal σ}
    (run : Gives (treatment.treatRows width targets rows) before result after) :
    ∀ expr ∈ rows.flatten, expr.literal?.isSome = true ∨ expr ∈ result.flatten := by
  intro expr member
  rcases List.mem_flatten.mp member with ⟨row, rowMember, place⟩
  rcases List.mem_iff_getElem?.mp rowMember with ⟨index, rowPlace⟩
  rcases exists_getElem?_of_forall₂ (forall₂_of_gives_treatRows run) rowPlace with
    ⟨treated, treatedPlace, _, _, _, rowRun⟩
  refine (treatRow_spares rowRun expr place).imp id fun still => ?_
  exact List.mem_flatten.mpr ⟨treated, List.mem_of_getElem? treatedPlace, still⟩

/-- The treatment of an insertion changes its columns and its source, and only literals of
the source. -/
theorem treatColumns_spares {insert result : Insert} {before after : Traversal σ}
    (run : Gives (treatment.treatColumns catalog table insert) before result after) :
    ∃ columns source, result = { insert with columns, source } ∧
      ∀ scope, Spot.Spares (insert.source.toList.flatMap (Query.spotsOfSource scope))
        (source.toList.flatMap (Query.spotsOfSource scope)) := by
  have unchanged : ∃ columns source, insert = { insert with columns, source } ∧
      ∀ scope, Spot.Spares (insert.source.toList.flatMap (Query.spotsOfSource scope))
        (source.toList.flatMap (Query.spotsOfSource scope)) :=
    ⟨insert.columns, insert.source, rfl, fun _ => .refl _⟩
  rw [treatColumns] at run
  by_cases bare : insert.columns.isEmpty = true
  · rw [if_pos bare, gives_bind_iff] at run
    rcases run with ⟨_, _, refused, _⟩
    exact absurd refused not_gives_throw
  rw [if_neg bare] at run
  by_cases idle : (treatment.targets catalog table insert.columns).isEmpty = true
  · simp only [idle, if_true] at run
    rcases gives_pure_iff.mp run with ⟨rfl, _⟩
    exact unchanged
  simp only [idle, Bool.false_eq_true, if_false] at run
  split at run
  · rcases gives_pure_iff.mp run with ⟨rfl, _⟩
    exact unchanged
  · rename_i recursive ctes explicitRow rows order tail source
    rcases gives_bind_iff.mp run with ⟨treated, middle, rowsRun, ended⟩
    rcases gives_pure_iff.mp ended with ⟨rfl, _⟩
    refine ⟨_, _, rfl, fun scope => ?_⟩
    simp only [source, Option.toList_some, List.flatMap_singleton, Query.spotsOfSource,
      Query.rows?]
    exact .of_exprs (treatRows_spares rowsRun)
  · exact absurd run not_gives_throw

/-- The value of an assignment is a literal, or it is still assigned. -/
theorem treatAssignment_spares {assignment : Assignment} {result : Assignment × Option Assignment}
    {before after : Traversal σ}
    (run : Gives (treatment.treatAssignment catalog table assignment) before result after) :
    assignment.value.literal?.isSome = true ∨ result.1.value = assignment.value := by
  unfold treatAssignment at run
  split at run
  · dsimp only at run
    split at run
    · rcases gives_bind_iff.mp run with ⟨_, _, refused, _⟩
      exact absurd refused not_gives_throw
    · rcases gives_pure_iff.mp run with ⟨rfl, _⟩
      exact Or.inr rfl
  split at run
  · rcases gives_pure_iff.mp run with ⟨rfl, _⟩
    exact Or.inr rfl
  split at run
  · rcases gives_pure_iff.mp run with ⟨rfl, _⟩
    exact Or.inr rfl
  rename_i carriage carried
  rcases gives_bind_iff.mp run with ⟨value, middle, valueRun, put⟩
  cases carriage with
  | append shadow =>
      rcases gives_pure_iff.mp put with ⟨rfl, _⟩
      exact Or.inr rfl
  | replace =>
      rw [valueOf, Option.bind_some] at valueRun
      split at valueRun
      · rename_i literal found
        exact Or.inl (by rw [found, Option.isSome_some])
      · exact absurd valueRun not_gives_throw

theorem treatAssignments_spares {assignments result : List Assignment} {before after : Traversal σ}
    (run : Gives (treatment.treatAssignments catalog table assignments) before result after)
    (scope : Scope) :
    Spot.Spares (Assignment.spots scope assignments) (Assignment.spots scope result) := by
  rcases gives_bind_iff.mp run with ⟨treated, middle, each, ended⟩
  rcases gives_pure_iff.mp ended with ⟨rfl, _⟩
  intro spot member
  rcases List.mem_map.mp member with ⟨assignment, assigned, rfl⟩
  rcases List.mem_iff_getElem?.mp assigned with ⟨index, place⟩
  rcases exists_getElem?_of_forall₂ (forall₂_of_gives_mapM each) place with
    ⟨found, treatedPlace, _, _, assignmentRun⟩
  refine (treatAssignment_spares assignmentRun).imp id fun still => ?_
  refine List.mem_map.mpr ⟨found.1, List.mem_append_left _ ?_, by rw [still]⟩
  exact List.mem_map_of_mem (List.mem_of_getElem? treatedPlace)

/-- An insertion that is treated keeps all its spots but literals. -/
theorem treatInsert_spares {insert result : Insert} {before after : Traversal σ}
    (run : Gives (treatment.treatInsert catalog insert) before result after) (scope : Scope) :
    Spot.Spares (insert.spots scope) (result.spots scope) := by
  unfold treatInsert at run
  split at run
  · rcases gives_pure_iff.mp run with ⟨rfl, _⟩
    exact .refl _
  split at run
  · rcases gives_pure_iff.mp run with ⟨rfl, _⟩
    exact .refl _
  rcases gives_bind_iff.mp run with ⟨visited, middle, columnsRun, run⟩
  rcases treatColumns_spares columnsRun with ⟨columns, source, rfl, sources⟩
  split at run
  · rename_i words assignments condition conflict
    rcases gives_bind_iff.mp run with ⟨treated, last, assignmentsRun, ended⟩
    rcases gives_pure_iff.mp ended with ⟨rfl, _⟩
    have conflict : insert.conflict = .assign words assignments condition := conflict
    rw [Insert.spots, conflict]
    exact ((sources _).append (.refl _)).append
      ((treatAssignments_spares assignmentsRun _).append (.refl _))
  · rcases gives_pure_iff.mp run with ⟨rfl, _⟩
    exact ((sources _).append (.refl _)).append (.refl _)

/-- An update that is treated keeps all its spots but literals. -/
theorem treatUpdate_spares {update result : Update} {before after : Traversal σ}
    (run : Gives (treatment.treatUpdate catalog update) before result after) (scope : Scope) :
    Spot.Spares (update.spots scope) (result.spots scope) := by
  unfold treatUpdate at run
  split at run
  · split at run
    · rcases gives_pure_iff.mp run with ⟨rfl, _⟩
      exact .refl _
    split at run
    · rcases gives_pure_iff.mp run with ⟨rfl, _⟩
      exact .refl _
    rcases gives_bind_iff.mp run with ⟨assignments, last, assignmentsRun, ended⟩
    rcases gives_pure_iff.mp ended with ⟨rfl, _⟩
    exact ((((Spot.Spares.refl _).append (.refl _)).append
      (treatAssignments_spares assignmentsRun _)).append (.refl _)).append (.refl _)
  · rcases gives_pure_iff.mp run with ⟨rfl, _⟩
    exact .refl _

/-- A visitor whose treatment leaves the scope as it is. -/
theorem thorough {visitor : Visitor σ} (attentive : visitor.Attentive)
    (obeys : treatment.Obeys (Walk.Stays.logic Unrelated))
    (insert : visitor.insert = treatment.treatInsert catalog)
    (update : visitor.update = treatment.treatUpdate catalog) : visitor.Thorough where
  attentive := attentive
  insert written := by
    intro before after result run
    rw [insert] at run
    exact ⟨(obeys.insertion written run).1, trivial, treatInsert_spares run⟩
  update written := by
    intro before after result run
    rw [update] at run
    exact ⟨(obeys.alteration written run).1, trivial, treatUpdate_spares run⟩

end Treatment

/-! ## The three protections -/

namespace IndexShadow

/-- The visitor for indexed columns is thorough. -/
theorem thorough_visitor : (visitor catalog).Thorough := by
  refine treatment.thorough attentive_visitor ?_ rfl rfl
  intro rule literal before after value run
  simp only [treatment] at run
  split at run
  · rcases Walk.gives_ofExcept_iff.mp run with ⟨-, rfl⟩
    exact ⟨rfl, trivial, trivial⟩
  · rcases gives_pure_iff.mp run with ⟨-, rfl⟩
    exact ⟨rfl, trivial, trivial⟩

end IndexShadow

namespace JoinShadow

/-- The visitor for joined columns is attentive. -/
theorem attentive_visitor : (visitor catalog).Attentive where
  tame := (steadfast_visitor.coarsen fun _ => trivial).tame
  operation run := by
    rcases operation_of_gives run with ⟨nothing, -, -⟩ | ⟨pair, leftShadow, rightShadow, -, -,
      paired, found, -⟩
    · cases nothing
    · cases found
      have left := isColumn_of_resolve paired.left
      have right := isColumn_of_resolve paired.right
      simp [Expr.isUnit, Expr.isOperand, left, right, Expr.isColumn_renamed]
  membership _ run := by
    cases (gives_pure_iff.mp run).1

/-- The visitor for joined columns is thorough. -/
theorem thorough_visitor : (visitor catalog).Thorough := by
  refine (treatment catalog).thorough attentive_visitor ?_ rfl rfl
  intro rule literal before after value run
  rcases Walk.gives_ofExcept_iff.mp run with ⟨-, rfl⟩
  exact ⟨rfl, trivial, trivial⟩

end JoinShadow

namespace Encryption

/-- The visitor for encrypted columns is attentive. -/
theorem attentive_visitor : (visitor catalog).Attentive where
  tame := (steadfast_visitor.coarsen fun _ => trivial).tame
  operation run := by
    cases (gives_pure_iff.mp run).1
  membership _ run := by
    cases (gives_pure_iff.mp run).1

/-- The visitor for encrypted columns is thorough. -/
theorem thorough_visitor : (visitor catalog).Thorough := by
  refine treatment.thorough attentive_visitor ?_ rfl rfl
  intro rule literal before after value run
  exact ⟨scope_of_gives_treatment run, trivial, trivial⟩

end Encryption

/-- The visitors of the three protections of a catalog. -/
inductive Catalog.Protects (catalog : Catalog) : {σ : Type} → Visitor σ → Prop where
  | indexed : Catalog.Protects catalog (IndexShadow.visitor catalog)
  | joined : Catalog.Protects catalog (JoinShadow.visitor catalog)
  | encrypted : Catalog.Protects catalog (Encryption.visitor catalog)

/-- Whatever protects a catalog is thorough. -/
theorem Catalog.Protects.thorough {visitor : Visitor σ} (protects : catalog.Protects visitor) :
    visitor.Thorough := by
  cases protects with
  | indexed => exact IndexShadow.thorough_visitor
  | joined => exact JoinShadow.thorough_visitor
  | encrypted => exact Encryption.thorough_visitor

end ColumnVeil
