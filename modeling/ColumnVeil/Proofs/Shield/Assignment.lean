import ColumnVeil.Proofs.Shield.Insertion
import ColumnVeil.Proofs.Shield.Protection

/-!
# Treated assignments

An update assigns values to columns, and so does an insertion that meets a row which exists
already.  A treatment leaves each assignment, puts another value into it, or calls for an
assignment to a shadow (`Treatment.Assigns`); the assignments to shadows come behind all others.
The walk that follows a treatment keeps the targets, and the values that are literals
(`Assignment.Echoes`).
-/

namespace ColumnVeil

open Sql

variable {σ α : Type} {catalog : Catalog} {table : String}

/-! ## Assignments -/

namespace Sql

/-- The columns that an assignment sets. -/
def Assignment.names (assignment : Assignment) : List Name :=
  match assignment.target with
  | .column name => [name]
  | .tuple names => names

/-- The table that a statement assigns to and the assignments: those of an update, or those
of an insertion to a row that exists already. -/
def Statement.assigns? : Statement → Option (String × List Assignment)
  | .update change =>
    match change.table.relation with
    | .table name .. => name.last?.map (·, change.assignments)
    | _ => none
  | .insert insertion =>
    match insertion.conflict with
    | .assign _ assignments _ => insertion.table.last?.map (·, assignments)
    | _ => none
  | .explain _ explained => explained.assigns?
  | _ => none

/-- What a walk makes of an assignment: its target stays, and so does a literal. -/
structure Assignment.Echoes (assignment walked : Assignment) : Prop where
  target : walked.target = assignment.target
  literal : walked.value.literal? = assignment.value.literal?
  value : assignment.value.literal?.isSome = true → walked.value = assignment.value

end Sql

/-- A walk through assignments keeps their targets and the literals among their values. -/
theorem echoes_of_walkAssignments {visitor : Visitor σ} (attentive : visitor.Attentive)
    {assignments walked : List Assignment} {before after : Traversal σ}
    (run : Gives (walkAssignments visitor assignments) before walked after) :
    List.Forall₂ Assignment.Echoes assignments walked := by
  refine (forall₂_of_gives_mapM run).imp ?_
  rintro assignment result ⟨first, last, step⟩
  rcases gives_bind_iff.mp step with ⟨value, _, valueRun, wrapped⟩
  rcases gives_pure_iff.mp wrapped with ⟨rfl, -⟩
  exact ⟨rfl, (attentive.kind _ valueRun).2,
    fun literal => (walkExpr_literal _ literal valueRun).1.symm⟩

namespace Catalog

/-- The rule of a column of a table that a name stands for. -/
def named? (catalog : Catalog) (table : String) (name : Name) : Option ColumnRule :=
  name.last?.bind (catalog.rule? table)

/-- The rule of the column that an assignment sets, if it sets a single one. -/
def assigned? (catalog : Catalog) (table : String) (assignment : Assignment) :
    Option ColumnRule :=
  match assignment.target with
  | .column name => catalog.named? table name
  | .tuple _ => none

/-- Whether an assignment sets a protected column. -/
def protectsAssigned (catalog : Catalog) (table : String) (assignment : Assignment) : Bool :=
  assignment.names.any fun name => (catalog.named? table name).any ColumnRule.isProtected

/-- The literal that an assignment has for its value, with the rule of its column and what
the rule carries. -/
def assigner? (catalog : Catalog) (table : String) (carried : ColumnRule → Option α)
    (assignment : Assignment) : Option (Option Literal × ColumnRule × α) := do
  let rule ← catalog.assigned? table assignment
  let load ← carried rule
  return (assignment.value.literal?, rule, load)

/-- The assignments whose columns carry something, in their order. -/
def assigners (catalog : Catalog) (table : String) (carried : ColumnRule → Option α)
    (assignments : List Assignment) : List (Option Literal × ColumnRule × α) :=
  assignments.filterMap (catalog.assigner? table carried)

variable {carried : ColumnRule → Option α} {assignment walked : Assignment}

/-- A table with a protected column is protected. -/
theorem isProtected_of_named? {name : Name} {rule : ColumnRule}
    (named : catalog.named? table name = some rule) (isProtected : rule.isProtected = true) :
    catalog.isProtected table = true := by
  rcases Option.bind_eq_some_iff.mp named with ⟨column, -, ruled⟩
  rcases List.lookup_eq_some_iff.mp ruled with ⟨before, after, split, -⟩
  rw [Catalog.isProtected, List.any_eq_true]
  exact ⟨(⟨foldCase table, foldCase column⟩, rule), by simp [split], by simp [isProtected]⟩

theorem assigned?_of_target {name : Name} (written : assignment.target = .column name) :
    catalog.assigned? table assignment = catalog.named? table name := by
  rw [assigned?, written]

theorem assigner?_eq_none_iff :
    catalog.assigner? table carried assignment = none ↔
      ∀ rule, catalog.assigned? table assignment = some rule → carried rule = none := by
  rw [assigner?]
  cases catalog.assigned? table assignment with
  | none => simp
  | some rule => cases load : carried rule <;> simp [load]

theorem assigner?_eq_some {rule : ColumnRule} {load : α}
    (assigned : catalog.assigned? table assignment = some rule)
    (carries : carried rule = some load) :
    catalog.assigner? table carried assignment =
      some (assignment.value.literal?, rule, load) := by
  simp [assigner?, assigned, carries]

theorem assigners_append (first second : List Assignment) :
    catalog.assigners table carried (first ++ second) =
      catalog.assigners table carried first ++ catalog.assigners table carried second :=
  List.filterMap_append

/-- What is carried for an assignment is listed with the rule of a column. -/
theorem exists_rule_of_mem_assigners {assignments : List Assignment}
    {carrier : Option Literal × ColumnRule × α}
    (member : carrier ∈ catalog.assigners table carried assignments) :
    ∃ column, catalog.rule? table column = some carrier.2.1 ∧
      carried carrier.2.1 = some carrier.2.2 := by
  rcases List.mem_filterMap.mp member with ⟨assignment, -, found⟩
  simp only [assigner?, Option.bind_eq_bind, Option.bind_eq_some_iff, Option.pure_def,
    Option.some.injEq] at found
  rcases found with ⟨rule, assigned, load, carries, rfl⟩
  rw [assigned?] at assigned
  split at assigned
  · rcases Option.bind_eq_some_iff.mp assigned with ⟨column, -, ruled⟩
    exact ⟨column, ruled, carries⟩
  · cases assigned

end Catalog

namespace Sql.Assignment.Echoes

variable {assignment walked : Assignment} {assignments results : List Assignment}
  {carried : ColumnRule → Option α}

theorem refl (assignment : Assignment) : assignment.Echoes assignment :=
  ⟨rfl, rfl, fun _ => rfl⟩

theorem assigned? (echoes : assignment.Echoes walked) :
    catalog.assigned? table walked = catalog.assigned? table assignment := by
  rw [Catalog.assigned?, echoes.target, Catalog.assigned?]

theorem protectsAssigned (echoes : assignment.Echoes walked) :
    catalog.protectsAssigned table walked = catalog.protectsAssigned table assignment := by
  rw [Catalog.protectsAssigned, names, echoes.target, Catalog.protectsAssigned, names]

/-- A walk leaves what is carried as it is. -/
theorem assigners (all : List.Forall₂ Assignment.Echoes assignments results) :
    catalog.assigners table carried results = catalog.assigners table carried assignments := by
  induction all with
  | nil => rfl
  | cons echoes rest inductionHypothesis =>
      simp only [Catalog.assigners, List.filterMap_cons] at inductionHypothesis ⊢
      rw [inductionHypothesis, Catalog.assigner?, Catalog.assigner?, echoes.assigned?,
        echoes.literal]

end Sql.Assignment.Echoes

/-! ## One treatment -/

namespace Treatment

variable {treatment : Treatment σ} {carried : ColumnRule → Option α}

/-- What a treatment makes of an assignment, with an assignment to a shadow if it calls for
one. -/
inductive Assigns (treatment : Treatment σ) (catalog : Catalog) (table : String)
    (assignment : Assignment) : Assignment × Option Assignment → Prop where
  | idle : (∀ name ∈ assignment.names,
        (catalog.named? table name).bind treatment.carriage? = none) →
      Assigns treatment catalog table assignment (assignment, none)
  | append {name : Name} {rule : ColumnRule} {shadow : String} {literal : Literal} {value : Expr}
      {before after : Traversal σ} :
      assignment.target = .column name → catalog.named? table name = some rule →
        treatment.carriage? rule = some (.append shadow) →
          assignment.value.literal? = some literal →
            Gives (treatment.value rule literal) before value after →
              Assigns treatment catalog table assignment
                (assignment, some ⟨.column [⟨shadow, none⟩], value⟩)
  | replace {name : Name} {rule : ColumnRule} {literal : Literal} {value : Expr}
      {before after : Traversal σ} :
      assignment.target = .column name → catalog.named? table name = some rule →
        treatment.carriage? rule = some .replace →
          assignment.value.literal? = some literal →
            Gives (treatment.value rule literal) before value after →
              Assigns treatment catalog table assignment ({ assignment with value }, none)

theorem assigns_of_gives {assignment : Assignment} {result : Assignment × Option Assignment}
    {before after : Traversal σ}
    (run : Gives (treatment.treatAssignment catalog table assignment) before result after) :
    treatment.Assigns catalog table assignment result := by
  unfold treatAssignment at run
  split at run
  · rename_i names written
    dsimp only at run
    split at run
    · rcases gives_bind_iff.mp run with ⟨_, _, refused, _⟩
      exact absurd refused not_gives_throw
    · rename_i unconcerned
      rcases gives_pure_iff.mp run with ⟨rfl, -⟩
      refine .idle fun name member => ?_
      rw [Assignment.names, written] at member
      simp only [List.any_eq_true, not_exists, not_and, Bool.not_eq_true,
        Option.isSome_eq_false_iff, Option.isNone_iff_eq_none] at unconcerned
      exact unconcerned name member
  rename_i name written
  have single : assignment.names = [name] := by
    rw [Assignment.names, written]
  split at run
  · rename_i ruleless
    rcases gives_pure_iff.mp run with ⟨rfl, -⟩
    refine .idle fun other member => ?_
    rw [single, List.mem_singleton] at member
    rw [member, Catalog.named?, ruleless, Option.bind_none]
  rename_i rule ruled
  split at run
  · rename_i uncarried
    rcases gives_pure_iff.mp run with ⟨rfl, -⟩
    refine .idle fun other member => ?_
    rw [single, List.mem_singleton] at member
    rw [member, Catalog.named?, ruled, Option.bind_some, uncarried]
  rename_i carriage carries
  rcases gives_bind_iff.mp run with ⟨value, _, valueRun, put⟩
  rw [valueOf, Option.bind_some] at valueRun
  split at valueRun
  · rename_i literal found
    cases carriage with
    | append shadow =>
        rcases gives_pure_iff.mp put with ⟨rfl, -⟩
        exact .append written ruled carries found valueRun
    | replace =>
        rcases gives_pure_iff.mp put with ⟨rfl, -⟩
        exact .replace written ruled carries found valueRun
  · exact absurd valueRun not_gives_throw

/-- A treated column is assigned on its own, and a literal. -/
theorem Assigns.literal {assignment : Assignment} {result : Assignment × Option Assignment}
    (assigns : treatment.Assigns catalog table assignment result)
    (concerned : ∃ name ∈ assignment.names, ∃ rule,
      catalog.named? table name = some rule ∧ (treatment.carriage? rule).isSome = true) :
    (∃ name, assignment.target = .column name) ∧ assignment.value.literal?.isSome = true := by
  cases assigns with
  | idle unconcerned =>
      rcases concerned with ⟨name, member, rule, ruled, carries⟩
      have none := unconcerned name member
      rw [ruled, Option.bind_some] at none
      rw [none] at carries
      cases carries
  | append written ruled carries found run => exact ⟨⟨_, written⟩, by rw [found]; rfl⟩
  | replace written ruled carries found run => exact ⟨⟨_, written⟩, by rw [found]; rfl⟩

/-- A treatment makes one list of assignments into another: each assignment is treated, and
those to shadows come last. -/
def AssignsAll (treatment : Treatment σ) (catalog : Catalog) (table : String)
    (assignments result : List Assignment) : Prop :=
  ∃ treated, List.Forall₂ (treatment.Assigns catalog table) assignments treated ∧
    treated.map Prod.fst ++ treated.filterMap Prod.snd = result

theorem assignsAll_of_gives {assignments result : List Assignment} {before after : Traversal σ}
    (run : Gives (treatment.treatAssignments catalog table assignments) before result after) :
    treatment.AssignsAll catalog table assignments result := by
  rcases gives_bind_iff.mp run with ⟨treated, _, each, ended⟩
  rcases gives_pure_iff.mp ended with ⟨same, -⟩
  refine ⟨treated, (forall₂_of_gives_mapM each).imp ?_, same⟩
  rintro assignment result ⟨first, last, step⟩
  exact assigns_of_gives step

/-- Where a table is not protected, a treatment has nothing to do. -/
theorem assignsAll_self
    (protects : ∀ rule, (treatment.carriage? rule).isSome = true → rule.isProtected = true)
    (unprotected : catalog.isProtected table = false) (assignments : List Assignment) :
    treatment.AssignsAll catalog table assignments assignments := by
  refine ⟨assignments.map (·, none), ?_, ?_⟩
  · rw [List.forall₂_map_right_iff, List.forall₂_same]
    intro assignment member
    refine .idle fun name named => ?_
    rw [Option.bind_eq_none_iff]
    intro rule ruled
    rw [Option.eq_none_iff_forall_ne_some]
    intro carriage carries
    have isProtected := protects rule (by rw [carries]; rfl)
    rw [Catalog.isProtected_of_named? ruled isProtected] at unprotected
    cases unprotected
  · rw [List.map_map, List.filterMap_map]
    simp [Function.comp_def]

/-! ## Assignments to shadows -/

/-- An assignment to the shadow of a carrier, of what is stored for its literal. -/
structure Shadows (shadow : α → String) (becomes : α → Bytes → Bytes → Prop)
    (carrier : Option Literal × ColumnRule × α) (added : Assignment) : Prop where
  target : added.target = .column [⟨shadow carrier.2.2, none⟩]
  stored : ∃ literal, carrier.1 = some literal ∧
    Stored carrier.2.1 (becomes carrier.2.2) literal added.value

theorem Shadows.literal {shadow : α → String} {becomes : α → Bytes → Bytes → Prop}
    {carrier : Option Literal × ColumnRule × α} {added : Assignment}
    (shadows : Shadows shadow becomes carrier added) : added.value.literal?.isSome = true := by
  rcases shadows with ⟨-, literal, -, stored⟩
  exact literal?_stored stored

/-- A treatment with shadows leaves the assignments and adds one for each carrier. -/
theorem AssignsAll.appends {shadow : α → String} {becomes : α → Bytes → Bytes → Prop}
    (carries : ∀ rule, treatment.carriage? rule =
      (carried rule).map fun load => .append (shadow load))
    (stores : ∀ {rule load literal value before after}, carried rule = some load →
      Gives (treatment.value rule literal) before value after →
        Stored rule (becomes load) literal value)
    {assignments result : List Assignment}
    (assigns : treatment.AssignsAll catalog table assignments result) :
    ∃ added, result = assignments ++ added ∧
      List.Forall₂ (Shadows shadow becomes) (catalog.assigners table carried assignments)
        added := by
  rcases assigns with ⟨treated, each, rfl⟩
  suffices split : treated.map Prod.fst = assignments ∧
      List.Forall₂ (Shadows shadow becomes) (catalog.assigners table carried assignments)
        (treated.filterMap Prod.snd) by
    exact ⟨_, by rw [split.1], split.2⟩
  induction each with
  | nil => exact ⟨rfl, .nil⟩
  | @cons assignment result assignments results step rest inductionHypothesis =>
      rcases inductionHypothesis with ⟨kept, added⟩
      rw [Catalog.assigners, List.filterMap_cons, ← Catalog.assigners, List.map_cons, kept]
      cases step with
      | idle unconcerned =>
          have none : catalog.assigner? table carried assignment = none := by
            rw [Catalog.assigner?_eq_none_iff]
            intro rule assigned
            rw [Catalog.assigned?] at assigned
            split at assigned
            · rename_i name written
              have idle := unconcerned name (by simp [Assignment.names, written])
              rw [assigned, Option.bind_some, carries, Option.map_eq_none_iff] at idle
              exact idle
            · cases assigned
          rw [none]
          exact ⟨rfl, added⟩
      | append written ruled carriage found run =>
          rw [carries, Option.map_eq_some_iff] at carriage
          rcases carriage with ⟨load, loaded, same⟩
          cases same
          rw [Catalog.assigner?_eq_some ((Catalog.assigned?_of_target written).trans ruled) loaded]
          exact ⟨rfl, .cons ⟨rfl, _, found, stores loaded run⟩ added⟩
      | replace written ruled carriage found run =>
          rw [carries, Option.map_eq_some_iff] at carriage
          rcases carriage with ⟨load, loaded, same⟩
          cases same

end Treatment

/-! ## Assignments with payloads -/

/-- What is sent for an assignment of the client: a payload for the literal of an encrypted
column, and any other literal as it is. -/
structure Kept (catalog : Catalog) (table : String) (assignment sent : Assignment) : Prop where
  target : sent.target = assignment.target
  encrypted : ∀ rule key, catalog.assigned? table assignment = some rule →
    rule.encryptionKey = some key → ∃ literal, assignment.value.literal? = some literal ∧
      Stored rule (Encryption.Encrypts key) literal sent.value
  unchanged : (∀ rule, catalog.assigned? table assignment = some rule →
    rule.encryptionKey = none) → assignment.value.literal?.isSome = true →
      sent.value = assignment.value

namespace Kept

variable {assignment walked sent : Assignment}

theorem of_echoes (kept : Kept catalog table walked sent) (echoes : assignment.Echoes walked) :
    Kept catalog table assignment sent := by
  constructor
  · rw [kept.target, echoes.target]
  · intro rule key assigned encrypted
    rw [← echoes.literal]
    exact kept.encrypted rule key (by rw [echoes.assigned?, assigned]) encrypted
  · intro plain literal
    rw [← echoes.value literal]
    refine kept.unchanged ?_ (by rw [echoes.literal, literal])
    rw [echoes.assigned?]
    exact plain

theorem echo (kept : Kept catalog table assignment sent) (echoes : sent.Echoes walked) :
    Kept catalog table assignment walked := by
  constructor
  · rw [echoes.target, kept.target]
  · intro rule key assigned encrypted
    rcases kept.encrypted rule key assigned encrypted with ⟨literal, found, stored⟩
    refine ⟨literal, found, ?_⟩
    rw [echoes.value (literal?_stored stored)]
    exact stored
  · intro plain literal
    have same := kept.unchanged plain literal
    rw [echoes.value (by rw [same, literal]), same]

end Kept

namespace Encryption

/-- Encryption puts payloads in the place of literals. -/
theorem kept_of_assignsAll {assignments result : List Assignment}
    (assigns : treatment.AssignsAll catalog table assignments result) :
    List.Forall₂ (Kept catalog table) assignments result := by
  rcases assigns with ⟨treated, each, rfl⟩
  have alone : ∀ entry ∈ treated, entry.2 = none := by
    intro entry member
    rcases List.mem_iff_getElem?.mp member with ⟨index, place⟩
    rcases exists_getElem?_of_forall₂ each.flip place with ⟨assignment, -, step⟩
    cases step with
    | idle unconcerned => rfl
    | append written ruled carriage found run =>
        simp only [treatment, Option.map_eq_some_iff, reduceCtorEq, and_false, exists_false]
          at carriage
    | replace written ruled carriage found run => rfl
  rw [List.filterMap_eq_nil_iff.mpr alone, List.append_nil, List.forall₂_map_right_iff]
  refine each.imp ?_
  rintro assignment entry step
  cases step with
  | idle unconcerned =>
      refine ⟨rfl, ?_, fun _ _ => rfl⟩
      intro rule key assigned encrypted
      rw [Catalog.assigned?] at assigned
      split at assigned
      · rename_i name written
        have none := unconcerned name (by simp [Assignment.names, written])
        simp [assigned, treatment, encrypted] at none
      · cases assigned
  | append written ruled carriage found run =>
      simp only [treatment, Option.map_eq_some_iff, reduceCtorEq, and_false, exists_false]
        at carriage
  | replace written ruled carriage found run =>
      have assigned := (Catalog.assigned?_of_target written).trans ruled
      refine ⟨rfl, ?_, ?_⟩
      · intro rule key again encrypted
        cases assigned.symm.trans again
        exact ⟨_, found, stored_of_gives encrypted run⟩
      · intro plain
        simp [treatment, plain _ assigned] at carriage

end Encryption

end ColumnVeil
