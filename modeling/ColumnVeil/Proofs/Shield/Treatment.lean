import ColumnVeil.Proofs.Traversal.Statement
import ColumnVeil.Shield.Values

/-!
# Values carried through the rows of insertions

A treatment takes the literals at the positions of its columns and either puts their values
in the same places or appends them to the row, in the order of the columns.  The lemmas
here say so for one row, for all rows, and for the insertion as a whole, where the columns
grow along with the rows.

The columns that a treatment concerns are its carriers: the listed columns whose rule says
what is carried, each with its position.

What is said of walks and holds of every value of a treatment holds of the treatment as a whole
(`Treatment.Obeys`); so a relation between states that every value keeps is kept
(`Treatment.Keeps`).
-/

namespace ColumnVeil

open Sql

variable {σ α : Type} {catalog : Catalog} {table : String}

/-! ## Carriers -/

/-- A listed column with its position, if its rule carries something. -/
def Catalog.carrier? (catalog : Catalog) (table : String) (carried : ColumnRule → Option α)
    (entry : Ident × Nat) : Option (Nat × ColumnRule × α) := do
  let rule ← catalog.rule? table entry.1.normal
  let load ← carried rule
  return (entry.2, rule, load)

/--
The listed columns whose rules carry something: their positions, their rules and
what is carried, in the order of the list.
-/
def Catalog.carriers (catalog : Catalog) (table : String) (carried : ColumnRule → Option α)
    (columns : List Ident) : List (Nat × ColumnRule × α) :=
  columns.zipIdx.filterMap (catalog.carrier? table carried)

namespace Catalog

variable {carried : ColumnRule → Option α} {columns : List Ident}

theorem carrier?_eq_some_iff {entry : Ident × Nat} {position : Nat} {rule : ColumnRule}
    {load : α} :
    catalog.carrier? table carried entry = some (position, rule, load) ↔
      entry.2 = position ∧ catalog.rule? table entry.1.normal = some rule ∧
        carried rule = some load := by
  cases ruled : catalog.rule? table entry.1.normal with
  | none =>
      simp [carrier?, ruled]
  | some found =>
      cases carries : carried found with
      | none =>
          simp only [carrier?, ruled, Option.bind_eq_bind, Option.bind_some, carries,
            Option.bind_none, reduceCtorEq, Option.some.injEq, false_iff, not_and]
          rintro _ rfl
          simp [carries]
      | some held =>
          simp only [carrier?, ruled, Option.bind_eq_bind, Option.bind_some, carries,
            Option.pure_def, Option.some.injEq, Prod.mk.injEq]
          constructor
          · rintro ⟨place, rfl, rfl⟩
            exact ⟨place, rfl, carries⟩
          · rintro ⟨place, rfl, same⟩
            rw [carries] at same
            exact ⟨place, rfl, Option.some.inj same⟩

/-- A carrier is a listed column with a rule that carries something. -/
theorem mem_carriers_iff {position : Nat} {rule : ColumnRule} {load : α} :
    (position, rule, load) ∈ catalog.carriers table carried columns ↔
      ∃ column,
        columns[position]? = some column ∧
          catalog.rule? table column.normal = some rule ∧ carried rule = some load := by
  simp only [carriers, List.mem_filterMap, carrier?_eq_some_iff]
  constructor
  · rintro ⟨⟨column, index⟩, member, rfl, ruled, carries⟩
    exact ⟨column, List.mk_mem_zipIdx_iff_getElem?.mp member, ruled, carries⟩
  · rintro ⟨column, place, ruled, carries⟩
    exact ⟨(column, position), List.mk_mem_zipIdx_iff_getElem?.mpr place, rfl, ruled, carries⟩

/-- A carrier stands inside the list. -/
theorem position_lt_of_mem_carriers {carrier : Nat × ColumnRule × α}
    (member : carrier ∈ catalog.carriers table carried columns) :
    carrier.1 < columns.length := by
  rcases mem_carriers_iff.mp member with ⟨column, place, _⟩
  exact (List.getElem?_eq_some_iff.mp place).1

/-- The rule of a carrier carries what stands beside it. -/
theorem carried_of_mem_carriers {carrier : Nat × ColumnRule × α}
    (member : carrier ∈ catalog.carriers table carried columns) :
    carried carrier.2.1 = some carrier.2.2 := by
  rcases mem_carriers_iff.mp member with ⟨_, _, _, carries⟩
  exact carries

/-- Carriers stand at different positions, in the order of the list. -/
theorem pairwise_carriers :
    (catalog.carriers table carried columns).Pairwise fun first second => first.1 < second.1 := by
  have positions : columns.zipIdx.Pairwise fun first second => first.2 < second.2 := by
    have ordered : (columns.zipIdx.map Prod.snd).Pairwise (· < ·) := by
      rw [List.zipIdx_map_snd]
      exact List.pairwise_lt_range'
    exact List.pairwise_map.mp ordered
  refine List.Pairwise.filterMap _ ?_ positions
  rintro first second less ⟨firstPosition, firstRule, firstLoad⟩ isFirst
    ⟨secondPosition, secondRule, secondLoad⟩ isSecond
  rcases carrier?_eq_some_iff.mp isFirst with ⟨rfl, _⟩
  rcases carrier?_eq_some_iff.mp isSecond with ⟨rfl, _⟩
  exact less

/-- Further columns that carry nothing add no carriers. -/
theorem carriers_append {further : List Ident}
    (idle : ∀ column ∈ further, ∀ rule,
      catalog.rule? table column.normal = some rule → carried rule = none) :
    catalog.carriers table carried (columns ++ further) =
      catalog.carriers table carried columns := by
  have added : (further.zipIdx (0 + columns.length)).filterMap
      (catalog.carrier? table carried) = [] := by
    rw [List.filterMap_eq_nil_iff]
    rintro ⟨column, position⟩ member
    rw [Option.eq_none_iff_forall_ne_some]
    rintro ⟨found, rule, load⟩ carries
    rcases carrier?_eq_some_iff.mp carries with ⟨_, ruled, carriesLoad⟩
    rw [idle column (List.fst_mem_of_mem_zipIdx member) rule ruled] at carriesLoad
    cases carriesLoad
  rw [carriers, List.zipIdx_append, List.filterMap_append, added, List.append_nil, carriers]

end Catalog

/-! ## Targets -/

/-- The target that a carrier is for a treatment. -/
def Target.ofCarrier (carriage : α → Carriage) (carrier : Nat × ColumnRule × α) : Target :=
  ⟨carrier.1, carrier.2.1, carriage carrier.2.2⟩

/-- A row with a value for a target. -/
def Target.put (target : Target) (value : Expr) (row : List Expr) : List Expr :=
  match target.carriage with
  | .append _ => row ++ [value]
  | .replace => row.set target.position value

namespace Treatment

variable {treatment : Treatment σ}

/-- The targets of a treatment are its carriers. -/
theorem targets_eq_carriers {carried : ColumnRule → Option α} {carriage : α → Carriage}
    (carries : ∀ rule, treatment.carriage? rule = (carried rule).map carriage)
    (columns : List Ident) :
    treatment.targets catalog table columns =
      (catalog.carriers table carried columns).map (Target.ofCarrier carriage) := by
  rw [targets, Catalog.carriers, List.map_filterMap]
  congr 1
  funext entry
  rcases entry with ⟨column, position⟩
  simp only [Catalog.carrier?, Option.bind_eq_bind]
  cases catalog.rule? table column.normal with
  | none =>
      rfl
  | some rule =>
      simp only [Option.bind_some, carries]
      cases carried rule <;> rfl

/-- The shadows that are appended for carriers that go into shadows. -/
theorem shadows_carriers (shadow : α → String) (carriers : List (Nat × ColumnRule × α)) :
    shadows (carriers.map (Target.ofCarrier fun load => .append (shadow load))) =
      carriers.map fun carrier => (⟨shadow carrier.2.2, none⟩ : Ident) := by
  induction carriers with
  | nil =>
      rfl
  | cons carrier carriers inductionHypothesis =>
      simpa [shadows, Target.ofCarrier] using inductionHypothesis

/-- Nothing is appended for carriers that stay in their places. -/
theorem shadows_replaced (carriers : List (Nat × ColumnRule × α)) :
    shadows (carriers.map (Target.ofCarrier fun _ => .replace)) = [] := by
  rw [shadows, List.filterMap_eq_nil_iff]
  intro target member
  rcases List.mem_map.mp member with ⟨carrier, _, rfl⟩
  rfl

/-! ## One row -/

/-- The literal at a position of a row, if there is one. -/
def literalAt (row : List Expr) (position : Nat) : Option Literal :=
  row[position]?.bind Expr.literal?

theorem lt_length_of_literalAt {row : List Expr} {position : Nat} {literal : Literal}
    (found : literalAt row position = some literal) : position < row.length := by
  rcases Option.bind_eq_some_iff.mp found with ⟨item, place, _⟩
  exact (List.getElem?_eq_some_iff.mp place).1

/-- A value that a treatment gives for the literal of a row at the position of a target. -/
def Values (treatment : Treatment σ) (row : List Expr) (target : Target) (value : Expr) : Prop :=
  ∃ literal before after,
    literalAt row target.position = some literal ∧
      Gives (treatment.value target.rule literal) before value after

theorem gives_valueOf {statement : String} {row : List Expr} {target : Target} {value : Expr}
    {before after : Traversal σ}
    (run : Gives (treatment.valueOf statement target.rule row[target.position]?)
      before value after) :
    treatment.Values row target value := by
  rw [valueOf, ← literalAt] at run
  cases found : literalAt row target.position with
  | none =>
      rw [found] at run
      exact absurd run not_gives_throw
  | some literal =>
      rw [found] at run
      exact ⟨literal, before, after, found, run⟩

/-- Targets are treated one by one. -/
theorem gives_treatRow_cons {target : Target} {targets : List Target} {row result : List Expr}
    {before after : Traversal σ}
    (run : Gives (treatment.treatRow (target :: targets) row) before result after) :
    ∃ value middle,
      treatment.Values row target value ∧
        Gives (treatment.treatRow targets (target.put value row)) middle result after := by
  rw [treatRow, gives_foldlM_cons_iff] at run
  rcases run with ⟨next, middle, step, rest⟩
  rw [gives_bind_iff] at step
  rcases step with ⟨value, valued, valueRun, put⟩
  refine ⟨value, middle, gives_valueOf valueRun, ?_⟩
  have same : target.put value row = next := by
    cases carriage : target.carriage with
    | append shadow =>
        simp only [carriage] at put
        simpa [Target.put, carriage] using (gives_pure_iff.mp put).1
    | replace =>
        simp only [carriage] at put
        simpa [Target.put, carriage] using (gives_pure_iff.mp put).1
  rw [same]
  exact rest

/-- A value stays one for a longer row if its target stands inside the shorter one. -/
theorem Values.of_append {row further : List Expr} {target : Target} {value : Expr}
    (inside : target.position < row.length)
    (valued : treatment.Values (row ++ further) target value) :
    treatment.Values row target value := by
  rcases valued with ⟨literal, before, after, found, run⟩
  rw [literalAt, List.getElem?_append_left inside] at found
  exact ⟨literal, before, after, found, run⟩

/-- Values that go into shadows stand behind the row, one for each target. -/
theorem treatRow_appends {targets : List Target} {row result : List Expr}
    {before after : Traversal σ}
    (appends : ∀ target ∈ targets, ∃ shadow, target.carriage = .append shadow)
    (inside : ∀ target ∈ targets, target.position < row.length)
    (run : Gives (treatment.treatRow targets row) before result after) :
    ∃ values,
      result = row ++ values ∧ List.Forall₂ (treatment.Values row) targets values := by
  induction targets generalizing row before with
  | nil =>
      rcases gives_pure_iff.mp run with ⟨rfl, _⟩
      exact ⟨[], (List.append_nil row).symm, List.Forall₂.nil⟩
  | cons target targets inductionHypothesis =>
      rcases gives_treatRow_cons run with ⟨value, middle, valued, rest⟩
      rcases appends target List.mem_cons_self with ⟨shadow, carriage⟩
      have put : target.put value row = row ++ [value] := by
        simp [Target.put, carriage]
      rw [put] at rest
      have insideLonger : ∀ target ∈ targets, target.position < (row ++ [value]).length := by
        intro target member
        have shorter := inside target (List.mem_cons_of_mem _ member)
        rw [List.length_append]
        omega
      rcases inductionHypothesis
          (fun target member => appends target (List.mem_cons_of_mem _ member))
          insideLonger rest with ⟨values, rfl, related⟩
      refine ⟨value :: values, by simp, List.Forall₂.cons valued ?_⟩
      -- The later values were found in the longer row, but inside the one at hand.
      have all := (List.forall₂_and_left _ _).mpr
        ⟨fun target member => inside target (List.mem_cons_of_mem _ member), related⟩
      exact all.imp fun target value both => Values.of_append both.1 both.2

/-- Values that take the place of literals stand where the literals stood. -/
theorem treatRow_replaces {targets : List Target} {row result : List Expr}
    {before after : Traversal σ}
    (replaces : ∀ target ∈ targets, target.carriage = .replace)
    (apart : targets.Pairwise fun first second => first.position ≠ second.position)
    (run : Gives (treatment.treatRow targets row) before result after) :
    result.length = row.length ∧
      (∀ position, (∀ target ∈ targets, target.position ≠ position) →
        result[position]? = row[position]?) ∧
        ∀ target ∈ targets, ∃ value,
          result[target.position]? = some value ∧ treatment.Values row target value := by
  induction targets generalizing row before with
  | nil =>
      rcases gives_pure_iff.mp run with ⟨rfl, _⟩
      exact ⟨rfl, fun _ _ => rfl, fun _ member => absurd member List.not_mem_nil⟩
  | cons target targets inductionHypothesis =>
      rcases gives_treatRow_cons run with ⟨value, middle, valued, rest⟩
      have put : target.put value row = row.set target.position value := by
        simp [Target.put, replaces target List.mem_cons_self]
      rw [put] at rest
      rcases List.pairwise_cons.mp apart with ⟨others, apartRest⟩
      rcases inductionHypothesis
          (fun target member => replaces target (List.mem_cons_of_mem _ member))
          apartRest rest with ⟨length, unchanged, replaced⟩
      refine ⟨by rw [length, List.length_set], ?_, ?_⟩
      · intro position elsewhere
        rw [unchanged position fun target member =>
          elsewhere target (List.mem_cons_of_mem _ member)]
        exact List.getElem?_set_ne (elsewhere target List.mem_cons_self)
      · intro found member
        rcases List.mem_cons.mp member with rfl | later
        · refine ⟨value, ?_, valued⟩
          rw [unchanged found.position fun target member => (others target member).symm]
          rcases valued with ⟨_, _, _, place, _⟩
          exact List.getElem?_set_self (lt_length_of_literalAt place)
        · -- A later target stands elsewhere, so its literal is still the client's own.
          rcases replaced found later with ⟨put, place, valuedPut⟩
          refine ⟨put, place, ?_⟩
          rcases valuedPut with ⟨literal, first, last, literalPlace, run⟩
          rw [literalAt, List.getElem?_set_ne (others found later)] at literalPlace
          exact ⟨literal, first, last, literalPlace, run⟩

/-- A row of literals stays one if a treatment gives literals as values. -/
theorem treatRow_literals {targets : List Target} {row result : List Expr}
    {before after : Traversal σ}
    (constant : ∀ {rule literal value before after},
      Gives (treatment.value rule literal) before value after → value.literal?.isSome = true)
    (literals : ∀ expr ∈ row, expr.literal?.isSome = true)
    (run : Gives (treatment.treatRow targets row) before result after) :
    ∀ expr ∈ result, expr.literal?.isSome = true := by
  induction targets generalizing row before with
  | nil =>
      rcases gives_pure_iff.mp run with ⟨rfl, _⟩
      exact literals
  | cons target targets inductionHypothesis =>
      rcases gives_treatRow_cons run with ⟨value, middle, valued, rest⟩
      refine inductionHypothesis ?_ rest
      rcases valued with ⟨_, _, _, _, valueRun⟩
      intro expr member
      have placed : expr ∈ row ∨ expr = value := by
        rw [Target.put] at member
        split at member
        · simpa using member
        · exact List.mem_or_eq_of_mem_set member
      rcases placed with old | rfl
      · exact literals expr old
      · exact constant valueRun

/-! ## All rows -/

/--
A treatment makes a row of an insertion of some width into another one.  Without
targets it does not look at the width.
-/
def Treats (treatment : Treatment σ) (width : Nat) (targets : List Target)
    (row result : List Expr) : Prop :=
  (targets ≠ [] → row.length = width) ∧
    ∃ before after, Gives (treatment.treatRow targets row) before result after

/-- Without targets a row stays as it is. -/
theorem Treats.eq_of_nil {width : Nat} {row result : List Expr}
    (treats : treatment.Treats width [] row result) : row = result := by
  rcases treats with ⟨_, before, after, run⟩
  exact (gives_pure_iff.mp run).1

/-- A treatment whose carriers go into shadows appends one value for each of them. -/
theorem Treats.appends {carriers : List (Nat × ColumnRule × α)} {shadow : α → String}
    {width : Nat} {row result : List Expr}
    (inside : ∀ carrier ∈ carriers, carrier.1 < width)
    (treats : treatment.Treats width
      (carriers.map (Target.ofCarrier fun load => .append (shadow load))) row result) :
    ∃ values,
      result = row ++ values ∧ (carriers ≠ [] → row.length = width) ∧
        List.Forall₂
          (fun carrier value => treatment.Values row
            (Target.ofCarrier (fun load => .append (shadow load)) carrier) value)
          carriers values := by
  rcases treats with ⟨length, before, after, run⟩
  have lengthOfCarriers : carriers ≠ [] → row.length = width := by
    intro nonempty
    refine length ?_
    intro empty
    exact nonempty (List.map_eq_nil_iff.mp empty)
  have appends : ∀ target ∈ carriers.map (Target.ofCarrier fun load => .append (shadow load)),
      ∃ shadow, target.carriage = .append shadow := by
    intro target member
    rcases List.mem_map.mp member with ⟨carrier, _, rfl⟩
    exact ⟨shadow carrier.2.2, rfl⟩
  have insideRow : ∀ target ∈ carriers.map (Target.ofCarrier fun load => .append (shadow load)),
      target.position < row.length := by
    intro target member
    rcases List.mem_map.mp member with ⟨carrier, carrierMember, rfl⟩
    rw [lengthOfCarriers (List.ne_nil_of_mem carrierMember)]
    exact inside carrier carrierMember
  rcases treatRow_appends appends insideRow run with ⟨values, rfl, related⟩
  exact ⟨values, rfl, lengthOfCarriers, List.forall₂_map_left_iff.mp related⟩

/-- A treatment whose carriers stay in their places puts a value in the place of each. -/
theorem Treats.replaces {carriers : List (Nat × ColumnRule × α)} {width : Nat}
    {row result : List Expr}
    (apart : carriers.Pairwise fun first second => first.1 < second.1)
    (treats : treatment.Treats width
      (carriers.map (Target.ofCarrier fun _ => .replace)) row result) :
    result.length = row.length ∧
      (∀ position, (∀ carrier ∈ carriers, carrier.1 ≠ position) →
        result[position]? = row[position]?) ∧
        ∀ carrier ∈ carriers, ∃ value,
          result[carrier.1]? = some value ∧
            treatment.Values row (Target.ofCarrier (fun _ => .replace) carrier) value := by
  rcases treats with ⟨-, before, after, run⟩
  have replaces : ∀ target ∈ carriers.map (Target.ofCarrier fun _ => .replace),
      target.carriage = .replace := by
    intro target member
    rcases List.mem_map.mp member with ⟨carrier, _, rfl⟩
    rfl
  have positionsApart : (carriers.map (Target.ofCarrier fun _ => .replace)).Pairwise
      fun first second => first.position ≠ second.position := by
    refine List.pairwise_map.mpr (apart.imp ?_)
    intro first second less
    exact Nat.ne_of_lt less
  rcases treatRow_replaces replaces positionsApart run with ⟨sameLength, unchanged, replaced⟩
  refine ⟨sameLength, ?_, ?_⟩
  · intro position elsewhere
    refine unchanged position ?_
    intro target member
    rcases List.mem_map.mp member with ⟨carrier, carrierMember, rfl⟩
    exact elsewhere carrier carrierMember
  · intro carrier member
    exact replaced _ (List.mem_map_of_mem member)

/-- Values for carriers in the front of a row leave the back of the row as it is. -/
theorem Treats.replaces_front {carriers : List (Nat × ColumnRule × α)} {width : Nat}
    {front back result : List Expr}
    (apart : carriers.Pairwise fun first second => first.1 < second.1)
    (inside : ∀ carrier ∈ carriers, carrier.1 < front.length)
    (treats : treatment.Treats width
      (carriers.map (Target.ofCarrier fun _ => .replace)) (front ++ back) result) :
    ∃ own, result = own ++ back ∧ own.length = front.length ∧
      (∀ position, (∀ carrier ∈ carriers, carrier.1 ≠ position) →
        own[position]? = front[position]?) ∧
        ∀ carrier ∈ carriers, ∃ value,
          own[carrier.1]? = some value ∧
            treatment.Values front (Target.ofCarrier (fun _ => .replace) carrier) value := by
  rcases treats.replaces apart with ⟨length, unchanged, replaced⟩
  have behind : result.drop front.length = back := by
    refine List.ext_getElem? fun position => ?_
    have elsewhere : ∀ carrier ∈ carriers, carrier.1 ≠ front.length + position := by
      intro carrier member
      have within := inside carrier member
      omega
    rw [List.getElem?_drop, unchanged _ elsewhere,
      List.getElem?_append_right (Nat.le_add_right _ _), Nat.add_sub_cancel_left]
  have ownLength : (result.take front.length).length = front.length := by
    rw [List.length_take, length, List.length_append]
    omega
  refine ⟨result.take front.length, ?_, ownLength, ?_, ?_⟩
  · rw [← behind, List.take_append_drop]
  · intro position elsewhere
    by_cases within : position < front.length
    · rw [List.getElem?_take_of_lt within, unchanged position elsewhere,
        List.getElem?_append_left within]
    · rw [List.getElem?_eq_none (by omega), List.getElem?_eq_none (by omega)]
  · intro carrier member
    have within := inside carrier member
    rcases replaced carrier member with ⟨value, place, valued⟩
    rw [← List.getElem?_take_of_lt within] at place
    exact ⟨value, place, Values.of_append within valued⟩

/-- Every row of an insertion is treated. -/
theorem forall₂_of_gives_treatRows {width : Nat} {targets : List Target}
    {rows result : List (List Expr)} {before after : Traversal σ}
    (run : Gives (treatment.treatRows width targets rows) before result after) :
    List.Forall₂ (treatment.Treats width targets) rows result := by
  refine (forall₂_of_gives_mapM run).imp ?_
  rintro row treated ⟨first, last, step⟩
  split at step
  · exact absurd step not_gives_throw
  · rename_i length
    exact ⟨fun _ => Decidable.not_not.mp length, first, last, step⟩

/-- The columns of an insertion grow by the shadows, and its rows are treated. -/
theorem gives_treatColumns {insert result : Insert} {rows : List (List Expr)}
    {before after : Traversal σ} (brings : insert.rows? = some rows)
    (run : Gives (treatment.treatColumns catalog table insert) before result after) :
    ∃ treated,
      result = insert.carrying
          (insert.columns ++ shadows (treatment.targets catalog table insert.columns)) treated ∧
        List.Forall₂
          (treatment.Treats insert.columns.length
            (treatment.targets catalog table insert.columns))
          rows treated := by
  rcases Insert.source_of_rows? brings with
    ⟨recursive, ctes, explicitRow, order, tail, source⟩
  simp only [treatColumns, source] at run
  by_cases bare : insert.columns.isEmpty = true
  · rw [if_pos bare, gives_bind_iff] at run
    rcases run with ⟨_, _, refused, _⟩
    exact absurd refused not_gives_throw
  rw [if_neg bare] at run
  by_cases untouched : (treatment.targets catalog table insert.columns).isEmpty = true
  · simp only [untouched, if_true] at run
    rcases gives_pure_iff.mp run with ⟨rfl, _⟩
    rw [List.isEmpty_iff.mp untouched]
    refine ⟨rows, ?_, ?_⟩
    · rw [shadows, List.filterMap_nil, List.append_nil, Insert.carrying_self brings]
    · refine List.forall₂_same.mpr ?_
      intro row _
      exact ⟨fun touched => absurd rfl touched, before, before, rfl⟩
  · simp only [untouched, Bool.false_eq_true, if_false, gives_bind_iff, gives_pure_iff] at run
    rcases run with ⟨treated, middle, rowsRun, rfl, rfl⟩
    refine ⟨treated, ?_, forall₂_of_gives_treatRows rowsRun⟩
    simp only [Insert.carrying, source]

/--
An insertion of literals into a protected table, walked through with a treatment:
its columns grow by the shadows, its rows are treated, and they are rows of
literals again.
-/
theorem walkInsert_treats {visitor : Visitor σ}
    (hook : visitor.insert = treatment.treatInsert catalog)
    (constant : ∀ {rule literal value before after},
      Gives (treatment.value rule literal) before value after → value.literal?.isSome = true)
    {insert result : Insert} {rows : List (List Expr)} (ofLiterals : insert.OfLiterals rows)
    (named : insert.table.last? = some table) (protects : catalog.isProtected table = true)
    {before after : Traversal σ} (run : Gives (walkInsert visitor insert) before result after) :
    ∃ treated,
      result = insert.carrying
          (insert.columns ++ shadows (treatment.targets catalog table insert.columns)) treated ∧
        result.OfLiterals treated ∧
          List.Forall₂
            (treatment.Treats insert.columns.length
              (treatment.targets catalog table insert.columns))
            rows treated := by
  rcases gives_walkInsert run with ⟨visited, middle, visit, unchanged⟩
  rw [hook, treatInsert] at visit
  simp only [named, protects, Bool.not_true, Bool.false_eq_true, if_false, gives_bind_iff]
    at visit
  rcases visit with ⟨treatedInsert, last, columnsRun, kept⟩
  rcases gives_treatColumns ofLiterals.brings columnsRun with ⟨treated, rfl, rowsTreated⟩
  have literals : ∀ row ∈ treated, ∀ expr ∈ row, expr.literal?.isSome = true := by
    intro row member
    rcases List.mem_iff_getElem?.mp member with ⟨index, place⟩
    rcases exists_getElem?_of_forall₂ rowsTreated.flip place with
      ⟨original, originalPlace, _, _, _, rowRun⟩
    have originalMember := List.mem_of_getElem? originalPlace
    exact treatRow_literals constant (ofLiterals.literals original originalMember) rowRun
  have treatedLiterals := ofLiterals.carrying
    (insert.columns ++ shadows (treatment.targets catalog table insert.columns)) literals
  rw [treatedLiterals.conflict] at kept
  rcases gives_pure_iff.mp kept with ⟨rfl, _⟩
  rcases unchanged treated treatedLiterals with rfl
  exact ⟨treated, rfl, treatedLiterals, rowsTreated⟩

/-! ## Statements about walks -/

/-- What is said of walks holds of the values of a treatment. -/
def Obeys (logic : Walk.Logic σ) (treatment : Treatment σ) : Prop :=
  ∀ rule literal, logic.holds (fun _ => True) (treatment.value rule literal)

namespace Obeys

variable {logic : Walk.Logic σ} {treatment : Treatment σ}

theorem valueOf (obeys : treatment.Obeys logic) (statement : String) (rule : ColumnRule)
    (expr : Option Expr) :
    logic.holds (fun _ => True) (treatment.valueOf statement rule expr) := by
  unfold Treatment.valueOf
  split
  · exact obeys rule _
  · exact logic.throw _

theorem row (obeys : treatment.Obeys logic) (targets : List Target) (row : List Expr) :
    logic.holds (fun _ => True) (treatment.treatRow targets row) := by
  refine logic.foldlM (fun row target => ?_) row targets
  refine logic.bind (obeys.valueOf _ _ _) fun value _ => ?_
  split
  · exact logic.pure trivial
  · exact logic.pure trivial

theorem rows (obeys : treatment.Obeys logic) (width : Nat) (targets : List Target)
    (rows : List (List Expr)) :
    logic.holds (fun _ => True) (treatment.treatRows width targets rows) := by
  refine logic.mapM (fun row => ?_) rows
  split
  · exact logic.throw _
  · exact obeys.row targets row

theorem columns (obeys : treatment.Obeys logic) (table : String) (insert : Insert) :
    logic.holds (fun _ => True) (treatment.treatColumns catalog table insert) := by
  unfold treatColumns
  refine logic.refuseIf (insert.columns.isEmpty = true) (.query .columnsRequired) ?_
  by_cases idle : (treatment.targets catalog table insert.columns).isEmpty = true
  · simp only [idle, if_true]
    exact logic.pure trivial
  · simp only [idle]
    cases source : insert.source with
    | none =>
        exact logic.pure trivial
    | some query =>
        cases query with
        | mk recursive ctes body order tail =>
            cases body with
            | values explicitRow rows =>
                exact logic.bind (obeys.rows _ _ rows) fun _ _ => logic.pure trivial
            | _ => exact logic.throw _

theorem assignment (obeys : treatment.Obeys logic) (table : String) (assignment : Assignment) :
    logic.holds (fun _ => True) (treatment.treatAssignment catalog table assignment) := by
  unfold treatAssignment
  split
  · rename_i names written
    exact logic.refuseIf
      ((names.any fun name =>
        ((name.last?.bind (catalog.rule? table)).bind treatment.carriage?).isSome) = true)
      (.query (.literalRequired "UPDATE" treatment.kind)) (logic.pure trivial)
  · split
    · exact logic.pure trivial
    · split
      · exact logic.pure trivial
      · refine logic.bind (obeys.valueOf _ _ _) fun value _ => ?_
        split
        · exact logic.pure trivial
        · exact logic.pure trivial

theorem assignments (obeys : treatment.Obeys logic) (table : String)
    (assignments : List Assignment) :
    logic.holds (fun _ => True) (treatment.treatAssignments catalog table assignments) :=
  logic.bind (logic.mapM (obeys.assignment table) assignments) fun _ _ => logic.pure trivial

theorem insertion (obeys : treatment.Obeys logic) (insert : Insert) :
    logic.holds (fun _ => True) (treatment.treatInsert catalog insert) := by
  unfold treatInsert
  split
  · exact logic.pure trivial
  · split
    · exact logic.pure trivial
    · refine logic.bind (obeys.columns _ insert) fun insert _ => ?_
      split
      · exact logic.bind (obeys.assignments _ _) fun _ _ => logic.pure trivial
      · exact logic.pure trivial

theorem alteration (obeys : treatment.Obeys logic) (update : Update) :
    logic.holds (fun _ => True) (treatment.treatUpdate catalog update) := by
  unfold treatUpdate
  split
  · split
    · exact logic.pure trivial
    · split
      · exact logic.pure trivial
      · exact logic.bind (obeys.assignments _ _) fun _ _ => logic.pure trivial
  · exact logic.pure trivial

end Obeys

section Keeping

variable {related : Traversal σ → Traversal σ → Prop} [Steady related] {treatment : Treatment σ}

/-- A treatment whose values keep a relation between states. -/
def Keeps (related : Traversal σ → Traversal σ → Prop) (treatment : Treatment σ) : Prop :=
  ∀ rule literal, Walk.Keeps related (treatment.value rule literal)

theorem Keeps.obeys (keeps : treatment.Keeps related) :
    treatment.Obeys (Walk.Keeps.logic related) :=
  fun rule literal _ _ _ run => ⟨keeps rule literal run, trivial⟩

theorem Keeps.insertion (keeps : treatment.Keeps related) (insert : Insert) :
    Walk.Keeps related (treatment.treatInsert catalog insert) :=
  fun _ _ _ run => (keeps.obeys.insertion insert run).1

theorem Keeps.alteration (keeps : treatment.Keeps related) (update : Update) :
    Walk.Keeps related (treatment.treatUpdate catalog update) :=
  fun _ _ _ run => (keeps.obeys.alteration update run).1

end Keeping

end Treatment

end ColumnVeil
