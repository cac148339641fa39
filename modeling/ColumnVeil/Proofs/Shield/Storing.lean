import ColumnVeil.Proofs.Shield.Assignment

/-!
# Assignments through the whole chain

Three shields treat the assignments of a statement.  The blind index and the join put assignments
to shadows behind those that they find, then encryption puts payloads in the place of literals.
Each treatment with the walk that follows it is a pass (`Treatment.Passes`).

The main statement says what is assigned in the end, in terms of the client's own literals.
A protected column that is assigned anything but a literal, or together with other columns,
is refused.
-/

namespace ColumnVeil

open Sql

variable {σ α : Type} {catalog : Catalog} {table : String}

/-- The partners of a list in two parts are in two parts. -/
theorem exists_append_of_forall₂ {β : Type} {related : α → β → Prop} {first second : List α}
    {results : List β} (all : List.Forall₂ related (first ++ second) results) :
    ∃ firstResults secondResults, results = firstResults ++ secondResults ∧
      List.Forall₂ related first firstResults ∧ List.Forall₂ related second secondResults :=
  ⟨results.take first.length, results.drop first.length,
    (List.take_append_drop first.length results).symm,
    (List.forall₂_take_append results first second all.flip).flip,
    (List.forall₂_drop_append results first second all.flip).flip⟩

/-! ## One pass over a statement -/

/-- A pass makes one list of assignments into another: the assignments are treated, and a
walk follows. -/
def Treatment.Passes (treatment : Treatment σ) (catalog : Catalog) (table : String)
    (assignments result : List Assignment) : Prop :=
  ∃ treated, treatment.AssignsAll catalog table assignments treated ∧
    List.Forall₂ Assignment.Echoes treated result

section Pass

variable {treatment : Treatment σ} {visitor : Visitor σ} {assignments : List Assignment}

theorem Treatment.exists_assignsAll_of_treatInsert
    (protects : ∀ rule, (treatment.carriage? rule).isSome = true → rule.isProtected = true)
    {insert visited : Insert} {before after : Traversal σ} {words : String}
    {condition : Option Expr} (named : insert.table.last? = some table)
    (settles : insert.conflict = .assign words assignments condition)
    (run : Gives (treatment.treatInsert catalog insert) before visited after) :
    ∃ treated, treatment.AssignsAll catalog table assignments treated ∧
      visited.table = insert.table ∧ visited.conflict = .assign words treated condition := by
  simp only [treatInsert, named] at run
  split at run
  · rename_i unprotected
    rcases gives_pure_iff.mp run with ⟨rfl, -⟩
    exact ⟨assignments, assignsAll_self protects (by simpa using unprotected) assignments, rfl,
      settles⟩
  rcases gives_bind_iff.mp run with ⟨columned, _, columnsRun, run⟩
  rcases treatColumns_spares columnsRun with ⟨columns, source, rfl, -⟩
  simp only [settles, gives_bind_iff, gives_pure_iff] at run
  rcases run with ⟨treated, _, assignmentsRun, rfl, -⟩
  exact ⟨treated, assignsAll_of_gives assignmentsRun, rfl, rfl⟩

theorem Treatment.exists_assignsAll_of_treatUpdate
    (protects : ∀ rule, (treatment.carriage? rule).isSome = true → rule.isProtected = true)
    {update visited : Update} {before after : Traversal σ} {name : Name} {arguments : List Part}
    {aliasName : Option TableAlias} {tail : List Part} (named : name.last? = some table)
    (alters : update.table.relation = .table name arguments aliasName tail)
    (run : Gives (treatment.treatUpdate catalog update) before visited after) :
    ∃ treated, treatment.AssignsAll catalog table update.assignments treated ∧
      visited.table = update.table ∧ visited.assignments = treated := by
  simp only [treatUpdate, alters, named] at run
  split at run
  · rename_i unprotected
    rcases gives_pure_iff.mp run with ⟨rfl, -⟩
    exact ⟨_, assignsAll_self protects (by simpa using unprotected) _, rfl, rfl⟩
  · simp only [gives_bind_iff, gives_pure_iff] at run
    rcases run with ⟨treated, _, assignmentsRun, rfl, -⟩
    exact ⟨treated, assignsAll_of_gives assignmentsRun, rfl, rfl⟩

/-- A table that is entered stays what it is. -/
theorem relation_of_enter {tables walked : TableWithJoins}
    {entry : TableWithJoins × Walk σ TableWithJoins} {before entered start last : Traversal σ}
    {name : Name} {arguments : List Part} {aliasName : Option TableAlias} {tail : List Part}
    (isTable : tables.relation = .table name arguments aliasName tail)
    (run : Gives (enter visitor tables) before entry entered)
    (joined : Gives entry.2 start walked last) :
    walked.relation = .table name arguments aliasName tail := by
  rcases tables with ⟨relation, joins⟩
  cases isTable
  simp only [enter, gives_bind_iff, gives_pure_iff] at run
  rcases run with ⟨factor, _, factorRun, _, _, -, rfl, rfl⟩
  have inner : factor.2 = pure (.table name arguments aliasName tail) := by
    cases named : name.last? with
    | none =>
        simp only [enterFactor, named] at factorRun
        rcases gives_pure_iff.mp factorRun with ⟨rfl, -⟩
        rfl
    | some table =>
        simp only [enterFactor, named, gives_bind_iff, gives_pure_iff] at factorRun
        rcases factorRun with ⟨_, _, -, rfl, -⟩
        rfl
  simp only [inner, gives_bind_iff, gives_pure_iff] at joined
  rcases joined with ⟨_, _, ⟨rfl, rfl⟩, _, _, -, rfl, -⟩
  rfl

/-- The walk through an insertion goes through its assignments. -/
theorem exists_walkAssignments_of_walkInsert {insert result : Insert}
    {before after : Traversal σ} (run : Gives (walkInsert visitor insert) before result after) :
    ∃ visited middle, Gives (visitor.insert insert) before visited middle ∧
      result.table = visited.table ∧ ∀ words assignments condition,
        visited.conflict = .assign words assignments condition →
          ∃ walked newCondition first last,
            Gives (walkAssignments visitor assignments) first walked last ∧
              result.conflict = .assign words walked newCondition := by
  simp only [walkInsert, gives_bind_iff, gives_pure_iff] at run
  rcases run with
    ⟨visited, middle, visit, sourced, last, inner, conflict, ended, settled, rfl, rfl⟩
  rcases Walk.gives_inFrame_iff.mp inner with ⟨inside, frameRun, rfl⟩
  have content := gives_target_iff.mp frameRun
  simp only [gives_bind_iff, gives_pure_iff] at content
  rcases content with ⟨source, between, -, returning, reached, -, rfl, rfl⟩
  refine ⟨visited, middle, visit, rfl, ?_⟩
  intro words assignments condition settles
  simp only [settles] at settled
  rcases Walk.gives_inFrame_iff.mp settled with ⟨outer, outerRun, -⟩
  rcases Walk.gives_inFrame_iff.mp (gives_excluded_iff.mp outerRun) with ⟨inner, innerRun, -⟩
  have assigned := gives_target_iff.mp innerRun
  simp only [gives_bind_iff, gives_pure_iff] at assigned
  rcases assigned with ⟨walked, _, assignmentsRun, newCondition, _, -, rfl, -⟩
  exact ⟨walked, newCondition, _, _, assignmentsRun, rfl⟩

/-- The walk through an update goes through its assignments. -/
theorem exists_walkAssignments_of_walkUpdate {update result : Update}
    {before after : Traversal σ} (run : Gives (walkUpdate visitor update) before result after) :
    ∃ visited middle, Gives (visitor.update update) before visited middle ∧
      (∃ first last, Gives (walkAssignments visitor visited.assignments) first
        result.assignments last) ∧
      ∀ {name arguments aliasName tail},
        visited.table.relation = .table name arguments aliasName tail →
          result.table.relation = .table name arguments aliasName tail := by
  simp only [walkUpdate, gives_bind_iff, Walk.gives_inFrame_iff] at run
  rcases run with ⟨visited, middle, visit, inside, ⟨own, first, enterRun, run⟩, rfl⟩
  refine ⟨visited, middle, visit, ?_⟩
  cases further : visited.relations with
  | none =>
      simp only [further, gives_bind_iff, gives_pure_iff] at run
      rcases run with ⟨_, _, ⟨rfl, rfl⟩, newTable, _, ownRun, run⟩
      simp only [gives_bind_iff, gives_pure_iff] at run
      rcases run with ⟨_, _, ⟨rfl, rfl⟩, walked, _, assignmentsRun, _, _, -, _, _, -, rfl, -⟩
      exact ⟨⟨_, _, assignmentsRun⟩, fun isTable => relation_of_enter isTable enterRun ownRun⟩
  | some relations =>
      simp only [further, gives_bind_iff, gives_pure_iff] at run
      rcases run with ⟨_, _, -, _, _, ⟨rfl, rfl⟩, newTable, _, ownRun, run⟩
      simp only [gives_bind_iff, gives_pure_iff] at run
      rcases run with ⟨_, _, -, _, _, ⟨rfl, rfl⟩, walked, _, assignmentsRun, _, _, -, _, _, -,
        rfl, -⟩
      exact ⟨⟨_, _, assignmentsRun⟩, fun isTable => relation_of_enter isTable enterRun ownRun⟩

/-- The walk through a statement is a pass over its assignments. -/
theorem exists_pass (attentive : visitor.Attentive)
    (insert : visitor.insert = treatment.treatInsert catalog)
    (update : visitor.update = treatment.treatUpdate catalog)
    (protects : ∀ rule, (treatment.carriage? rule).isSome = true → rule.isProtected = true)
    {statement result : Statement} {before after : Traversal σ}
    (assigns : statement.assigns? = some (table, assignments))
    (run : Gives (walkStatement visitor statement) before result after) :
    ∃ walked, result.assigns? = some (table, walked) ∧
      treatment.Passes catalog table assignments walked := by
  induction statement generalizing result after with
  | update change =>
      rcases gives_bind_iff.mp run with ⟨newUpdate, _, walk, wrapped⟩
      rcases gives_pure_iff.mp wrapped with ⟨rfl, -⟩
      simp only [Statement.assigns?] at assigns
      split at assigns
      · rename_i name arguments aliasName tail isTable
        simp only [Option.map_eq_some_iff, Prod.mk.injEq] at assigns
        rcases assigns with ⟨_, named, rfl, rfl⟩
        rcases exists_walkAssignments_of_walkUpdate walk with
          ⟨visited, middle, visit, ⟨_, _, assignmentsRun⟩, keeps⟩
        rw [update] at visit
        rcases Treatment.exists_assignsAll_of_treatUpdate protects named isTable visit with
          ⟨treated, treats, sameTable, rfl⟩
        refine ⟨newUpdate.assignments, ?_, visited.assignments, treats,
          echoes_of_walkAssignments attentive assignmentsRun⟩
        rw [Statement.assigns?, keeps (sameTable ▸ isTable)]
        simp [named]
      · cases assigns
  | insert insertion =>
      rcases gives_bind_iff.mp run with ⟨newInsert, _, walk, wrapped⟩
      rcases gives_pure_iff.mp wrapped with ⟨rfl, -⟩
      simp only [Statement.assigns?] at assigns
      split at assigns
      · rename_i words assignments condition settles
        simp only [Option.map_eq_some_iff, Prod.mk.injEq] at assigns
        rcases assigns with ⟨_, named, rfl, rfl⟩
        rcases exists_walkAssignments_of_walkInsert walk with
          ⟨visited, middle, visit, sameTable, conflicts⟩
        rw [insert] at visit
        rcases Treatment.exists_assignsAll_of_treatInsert protects named settles visit with
          ⟨treated, treats, treatedTable, treatedConflict⟩
        rcases conflicts words treated condition treatedConflict with
          ⟨walked, newCondition, _, _, assignmentsRun, newConflict⟩
        refine ⟨walked, ?_, treated, treats,
          echoes_of_walkAssignments attentive assignmentsRun⟩
        rw [Statement.assigns?, newConflict]
        simp [sameTable, treatedTable, named]
      · cases assigns
  | explain words explained inductionHypothesis =>
      rcases gives_bind_iff.mp run with ⟨newStatement, _, walk, wrapped⟩
      rcases gives_pure_iff.mp wrapped with ⟨rfl, -⟩
      have walked := inductionHypothesis assigns walk
      exact walked
  | _ => cases assigns

end Pass

/-! ## What a pass does -/

namespace Treatment

variable {treatment : Treatment σ} {carried : ColumnRule → Option α} {shadow : α → String}
  {becomes : α → Bytes → Bytes → Prop} {assignments walked : List Assignment}

/-- A pass of a treatment with shadows keeps the assignments and adds those to shadows. -/
theorem Passes.appends
    (carries : ∀ rule, treatment.carriage? rule =
      (carried rule).map fun load => .append (shadow load))
    (stores : ∀ {rule load literal value before after}, carried rule = some load →
      Gives (treatment.value rule literal) before value after →
        Stored rule (becomes load) literal value)
    (passes : treatment.Passes catalog table assignments walked) :
    ∃ own added, walked = own ++ added ∧ List.Forall₂ Assignment.Echoes assignments own ∧
      List.Forall₂ (Shadows shadow becomes) (catalog.assigners table carried assignments)
        added := by
  rcases passes with ⟨treated, assigns, echoes⟩
  rcases assigns.appends carries stores with ⟨shadows, rfl, stored⟩
  rcases exists_append_of_forall₂ echoes with ⟨own, added, rfl, ownEchoes, addedEchoes⟩
  refine ⟨own, added, rfl, ownEchoes, (forall₂_comp stored addedEchoes).imp ?_⟩
  rintro carrier sent ⟨put, ⟨target, literal, found, stores⟩, echo⟩
  refine ⟨by rw [echo.target, target], literal, found, ?_⟩
  rw [echo.value (literal?_stored stores)]
  exact stores

/-- A pass succeeds only if a treated column is assigned on its own, and a literal. -/
theorem Passes.literal (passes : treatment.Passes catalog table assignments walked)
    {assignment : Assignment} (member : assignment ∈ assignments)
    (concerned : ∃ name ∈ assignment.names, ∃ rule,
      catalog.named? table name = some rule ∧ (treatment.carriage? rule).isSome = true) :
    (∃ name, assignment.target = .column name) ∧ assignment.value.literal?.isSome = true := by
  rcases passes with ⟨_, ⟨treated, each, -⟩, -⟩
  rcases List.mem_iff_getElem?.mp member with ⟨index, place⟩
  rcases exists_getElem?_of_forall₂ each place with ⟨result, -, assigns⟩
  exact assigns.literal concerned

/-- The shadows of a table carry nothing themselves. -/
theorem Shadows.idle {β : Type} {held : ColumnRule → Option β} (apart : catalog.ShadowsApart table)
    (protects : ∀ rule load, held rule = some load → rule.isProtected = true)
    (isShadow : ∀ rule load, carried rule = some load → shadow load ∈ rule.shadows)
    {carrier : Option Literal × ColumnRule × α} {added : Assignment}
    (member : carrier ∈ catalog.assigners table carried assignments)
    (shadows : Shadows shadow becomes carrier added) :
    ∀ rule, catalog.assigned? table added = some rule → held rule = none := by
  intro rule assigned
  rcases Catalog.exists_rule_of_mem_assigners member with ⟨column, ruled, carries⟩
  rw [Catalog.assigned?_of_target shadows.target] at assigned
  exact apart.idle protects ruled (isShadow _ _ carries) assigned

/-- Nothing is carried for assignments to shadows. -/
theorem Shadows.assigners_eq_nil {β : Type} {held : ColumnRule → Option β}
    (apart : catalog.ShadowsApart table)
    (protects : ∀ rule load, held rule = some load → rule.isProtected = true)
    (isShadow : ∀ rule load, carried rule = some load → shadow load ∈ rule.shadows)
    {added : List Assignment}
    (all : List.Forall₂ (Shadows shadow becomes) (catalog.assigners table carried assignments)
      added) : catalog.assigners table held added = [] := by
  rw [Catalog.assigners, List.filterMap_eq_nil_iff]
  intro assignment member
  rcases List.mem_iff_getElem?.mp member with ⟨index, place⟩
  rcases exists_getElem?_of_forall₂ all.flip place with ⟨carrier, carrierPlace, shadows⟩
  rw [Catalog.assigner?_eq_none_iff]
  exact shadows.idle apart protects isShadow (List.mem_of_getElem? carrierPlace)

/-- What is assigned to shadows is not encrypted. -/
theorem Shadows.kept (apart : catalog.ShadowsApart table)
    (isShadow : ∀ rule load, carried rule = some load → shadow load ∈ rule.shadows)
    {added sent : List Assignment}
    (all : List.Forall₂ (Shadows shadow becomes) (catalog.assigners table carried assignments)
      added) (kept : List.Forall₂ (Kept catalog table) added sent) :
    List.Forall₂ (Shadows shadow becomes) (catalog.assigners table carried assignments) sent := by
  have listed := (List.forall₂_and_left _ _).mpr ⟨fun carrier member => member, all⟩
  refine (forall₂_comp listed kept).imp ?_
  rintro carrier result ⟨put, ⟨member, shadows⟩, keeps⟩
  have same := keeps.unchanged (shadows.idle apart
    (fun _ _ => ColumnRule.isProtected_of_encryptionKey) isShadow member) shadows.literal
  rcases shadows with ⟨target, literal, found, stored⟩
  exact ⟨by rw [keeps.target, target], literal, found, by rw [same]; exact stored⟩

end Treatment

/-! ## The three passes -/

/--
What is assigned in place of the assignments of a client: the assignments with payloads for
the literals of encrypted columns, then one to the shadow of each indexed column and one to
the shadow of each joined column, all of them from the client's own literals.
-/
structure Assigned (catalog : Catalog) (table : String)
    (assignments own indexes joins : List Assignment) : Prop where
  kept : List.Forall₂ (Kept catalog table) assignments own
  indexed : List.Forall₂ (Treatment.Shadows BlindIndex.column IndexShadow.Digests)
    (catalog.assigners table ColumnRule.blindIndex assignments) indexes
  joined : List.Forall₂ (Treatment.Shadows id fun _ => JoinShadow.Digests catalog)
    (catalog.assigners table ColumnRule.joinShadow assignments) joins

section Passes

variable {assignments first second third : List Assignment}

theorem IndexShadow.exists_added (passes : treatment.Passes catalog table assignments first) :
    ∃ own added, first = own ++ added ∧ List.Forall₂ Assignment.Echoes assignments own ∧
      List.Forall₂ (Treatment.Shadows BlindIndex.column Digests)
        (catalog.assigners table ColumnRule.blindIndex assignments) added :=
  passes.appends (fun _ => rfl) stored_of_gives

theorem JoinShadow.exists_added
    (passes : (treatment catalog).Passes catalog table assignments first) :
    ∃ own added, first = own ++ added ∧ List.Forall₂ Assignment.Echoes assignments own ∧
      List.Forall₂ (Treatment.Shadows id fun _ => Digests catalog)
        (catalog.assigners table ColumnRule.joinShadow assignments) added :=
  passes.appends (fun _ => rfl) fun _ run => stored_of_gives run

theorem Encryption.kept_of_passes (passes : treatment.Passes catalog table assignments first) :
    List.Forall₂ (Kept catalog table) assignments first := by
  rcases passes with ⟨treated, assigns, echoes⟩
  refine (forall₂_comp (kept_of_assignsAll assigns) echoes).imp ?_
  rintro assignment sent ⟨put, keeps, echo⟩
  exact keeps.echo echo

/-- Three passes assign what is stored for the client's own literals. -/
theorem assigned_of_passes (apart : catalog.ShadowsApart table)
    (index : IndexShadow.treatment.Passes catalog table assignments first)
    (join : (JoinShadow.treatment catalog).Passes catalog table first second)
    (encrypt : Encryption.treatment.Passes catalog table second third) :
    ∃ own indexes joins, third = own ++ indexes ++ joins ∧
      Assigned catalog table assignments own indexes joins := by
  have indexShadow : ∀ (rule : ColumnRule) (index : BlindIndex), rule.blindIndex = some index →
      index.column ∈ rule.shadows := by
    intro rule index indexed
    simp [ColumnRule.shadows, indexed]
  have joinShadow : ∀ (rule : ColumnRule) (shadow : String), rule.joinShadow = some shadow →
      id shadow ∈ rule.shadows := by
    intro rule shadow joined
    simp [ColumnRule.shadows, joined]
  rcases IndexShadow.exists_added index with ⟨firstOwn, firstIndexes, rfl, firstEchoes, indexed⟩
  rcases JoinShadow.exists_added join with ⟨secondOwn, secondJoins, rfl, secondEchoes, joined⟩
  rcases exists_append_of_forall₂ secondEchoes with
    ⟨middleOwn, middleIndexes, rfl, ownEchoes, indexEchoes⟩
  rcases exists_append_of_forall₂ (Encryption.kept_of_passes encrypt) with
    ⟨front, joins, rfl, frontKept, joinsKept⟩
  rcases exists_append_of_forall₂ frontKept with ⟨own, indexes, rfl, ownKept, indexesKept⟩
  refine ⟨own, indexes, joins, rfl, ?_, ?_, ?_⟩
  · refine (forall₂_comp (forall₂_comp firstEchoes ownEchoes) ownKept).imp ?_
    rintro assignment sent ⟨later, ⟨earlier, echo, again⟩, keeps⟩
    exact (keeps.of_echoes again).of_echoes echo
  · -- The values of an index are literals, which the walk behind the joins leaves alone.
    have kept : List.Forall₂ (Kept catalog table) firstIndexes indexes := by
      refine (forall₂_comp indexEchoes indexesKept).imp ?_
      rintro assignment sent ⟨later, echo, keeps⟩
      exact keeps.of_echoes echo
    exact Treatment.Shadows.kept apart indexShadow indexed kept
  · rw [Catalog.assigners_append, Assignment.Echoes.assigners firstEchoes,
      Treatment.Shadows.assigners_eq_nil apart (fun _ _ => ColumnRule.isProtected_of_joinShadow)
        indexShadow indexed, List.append_nil] at joined
    exact Treatment.Shadows.kept apart joinShadow joined joinsKept

/-- Three passes succeed only if a protected column is assigned on its own, and a literal. -/
theorem literal_of_passes
    (index : IndexShadow.treatment.Passes catalog table assignments first)
    (join : (JoinShadow.treatment catalog).Passes catalog table first second)
    (encrypt : Encryption.treatment.Passes catalog table second third)
    {assignment : Assignment} (member : assignment ∈ assignments)
    (isProtected : catalog.protectsAssigned table assignment = true) :
    (∃ name, assignment.target = .column name) ∧ assignment.value.literal?.isSome = true := by
  rcases IndexShadow.exists_added index with ⟨firstOwn, firstIndexes, rfl, firstEchoes, -⟩
  rcases JoinShadow.exists_added join with ⟨secondOwn, secondJoins, rfl, secondEchoes, -⟩
  rcases List.mem_iff_getElem?.mp member with ⟨position, place⟩
  rcases exists_getElem?_of_forall₂ firstEchoes place with ⟨middle, middlePlace, echo⟩
  have middleMember := List.mem_append_left firstIndexes (List.mem_of_getElem? middlePlace)
  rcases List.mem_iff_getElem?.mp middleMember with ⟨position, place⟩
  rcases exists_getElem?_of_forall₂ secondEchoes place with ⟨late, latePlace, again⟩
  have lateMember := List.mem_append_left secondJoins (List.mem_of_getElem? latePlace)
  -- The later passes see the same columns, and a literal exactly if the client wrote one.
  have middleNames : middle.names = assignment.names := by
    rw [Assignment.names, echo.target, Assignment.names]
  have lateNames : late.names = assignment.names := by
    rw [Assignment.names, again.target, ← Assignment.names, middleNames]
  rcases List.any_eq_true.mp isProtected with ⟨name, named, guarded⟩
  rcases (Option.any_eq_true _ _).mp guarded with ⟨rule, ruled, protection⟩
  rw [ColumnRule.isProtected, Bool.or_eq_true, Bool.or_eq_true] at protection
  rcases protection with (encrypted | indexed) | joined
  · have own := encrypt.literal lateMember
      ⟨name, lateNames ▸ named, rule, ruled, by simpa [Encryption.treatment] using encrypted⟩
    rwa [again.target, echo.target, again.literal, echo.literal] at own
  · exact index.literal member
      ⟨name, named, rule, ruled, by simpa [IndexShadow.treatment] using indexed⟩
  · have own := join.literal middleMember
      ⟨name, middleNames ▸ named, rule, ruled, by simpa [JoinShadow.treatment] using joined⟩
    rwa [echo.target, echo.literal] at own

end Passes

/-- A text that the chain accepts has gone through three passes. -/
theorem exists_passes {statements result : List Statement} {before after : ChainState}
    (accepted : Gives (catalog.chain.protect statements) before result after) {index : Nat}
    {statement : Statement} (found : statements[index]? = some statement)
    {assignments : List Assignment} (assigns : statement.assigns? = some (table, assignments)) :
    ∃ sent first second third, result[index]? = some sent ∧
      sent.assigns? = some (table, third) ∧
      IndexShadow.treatment.Passes catalog table assignments first ∧
      (JoinShadow.treatment catalog).Passes catalog table first second ∧
      Encryption.treatment.Passes catalog table second third := by
  rcases Shield.gives_protect_andThen_iff.mp accepted with ⟨_, indexRun, rest⟩
  rcases Shield.gives_protect_andThen_iff.mp rest with ⟨_, joinRun, encryptRun⟩
  simp only [JoinShadow.shield, gives_bind_iff] at joinRun
  simp only [Encryption.shield, gives_bind_iff] at encryptRun
  rcases joinRun with ⟨_, _, _, joinRun⟩
  rcases encryptRun with ⟨_, _, _, encryptRun⟩
  rcases exists_gives_walkStatement indexRun found with ⟨indexed, _, _, indexPlace, indexWalk⟩
  rcases exists_gives_walkStatement joinRun indexPlace with ⟨joined, _, _, joinPlace, joinWalk⟩
  rcases exists_gives_walkStatement encryptRun joinPlace with
    ⟨sent, _, _, sentPlace, encryptWalk⟩
  have indexProtects : ∀ rule : ColumnRule, (IndexShadow.treatment.carriage? rule).isSome = true →
      rule.isProtected = true := by
    intro rule carries
    simp_all [IndexShadow.treatment, ColumnRule.isProtected]
  have joinProtects : ∀ rule : ColumnRule,
      ((JoinShadow.treatment catalog).carriage? rule).isSome = true →
        rule.isProtected = true := by
    intro rule carries
    simp_all [JoinShadow.treatment, ColumnRule.isProtected]
  have encryptProtects : ∀ rule : ColumnRule,
      (Encryption.treatment.carriage? rule).isSome = true → rule.isProtected = true := by
    intro rule carries
    simp_all [Encryption.treatment, ColumnRule.isProtected]
  rcases exists_pass IndexShadow.attentive_visitor rfl rfl indexProtects assigns indexWalk with
    ⟨first, firstAssigns, indexPass⟩
  rcases exists_pass JoinShadow.attentive_visitor rfl rfl joinProtects firstAssigns joinWalk with
    ⟨second, secondAssigns, joinPass⟩
  rcases exists_pass Encryption.attentive_visitor rfl rfl encryptProtects secondAssigns
    encryptWalk with ⟨third, thirdAssigns, encryptPass⟩
  exact ⟨sent, first, second, third, sentPlace, thirdAssigns, indexPass, joinPass, encryptPass⟩

/--
In a text that the chain accepts, a statement that assigns to columns of a table, as an update
or where an insertion meets a row that exists already, still does so, to the same table.  It
assigns what the client does, with payloads for the literals of encrypted columns and every
other literal as it is; then the digest of the client's own literal to the shadow of each
indexed column, and then the one to the shadow of each joined column.  A text in which a
protected column is assigned anything but a literal, or together with other columns, is
refused.
-/
theorem chain_stores_assignments (catalog : Catalog) (statements : List Statement)
    (before : ChainState) (index : Nat) (statement : Statement)
    (found : statements[index]? = some statement) (table : String) (assignments : List Assignment)
    (assigns : statement.assigns? = some (table, assignments)) :
    (∀ result after, Gives (catalog.chain.protect statements) before result after →
      catalog.ShadowsApart table →
        ∃ sent own indexes joins, result[index]? = some sent ∧
          sent.assigns? = some (table, own ++ indexes ++ joins) ∧
            Assigned catalog table assignments own indexes joins) ∧
      ∀ assignment ∈ assignments, catalog.protectsAssigned table assignment = true →
        ((∃ names, assignment.target = .tuple names) ∨ assignment.value.literal? = none) →
          ((catalog.chain.protect statements).run.run before).1.isOk = false := by
  constructor
  · intro result after accepted apart
    rcases exists_passes accepted found assigns with
      ⟨sent, first, second, third, place, sends, index, join, encrypt⟩
    rcases assigned_of_passes apart index join encrypt with ⟨own, indexes, joins, rfl, assigned⟩
    exact ⟨sent, own, indexes, joins, place, sends, assigned⟩
  · intro assignment member isProtected wrong
    rw [← Bool.not_eq_true]
    intro succeeds
    rcases exists_gives_of_isOk succeeds with ⟨result, after, accepted⟩
    rcases exists_passes accepted found assigns with
      ⟨sent, first, second, third, -, -, index, join, encrypt⟩
    rcases literal_of_passes index join encrypt member isProtected with ⟨⟨name, single⟩, literal⟩
    rcases wrong with ⟨names, several⟩ | none
    · rw [single] at several
      cases several
    · rw [none] at literal
      cases literal

/-- The upsert `INSERT INTO cities (id) VALUES (7) ON CONFLICT … SET …`. -/
def upsertCity (assignments : List Assignment) : Statement :=
  .insert { intoCities ["id"] [[.value (.number "7" false)]] with
    conflict := .assign " ON CONFLICT (id) DO UPDATE SET " assignments none }

/-- The assignments `name = 'Ulm', id = 8`. -/
def renameCity : List Assignment :=
  [⟨.column [⟨"name", none⟩], .value (.string "Ulm")⟩,
    ⟨.column [⟨"id", none⟩], .value (.number "8" false)⟩]

/-- The assignment `(name, note) = …`. -/
def renameTogether : Assignment :=
  ⟨.tuple [[⟨"name", none⟩], [⟨"note", none⟩]], .value (.string "Ulm")⟩

/-- The upsert of a name is stored with an index for it, and the one that sets a name together with
a note is refused. -/
theorem renamedCity_is_stored :
    (∃ result after sent own indexes joins,
      Gives (citiesCatalog.chain.protect [upsertCity renameCity])
          (.initial { stream := fun _ => 0 }) result after ∧
        citiesCatalog.ShadowsApart "cities" ∧ result[0]? = some sent ∧
          sent.assigns? = some ("cities", own ++ indexes ++ joins) ∧
            Assigned citiesCatalog "cities" renameCity own indexes joins) ∧
      ((citiesCatalog.chain.protect [upsertCity [renameTogether]]).run.run
        (.initial { stream := fun _ => 0 })).1.isOk = false := by
  constructor
  · have accepts : ∃ result after, Gives (citiesCatalog.chain.protect [upsertCity renameCity])
        (.initial { stream := fun _ => 0 }) result after := exists_gives_of_isOk rfl
    rcases accepts with ⟨result, after, accepted⟩
    rcases (chain_stores_assignments citiesCatalog _ _ 0 _ rfl "cities" renameCity rfl).1
      result after accepted shadowsApart_citiesCatalog with
      ⟨sent, own, indexes, joins, place, sends, assigned⟩
    exact ⟨result, after, sent, own, indexes, joins, accepted, shadowsApart_citiesCatalog, place,
      sends, assigned⟩
  · exact (chain_stores_assignments citiesCatalog _ _ 0 _ rfl "cities" [renameTogether] rfl).2
      renameTogether List.mem_cons_self (by decide) (Or.inl ⟨_, rfl⟩)

end ColumnVeil
