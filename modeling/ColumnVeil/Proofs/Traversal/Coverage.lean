import ColumnVeil.Proofs.Traversal.Meeting

/-!
# Coverage

The walk through a statement that changes data is a walk through its relations, its values, its
conditions and what it returns, as far as `Statement.spots` lists them.  Before it begins, the
visitor may have put other values in the place of literals.  So every spot of the statement is a
literal, or the visitor meets it and all that is inside it.
-/

namespace ColumnVeil

open Sql

variable {σ α : Type} {visitor : Visitor σ} {scope : Scope}

/-- Every spot is a literal or one of some others. -/
def Spot.Spares (spots others : List Spot) : Prop :=
  ∀ spot ∈ spots, spot.IsLiteral ∨ spot ∈ others

namespace Visitor

/-- An attentive visitor that replaces only literals before it walks through a change. -/
structure Thorough (visitor : Visitor σ) : Prop where
  attentive : visitor.Attentive
  insert : ∀ insert, Walk.Stays Unrelated
    (fun visited => ∀ scope, Spot.Spares (insert.spots scope) (visited.spots scope))
    (visitor.insert insert)
  update : ∀ update, Walk.Stays Unrelated
    (fun visited => ∀ scope, Spot.Spares (update.spots scope) (visited.spots scope))
    (visitor.update update)

/-- Every spot is a literal, or the visitor meets it and makes one of some others of it. -/
def Covers (visitor : Visitor σ) (spots results : List Spot) : Prop :=
  ∀ spot ∈ spots, spot.IsLiteral ∨ ∃ newSpot ∈ results, visitor.Meets spot newSpot

end Visitor

/-- The name under which a target comes into scope, if it has one, and its table. -/
def targetNames (table reference : Option String) : List (String × String) :=
  table.toList.flatMap fun table => reference.toList.map fun reference => (reference, table)

/-- The target of a statement comes into scope if it has names. -/
theorem gives_target_iff {table reference : Option String} {next : Walk σ α}
    {before after : Traversal σ} {result : α} :
    Gives (do
        if let some table := table then
          if let some reference := reference then Walk.addTable reference table
        next) before result after ↔
      Gives next { before with scope := before.scope.addAll (targetNames table reference) }
        result after := by
  cases table with
  | none =>
      rfl
  | some table =>
      cases reference with
      | none =>
          rfl
      | some reference =>
          simp [gives_bind_iff, targetNames, Scope.addAll]

/-- The row that was to be inserted comes into scope if its table has a name. -/
theorem gives_excluded_iff {table : Option String} {next : Walk σ α}
    {before after : Traversal σ} {result : α} :
    Gives (do
        if let some table := table then Walk.addTable "excluded" table
        next) before result after ↔
      Gives next { before with scope := before.scope.addAll (table.toList.map ("excluded", ·)) }
        result after := by
  cases table with
  | none =>
      rfl
  | some table =>
      simp [gives_bind_iff, Scope.addAll]

/-- The name by which an insertion refers to its target. -/
def Sql.Insert.reference? (insert : Insert) : Option String :=
  match insert.aliasName with
  | some aliasName => some aliasName.normal
  | none => insert.table.last?

theorem Sql.Insert.targetNames_eq (insert : Insert) :
    targetNames insert.table.last? insert.reference? = insert.names := by
  rw [targetNames, reference?, names]
  cases insert.table.last? with
  | none => rfl
  | some table => cases insert.aliasName <;> rfl

namespace Visitor.Attentive

theorem assignments (attentive : visitor.Attentive) (assignments : List Assignment) :
    Walk.Here scope
      (fun results => visitor.MeetsAll (Assignment.spots scope assignments)
        (Assignment.spots scope results))
      (walkAssignments visitor assignments) := by
  rw [walkAssignments]
  induction assignments with
  | nil =>
      exact .pure .nil
  | cons assignment rest inductionHypothesis =>
      rw [List.mapM_cons]
      refine .bind (?first : Walk.Here scope (fun result => visitor.Meets
        (.expr scope .plain assignment.value) (.expr scope .plain result.value)) _) ?rest
      case first =>
        exact (attentive.expr .plain assignment.value).bind fun _ met => .pure met.meets
      case rest =>
        exact fun _ met => inductionHypothesis.bind fun _ others => .pure (.cons met others)

/-- What is returned reaches the client, and leaves what it left before. -/
theorem returning (attentive : visitor.Attentive) (items : Option (List SelectItem))
    {before after : Traversal σ} {result : Option (List SelectItem)}
    (frame : before.scope.returnsRows = true)
    (run : Gives (walkReturning visitor items) before result after) :
    after.scope = SelectItem.leave before.scope true (items.getD []) ∧
      visitor.MeetsAll (SelectItem.spotsReturned before.scope items)
        (SelectItem.spotsReturned before.scope result) ∧
        ∀ scope, SelectItem.leave scope true (result.getD []) =
          SelectItem.leave scope true (items.getD []) := by
  cases items with
  | none =>
      rcases gives_pure_iff.mp run with ⟨rfl, rfl⟩
      exact ⟨rfl, .nil, fun _ => rfl⟩
  | some items =>
      simp only [walkReturning, gives_bind_iff, gives_pure_iff, Walk.gives_scope_iff] at run
      rcases run with ⟨_, _, ⟨rfl, rfl⟩, results, last, walk, rfl, rfl⟩
      rw [frame] at walk
      exact attentive.projection true items walk

/-- A walk through other queries gives no rows of values. -/
theorem rows?_of_gives {reaches : Bool} {query result : Query} {before after : Traversal σ}
    (run : Gives (walkQuery visitor reaches query) before result after)
    (rowless : query.rows? = none) : result.rows? = none := by
  rcases query with ⟨recursive, ctes, body, order, tail⟩
  simp only [walkQuery, gives_bind_iff, gives_pure_iff, Walk.gives_inFrame_iff] at run
  rcases run with ⟨newCtes, middle, ctesRun, last, ⟨newBody, ordered, bodyRun, newOrder, _,
    orderRun, rfl, rfl⟩, rfl⟩
  cases body with
  | select select =>
      rcases gives_bind_iff.mp bodyRun with ⟨newSelect, _, -, wrapped⟩
      rcases gives_pure_iff.mp wrapped with ⟨rfl, -⟩
      rfl
  | parenthesized query =>
      rcases gives_bind_iff.mp bodyRun with ⟨newQuery, _, -, wrapped⟩
      rcases gives_pure_iff.mp wrapped with ⟨rfl, -⟩
      rfl
  | values explicitRow rows => cases rowless
  | _ => exact absurd bodyRun not_gives_throw

theorem source (attentive : visitor.Attentive) (source : Option Query) :
    Walk.Here scope
      (fun result => visitor.MeetsAll (source.toList.flatMap (Query.spotsOfSource scope))
        (result.toList.flatMap (Query.spotsOfSource scope)))
      (walkSource visitor source) := by
  unfold walkSource
  split
  · exact .pure .nil
  · rename_i recursive ctes explicitRow rows order tail
    refine (attentive.rows rows).bind fun _ met => .pure ?_
    simpa [Query.spotsOfSource, Query.rows?] using Met.all met
  · rename_i query other
    have rowless : query.rows? = none := by
      unfold Query.rows?
      split
      · exact (other _ _ _ _ _ _ rfl).elim
      · rfl
    intro before after result here run
    simp only [gives_bind_iff, gives_pure_iff] at run
    rcases run with ⟨newQuery, last, walk, rfl, rfl⟩
    rcases attentive.subquery query here walk with ⟨kept, met⟩
    refine ⟨kept, ?_⟩
    simp only [Option.toList_some, List.flatMap_singleton, Query.spotsOfSource, rowless,
      rows?_of_gives walk rowless]
    exact .cons met .nil

/-- The scope in which conflicts are settled behind some scope. -/
theorem conflict (attentive : visitor.Attentive) (reference table : Option String)
    (rule : ConflictRule) {before after : Traversal σ} {result : ConflictRule}
    (run : Gives (walkConflict visitor reference table rule) before result after)
    {settling : Scope}
    (same : settling = (((before.scope.push false).addAll
      (table.toList.map ("excluded", ·))).push false).addAll (targetNames table reference)) :
    visitor.MeetsAll (rule.spots settling) (result.spots settling) := by
  subst same
  cases rule with
  | assign words assignments condition =>
      rcases Walk.gives_inFrame_iff.mp run with ⟨outer, outerRun, rfl⟩
      rcases Walk.gives_inFrame_iff.mp (gives_excluded_iff.mp outerRun) with ⟨inner, innerRun, rfl⟩
      have settled := gives_target_iff.mp innerRun
      simp only [gives_bind_iff, gives_pure_iff] at settled
      rcases settled with ⟨newAssignments, middle, assignmentsRun, newCondition, last,
        conditionRun, rfl, rfl⟩
      rcases attentive.assignments assignments rfl assignmentsRun with ⟨kept, assigned⟩
      rcases attentive.option .plain condition kept conditionRun with ⟨-, conditioned⟩
      exact assigned.append (Met.all conditioned)
  | none =>
      rcases gives_pure_iff.mp run with ⟨rfl, rfl⟩
      exact .nil
  | words text =>
      rcases gives_pure_iff.mp run with ⟨rfl, rfl⟩
      exact .nil

/-- The visitor meets the spots of an insertion as it has been treated. -/
theorem insertion (attentive : visitor.Attentive) {insert result : Insert}
    {before after : Traversal σ} (run : Gives (walkInsert visitor insert) before result after) :
    ∃ visited middle, Gives (visitor.insert insert) before visited middle ∧
      visitor.MeetsAll (visited.spots middle.scope) (result.spots middle.scope) := by
  simp only [walkInsert, gives_bind_iff, gives_pure_iff] at run
  rcases run with
    ⟨visited, middle, visit, sourced, last, inner, conflict, ended, settled, rfl, rfl⟩
  refine ⟨visited, middle, visit, ?_⟩
  rcases Walk.gives_inFrame_iff.mp inner with ⟨inside, frameRun, rfl⟩
  have content := gives_target_iff.mp frameRun
  simp only [gives_bind_iff, gives_pure_iff] at content
  rcases content with ⟨source, between, sourceRun, returning, reached, returningRun, rfl, rfl⟩
  have entered : (middle.scope.push true).addAll
      (targetNames visited.table.last? visited.reference?) = visited.inside middle.scope := by
    rw [visited.targetNames_eq, Insert.inside]
  rcases attentive.source visited.source entered sourceRun with ⟨kept, sources⟩
  have frame : between.scope.returnsRows = true := by
    rw [kept, Insert.inside, Scope.returnsRows_addAll, Scope.returnsRows_push]
  rcases attentive.returning visited.returning frame returningRun with ⟨left, returned, leaves⟩
  rw [kept] at left returned
  -- What is returned is known by its output names when conflicts are settled.
  have behind : reached.scope.pop = visited.returned middle.scope := congrArg Scope.pop left
  have conflicts : visitor.MeetsAll (visited.conflict.spots (visited.settling middle.scope))
      (conflict.spots (visited.settling middle.scope)) := by
    refine attentive.conflict _ _ _ settled ?_
    rw [Insert.settling, behind]
    exact congrArg (Scope.addAll _) visited.targetNames_eq.symm
  have settling : ({ visited with source, returning, conflict } : Insert).settling middle.scope =
      visited.settling middle.scope := by
    simp only [Insert.settling, Insert.returned, Insert.inside, Insert.names, leaves]
  rw [Insert.spots, Insert.spots, settling]
  exact (sources.append returned).append conflicts

/-- Relations are entered one behind the other, and so are their constraints later. -/
theorem exists_enterAll_cons {tables : TableWithJoins} {rest : List TableWithJoins}
    {own : TableWithJoins × Walk σ TableWithJoins}
    {others : List TableWithJoins × Walk σ (List TableWithJoins)}
    {before first entered : Traversal σ}
    (run : Gives (ColumnVeil.enter visitor tables) before own first)
    (restRun : Gives (ColumnVeil.enterAll visitor rest) first others entered) :
    ∃ entry, Gives (ColumnVeil.enterAll visitor (tables :: rest)) before entry entered ∧
      ∀ {start between joined newTables newRest}, Gives own.2 start newTables between →
        Gives others.2 between newRest joined →
          Gives entry.2 start (newTables :: newRest) joined := by
  refine ⟨_, gives_bind_iff.mpr ⟨own, first, run, gives_bind_iff.mpr
    ⟨others, entered, restRun, gives_pure_iff.mpr ⟨rfl, rfl⟩⟩⟩, ?_⟩
  intro start between joined newTables newRest ownRun othersRun
  simp only [gives_bind_iff, gives_pure_iff]
  exact ⟨newTables, between, ownRun, newRest, joined, othersRun, rfl, rfl⟩

/-- A walk through an update behind its treatment, taken apart behind its relations, their
constraints, its assignments and its condition. -/
structure Altered (visitor : Visitor σ) (update result : Update)
    (entry : List TableWithJoins × Walk σ (List TableWithJoins))
    (before entered joined assigned chosen after : Traversal σ) : Prop where
  enters : Gives (ColumnVeil.enterAll visitor update.allRelations) before entry entered
  joins : Gives entry.2 entered result.allRelations joined
  assigns : Gives (walkAssignments visitor update.assignments) joined result.assignments assigned
  chooses : Gives (walkOption visitor .plain update.condition) assigned result.condition chosen
  returns : Gives (walkReturning visitor update.returning) chosen result.returning after

theorem exists_altered {update result : Update} {before after : Traversal σ}
    (run : Gives (walkUpdate visitor update) before result after) :
    ∃ visited middle entry entered joined assigned chosen last,
      Gives (visitor.update update) before visited middle ∧
        Altered visitor visited result entry { middle with scope := middle.scope.push true }
          entered joined assigned chosen last := by
  simp only [walkUpdate, gives_bind_iff, Walk.gives_inFrame_iff] at run
  rcases run with ⟨visited, middle, visit, inside, ⟨own, first, enterRun, run⟩, rfl⟩
  cases further : visited.relations with
  | none =>
      simp only [further, gives_bind_iff, gives_pure_iff] at run
      rcases run with ⟨_, _, ⟨rfl, rfl⟩, newTable, joined, ownRun, run⟩
      simp only [gives_bind_iff, gives_pure_iff] at run
      rcases run with ⟨_, _, ⟨rfl, rfl⟩, newAssignments, assigned, assignmentsRun, newCondition,
        chosen, conditionRun, newReturning, last, returningRun, rfl, rfl⟩
      have nothing {state : Traversal σ} :
          Gives (pure [] : Walk σ (List TableWithJoins)) state [] state :=
        gives_pure_iff.mpr ⟨rfl, rfl⟩
      have noFurther : Gives (ColumnVeil.enterAll visitor []) first ([], pure []) first :=
        gives_pure_iff.mpr ⟨rfl, rfl⟩
      rcases exists_enterAll_cons enterRun noFurther with ⟨entry, enters, later⟩
      refine ⟨visited, middle, entry, first, joined, assigned, chosen, last, visit, ?_, ?_,
        assignmentsRun, conditionRun, returningRun⟩
      · rw [Update.allRelations, further]
        exact enters
      · exact later ownRun nothing
  | some relations =>
      simp only [further, gives_bind_iff, gives_pure_iff] at run
      rcases run with ⟨rest, entered, restRun, _, _, ⟨rfl, rfl⟩, newTable, between, ownRun, run⟩
      simp only [gives_bind_iff, gives_pure_iff] at run
      rcases run with ⟨newRest, joined, othersRun, _, _, ⟨rfl, rfl⟩, newAssignments, assigned,
        assignmentsRun, newCondition, chosen, conditionRun, newReturning, last, returningRun,
        rfl, rfl⟩
      rcases exists_enterAll_cons enterRun restRun with ⟨entry, enters, later⟩
      refine ⟨visited, middle, entry, entered, joined, assigned, chosen, last, visit, ?_, ?_,
        assignmentsRun, conditionRun, returningRun⟩
      · rw [Update.allRelations, further]
        exact enters
      · exact later ownRun othersRun

/-- The visitor meets the spots of an update as it has been treated. -/
theorem alteration (attentive : visitor.Attentive) {update result : Update}
    {before after : Traversal σ} (run : Gives (walkUpdate visitor update) before result after) :
    ∃ visited middle, Gives (visitor.update update) before visited middle ∧
      visitor.MeetsAll (visited.spots middle.scope) (result.spots middle.scope) := by
  rcases exists_altered run with
    ⟨visited, middle, entry, entered, joined, assigned, chosen, last, visit, altered⟩
  refine ⟨visited, middle, visit, ?_⟩
  rcases attentive.enterAll _ altered.enters with ⟨enterScope, enterMeets⟩
  rcases enterMeets.later (visited.inside middle.scope) enterScope altered.joins with
    ⟨joinedScope, names, sources, constraints⟩
  rcases attentive.assignments _ joinedScope altered.assigns with ⟨assignedScope, assignments⟩
  rcases attentive.option .plain _ assignedScope altered.chooses with ⟨kept, condition⟩
  have frame : chosen.scope.returnsRows = true := by
    rw [kept, Update.inside, Scope.returnsRows_addAll, Scope.returnsRows_push]
  have returned := (attentive.returning _ frame altered.returns).2.1
  rw [kept] at returned
  have inside : result.inside middle.scope = visited.inside middle.scope := by
    rw [Update.inside, Update.inside, names]
  rw [Update.spots, Update.spots, inside]
  exact (((sources.append constraints).append assignments).append (Met.all condition)).append
    returned

/-- The condition of a deletion and what it returns are met behind its relations. -/
theorem deletionBehind (attentive : visitor.Attentive) {delete result : Delete}
    {relations : List TableWithJoins} {further : Option (List TableWithJoins)}
    {entered after : Traversal σ} (reached : entered.scope = delete.inside scope)
    (names : TableWithJoins.namesAll (relations ++ further.getD []) =
      TableWithJoins.namesAll delete.allRelations)
    (sources : visitor.MeetsAll
      (TableWithJoins.sourcesAll (scope.push true) delete.allRelations)
      (TableWithJoins.sourcesAll (scope.push true) (relations ++ further.getD [])))
    (run : Gives (do
      let condition ← walkOption visitor .plain delete.condition
      let returning ← walkReturning visitor delete.returning
      return { delete with relations, further, condition, returning }) entered result after) :
    visitor.MeetsAll (delete.spots scope) (result.spots scope) := by
  simp only [gives_bind_iff, gives_pure_iff] at run
  rcases run with ⟨condition, chosen, conditionRun, returning, _, returningRun, rfl, rfl⟩
  rcases attentive.option .plain _ reached conditionRun with ⟨kept, conditioned⟩
  have frame : chosen.scope.returnsRows = true := by
    rw [kept, Delete.inside, Scope.returnsRows_addAll, Scope.returnsRows_push]
  have returned := (attentive.returning _ frame returningRun).2.1
  rw [kept] at returned
  have inside : ({ delete with relations, further, condition, returning } : Delete).inside scope =
      delete.inside scope := congrArg (Scope.addAll _) names
  rw [Delete.spots, Delete.spots, inside]
  exact (sources.append (Met.all conditioned)).append returned

/-- The visitor meets the spots of a deletion. -/
theorem deletion (attentive : visitor.Attentive) {delete result : Delete}
    {before after : Traversal σ} (run : Gives (walkDelete visitor delete) before result after) :
    visitor.MeetsAll (delete.spots before.scope) (result.spots before.scope) := by
  simp only [walkDelete, gives_bind_iff, Walk.gives_inFrame_iff] at run
  rcases run with ⟨inside, ⟨relations, first, enterRun, run⟩, rfl⟩
  rcases attentive.enterAll _ enterRun with ⟨firstScope, firstMeets⟩
  cases others : delete.further with
  | none =>
      simp only [others] at run
      refine attentive.deletionBehind ?_ ?_ ?_ run
      · rw [firstScope, Delete.inside, Delete.allRelations, others, Option.getD_none,
          List.append_nil]
      · rw [Delete.allRelations, others, Option.getD_none, List.append_nil, List.append_nil,
          firstMeets.sameNames]
      · rw [Delete.allRelations, others, Option.getD_none, List.append_nil, List.append_nil]
        exact firstMeets.met
  | some further =>
      simp only [others] at run
      rcases gives_bind_iff.mp run with ⟨rest, entered, restRun, run⟩
      rcases attentive.enterAll _ restRun with ⟨restScope, restMeets⟩
      rw [firstScope] at restScope restMeets
      refine attentive.deletionBehind ?_ ?_ ?_ run
      · rw [restScope, Delete.inside, Delete.allRelations, others, Option.getD_some,
          TableWithJoins.namesAll_append, Scope.addAll_append]
      · rw [Delete.allRelations, others, Option.getD_some, Option.getD_some,
          TableWithJoins.namesAll_append, TableWithJoins.namesAll_append, firstMeets.sameNames,
          restMeets.sameNames]
      · rw [Delete.allRelations, others, Option.getD_some, Option.getD_some,
          TableWithJoins.sourcesAll_append, TableWithJoins.sourcesAll_append,
          firstMeets.sameNames]
        exact firstMeets.met.append restMeets.met

end Visitor.Attentive

namespace Visitor

/-- What is met behind a treatment that spares everything but literals. -/
theorem Covers.of_spares {spots visited results : List Spot} (spares : Spot.Spares spots visited)
    (meets : visitor.MeetsAll visited results) : visitor.Covers spots results := by
  intro spot member
  rcases spares spot member with literal | still
  · exact Or.inl literal
  · rcases List.getElem?_of_mem still with ⟨index, place⟩
    rcases exists_getElem?_of_forall₂ meets place with ⟨newSpot, newPlace, met⟩
    exact Or.inr ⟨newSpot, List.mem_of_getElem? newPlace, met⟩

theorem Covers.of_meets {spots results : List Spot} (meets : visitor.MeetsAll spots results) :
    visitor.Covers spots results :=
  .of_spares (fun _ member => Or.inr member) meets

/-- In a statement that is walked through, every spot is a literal or is met. -/
theorem Thorough.statement (thorough : visitor.Thorough) (statement : Statement)
    {before after : Traversal σ} {result : Statement}
    (run : Gives (walkStatement visitor statement) before result after) :
    visitor.Covers (statement.spots before.scope) (result.spots before.scope) := by
  induction statement generalizing result after with
  | query query =>
      rcases gives_bind_iff.mp run with ⟨newQuery, _, walk, wrapped⟩
      rcases gives_pure_iff.mp wrapped with ⟨rfl, rfl⟩
      exact .of_meets (.cons (.query walk) .nil)
  | insert insert =>
      rcases gives_bind_iff.mp run with ⟨newInsert, _, walk, wrapped⟩
      rcases gives_pure_iff.mp wrapped with ⟨rfl, rfl⟩
      rcases thorough.attentive.insertion walk with ⟨visited, middle, visit, meets⟩
      rcases thorough.insert insert visit with ⟨kept, -, spares⟩
      rw [kept] at meets
      exact .of_spares (spares before.scope) meets
  | update update =>
      rcases gives_bind_iff.mp run with ⟨newUpdate, _, walk, wrapped⟩
      rcases gives_pure_iff.mp wrapped with ⟨rfl, rfl⟩
      rcases thorough.attentive.alteration walk with ⟨visited, middle, visit, meets⟩
      rcases thorough.update update visit with ⟨kept, -, spares⟩
      rw [kept] at meets
      exact .of_spares (spares before.scope) meets
  | delete delete =>
      rcases gives_bind_iff.mp run with ⟨newDelete, _, walk, wrapped⟩
      rcases gives_pure_iff.mp wrapped with ⟨rfl, rfl⟩
      exact .of_meets (thorough.attentive.deletion walk)
  | explain words statement inductionHypothesis =>
      rcases gives_bind_iff.mp run with ⟨newStatement, _, walk, wrapped⟩
      rcases gives_pure_iff.mp wrapped with ⟨rfl, rfl⟩
      have explained := inductionHypothesis walk
      exact explained
  | definition parts =>
      intro spot member
      cases member
  | utility parts =>
      intro spot member
      cases member

end Visitor

end ColumnVeil
