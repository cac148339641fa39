import ColumnVeil.Proofs.Traversal.Attention

/-!
# Meetings

An attentive visitor comes to every spot of a query: to the relations of the query, to the
constraints of their joins and to its clauses, each in its own scope.

The main statements are a step and a run.  Where a visitor meets a spot, it meets the spots
directly inside it (`Meets.inner`); so it meets whatever has an address in it, and what it makes
of that has the same address in the result (`Meets.at?`).
-/

namespace ColumnVeil

open Sql

variable {σ : Type} {visitor : Visitor σ} {context : Context} {scope : Scope}

namespace Visitor.Attentive

/-! ## Relations -/

/-- What is met in relations that have been entered in a scope, and in the constraints of their
joins when these are walked through later. -/
structure Entering {τ : Type} (visitor : Visitor σ) (names : τ → List (String × String))
    (sources constraints : Scope → τ → List Spot) (scope : Scope) (entered : τ)
    (result : τ × Walk σ τ) : Prop where
  sameNames : names result.1 = names entered
  met : visitor.MeetsAll (sources scope entered) (sources scope result.1)
  later : ∀ shown : Scope, Walk.Here shown
    (fun result => names result = names entered ∧
      visitor.MeetsAll (sources scope entered) (sources scope result) ∧
        visitor.MeetsAll (constraints shown entered) (constraints shown result)) result.2

theorem constraint (attentive : visitor.Attentive) (constraint : JoinConstraint) :
    Walk.Here scope
      (fun result => visitor.MeetsAll (constraint.spots scope) (result.spots scope))
      (walkConstraint visitor constraint) := by
  cases constraint with
  | none =>
      exact .pure .nil
  | on condition =>
      exact (attentive.expr .ofJoin condition).bind fun _ met => .pure (.cons met.meets .nil)
  | sharing columns =>
      exact (attentive.unread "JOIN ... USING").bind fun _ met => .pure (.cons met .nil)
  | natural =>
      exact (attentive.unread "NATURAL JOIN").bind fun _ met => .pure (.cons met .nil)

mutual

/-- A relation with everything joined to it brings its names into scope.  The visitor meets the
queries and functions in it, and later its constraints. -/
theorem enter (attentive : visitor.Attentive) (tables : TableWithJoins)
    {before after : Traversal σ} {result : TableWithJoins × Walk σ TableWithJoins}
    (run : Gives (ColumnVeil.enter visitor tables) before result after) :
    after.scope = before.scope.addAll tables.names ∧
      Entering visitor TableWithJoins.names TableWithJoins.sources TableWithJoins.constraints
        before.scope tables result := by
  cases tables with
  | mk relation joins =>
      simp only [ColumnVeil.enter, gives_bind_iff, gives_pure_iff] at run
      rcases run with ⟨entered, middle, relationRun, others, last, joinsRun, rfl, rfl⟩
      rcases attentive.enterFactor relation relationRun with ⟨relationScope, relationMeets⟩
      rcases attentive.enterJoins joins joinsRun with ⟨joinsScope, joinsMeets⟩
      rw [relationScope] at joinsMeets
      refine ⟨?_, ?_, ?_, fun shown => ?_⟩
      · rw [joinsScope, relationScope]
        exact (Scope.addAll_append before.scope _ _).symm
      · rw [TableWithJoins.names, relationMeets.sameNames, joinsMeets.sameNames,
          TableWithJoins.names]
      · rw [TableWithJoins.sources, TableWithJoins.sources, relationMeets.sameNames]
        exact relationMeets.met.append joinsMeets.met
      · refine (relationMeets.later shown).bind ?_
        rintro newRelation ⟨relationNames, relationSources, relationConstraints⟩
        refine (joinsMeets.later shown).bind ?_
        rintro newJoins ⟨joinsNames, joinsSources, joinsConstraints⟩
        refine .pure ⟨?_, ?_, relationConstraints.append joinsConstraints⟩
        · rw [TableWithJoins.names, relationNames, joinsNames, TableWithJoins.names]
        · rw [TableWithJoins.sources, TableWithJoins.sources, relationNames]
          exact relationSources.append joinsSources
termination_by structural tables

theorem enterJoins (attentive : visitor.Attentive) (joins : List Join)
    {before after : Traversal σ} {result : List Join × Walk σ (List Join)}
    (run : Gives (ColumnVeil.enterJoins visitor joins) before result after) :
    after.scope = before.scope.addAll (Join.namesAll joins) ∧
      Entering visitor Join.namesAll Join.sourcesAll Join.constraintsAll before.scope joins
        result := by
  cases joins with
  | nil =>
      rcases gives_pure_iff.mp run with ⟨rfl, rfl⟩
      exact ⟨rfl, rfl, .nil, fun _ => .pure ⟨rfl, .nil, .nil⟩⟩
  | cons join rest =>
      cases join with
      | mk words relation matching constraint =>
          simp only [ColumnVeil.enterJoins, gives_bind_iff, gives_pure_iff] at run
          rcases run with ⟨entered, middle, relationRun, others, last, restRun, rfl, rfl⟩
          rcases attentive.enterFactor relation relationRun with ⟨relationScope, relationMeets⟩
          rcases attentive.enterJoins rest restRun with ⟨restScope, restMeets⟩
          rw [relationScope] at restMeets
          refine ⟨?_, ?_, ?_, fun shown => ?_⟩
          · rw [restScope, relationScope]
            exact (Scope.addAll_append before.scope _ _).symm
          · rw [Join.namesAll, relationMeets.sameNames, restMeets.sameNames, Join.namesAll]
          · rw [Join.sourcesAll, Join.sourcesAll, relationMeets.sameNames]
            exact relationMeets.met.append restMeets.met
          · refine (relationMeets.later shown).bind ?_
            rintro newRelation ⟨relationNames, relationSources, relationConstraints⟩
            refine (attentive.constraint constraint).bind fun newConstraint constrained => ?_
            refine (restMeets.later shown).bind ?_
            rintro newRest ⟨restNames, restSources, restConstraints⟩
            refine .pure ⟨?_, ?_, (relationConstraints.append constrained).append restConstraints⟩
            · rw [Join.namesAll, relationNames, restNames, Join.namesAll]
            · rw [Join.sourcesAll, Join.sourcesAll, relationNames]
              exact relationSources.append restSources
termination_by structural joins

theorem enterFactor (attentive : visitor.Attentive) (factor : TableFactor)
    {before after : Traversal σ} {result : TableFactor × Walk σ TableFactor}
    (run : Gives (ColumnVeil.enterFactor visitor factor) before result after) :
    after.scope = before.scope.addAll factor.names ∧
      Entering visitor TableFactor.names TableFactor.sources TableFactor.constraints before.scope
        factor result := by
  cases factor with
  | table name arguments aliasName tail =>
      rcases gives_enterTable_iff.mp run with ⟨rfl, rfl⟩
      exact ⟨rfl, rfl, .nil, fun _ => .pure ⟨rfl, .nil, .nil⟩⟩
  | derived isLateral query aliasName =>
      simp only [ColumnVeil.enterFactor, gives_bind_iff, gives_pure_iff, gives_addAlias_iff] at run
      rcases run with ⟨newQuery, middle, queryRun, _, last, rfl, rfl, rfl⟩
      rcases attentive.subquery query rfl queryRun with ⟨kept, met⟩
      rw [kept]
      exact ⟨rfl, rfl, .cons met .nil, fun _ => .pure ⟨rfl, .cons met .nil, .nil⟩⟩
  | nestedJoin inner aliasName =>
      simp only [ColumnVeil.enterFactor, gives_bind_iff, gives_pure_iff, gives_addAlias_iff] at run
      rcases run with ⟨entered, middle, innerRun, _, last, rfl, rfl, rfl⟩
      rcases attentive.enter inner innerRun with ⟨innerScope, innerMeets⟩
      refine ⟨?_, ?_, innerMeets.met, fun shown => ?_⟩
      · rw [innerScope]
        exact (Scope.addAll_append before.scope _ _).symm
      · rw [TableFactor.names, innerMeets.sameNames, TableFactor.names]
      · refine (innerMeets.later shown).bind ?_
        rintro newInner ⟨names, sources, constraints⟩
        refine .pure ⟨?_, sources, constraints⟩
        rw [TableFactor.names, names, TableFactor.names]
  | function parts aliasName tail =>
      simp only [ColumnVeil.enterFactor, gives_bind_iff, gives_pure_iff, gives_addAlias_iff] at run
      rcases run with ⟨_, middle, rfl, _, last, refused, rfl, rfl⟩
      rcases attentive.unread "table function" rfl refused with ⟨kept, met⟩
      exact ⟨kept, rfl, .cons met .nil, fun _ => .pure ⟨rfl, .cons met .nil, .nil⟩⟩
termination_by structural factor

end

theorem enterAll (attentive : visitor.Attentive) (relations : List TableWithJoins)
    {before after : Traversal σ}
    {result : List TableWithJoins × Walk σ (List TableWithJoins)}
    (run : Gives (ColumnVeil.enterAll visitor relations) before result after) :
    after.scope = before.scope.addAll (TableWithJoins.namesAll relations) ∧
      Entering visitor TableWithJoins.namesAll TableWithJoins.sourcesAll
        TableWithJoins.constraintsAll before.scope relations result := by
  induction relations generalizing before after result with
  | nil =>
      rcases gives_pure_iff.mp run with ⟨rfl, rfl⟩
      exact ⟨rfl, rfl, .nil, fun _ => .pure ⟨rfl, .nil, .nil⟩⟩
  | cons tables rest inductionHypothesis =>
      simp only [ColumnVeil.enterAll, gives_bind_iff, gives_pure_iff] at run
      rcases run with ⟨entered, middle, tablesRun, others, last, restRun, rfl, rfl⟩
      rcases attentive.enter tables tablesRun with ⟨tablesScope, tablesMeets⟩
      rcases inductionHypothesis restRun with ⟨restScope, restMeets⟩
      rw [tablesScope] at restMeets
      refine ⟨?_, ?_, ?_, fun shown => ?_⟩
      · rw [restScope, tablesScope]
        exact (Scope.addAll_append before.scope _ _).symm
      · rw [TableWithJoins.namesAll, tablesMeets.sameNames, restMeets.sameNames,
          TableWithJoins.namesAll]
      · rw [TableWithJoins.sourcesAll, TableWithJoins.sourcesAll, tablesMeets.sameNames]
        exact tablesMeets.met.append restMeets.met
      · refine (tablesMeets.later shown).bind ?_
        rintro newTables ⟨tablesNames, tablesSources, tablesConstraints⟩
        refine (restMeets.later shown).bind ?_
        rintro newRest ⟨restNames, restSources, restConstraints⟩
        refine .pure ⟨?_, ?_, tablesConstraints.append restConstraints⟩
        · rw [TableWithJoins.namesAll, tablesNames, restNames, TableWithJoins.namesAll]
        · rw [TableWithJoins.sourcesAll, TableWithJoins.sourcesAll, tablesNames]
          exact tablesSources.append restSources

/-! ## Queries -/

/-- An item that is walked through still shows what it showed. -/
theorem showing (attentive : visitor.Attentive) {reaches : Bool} {shown newShown : Expr}
    {before after : Traversal σ}
    (run : Gives (walkExpr visitor { selectBody := reaches } shown) before newShown after)
    (aliasName : Option Ident) (scope : Scope) :
    scope.showing reaches newShown aliasName = scope.showing reaches shown aliasName := by
  have same := resolve_of_gives_walkExpr attentive.tame rfl (Steadfast.unmarked _) run scope
    .ofSelectBody
  exact Scope.showing_congr same reaches aliasName

/-- A projection leaves the scope that the syntax says, and still does so when it has been
walked through. -/
theorem projection (attentive : visitor.Attentive) (reaches : Bool) (items : List SelectItem)
    {before after : Traversal σ} {results : List SelectItem}
    (run : Gives (walkProjection visitor reaches items) before results after) :
    after.scope = SelectItem.leave before.scope reaches items ∧
      visitor.MeetsAll (SelectItem.spots before.scope reaches items)
        (SelectItem.spots before.scope reaches results) ∧
        ∀ scope, SelectItem.leave scope reaches results = SelectItem.leave scope reaches items := by
  induction items generalizing before after results with
  | nil =>
      rcases gives_pure_iff.mp run with ⟨rfl, rfl⟩
      exact ⟨rfl, .nil, fun _ => rfl⟩
  | cons item rest inductionHypothesis =>
      cases item with
      | expr shown =>
          rw [walkProjection] at run
          rcases gives_item run with ⟨newShown, middle, walk, others, last, restRun, rfl, rfl⟩
          rw [Clause.context_ofProjection] at walk
          rcases attentive.expr _ shown rfl walk with ⟨kept, met⟩
          rcases inductionHypothesis restRun with ⟨restScope, restMeets, leaves⟩
          rw [kept] at restScope restMeets
          refine ⟨restScope, ?_, fun scope => ?_⟩
          · rw [SelectItem.spots, SelectItem.spots, attentive.showing walk]
            exact .cons met.meets restMeets
          · rw [SelectItem.leave, SelectItem.leave, attentive.showing walk, leaves]
      | aliased shown aliasName =>
          rw [walkProjection] at run
          rcases gives_item run with ⟨newShown, middle, walk, others, last, restRun, rfl, rfl⟩
          rw [Clause.context_ofProjection] at walk
          rcases attentive.expr _ shown rfl walk with ⟨kept, met⟩
          rcases inductionHypothesis restRun with ⟨restScope, restMeets, leaves⟩
          rw [kept] at restScope restMeets
          refine ⟨restScope, ?_, fun scope => ?_⟩
          · rw [SelectItem.spots, SelectItem.spots, attentive.showing walk]
            exact .cons met.meets restMeets
          · rw [SelectItem.leave, SelectItem.leave, attentive.showing walk, leaves]
      | wildcard qualifier =>
          simp only [walkProjection, gives_bind_iff, gives_pure_iff] at run
          rcases run with ⟨_, middle, starRun, others, last, restRun, rfl, rfl⟩
          rcases attentive.tame.wildcard starRun with ⟨kept, -, -⟩
          rcases inductionHypothesis restRun with ⟨restScope, restMeets, leaves⟩
          rw [kept] at restScope restMeets
          exact ⟨restScope, .cons (.star starRun) restMeets, leaves⟩

/-- The visitor meets the spots of a selection, clause by clause. -/
theorem select (attentive : visitor.Attentive) {reaches : Bool} (select : Select)
    {before after : Traversal σ} {result : Select}
    (run : Gives (walkSelect visitor select) before result after)
    (frame : before.scope.returnsRows = reaches) :
    after.scope = (QueryBody.select select).leave before.scope reaches ∧
      visitor.MeetsAll (select.spots before.scope reaches) (result.spots before.scope reaches) ∧
        ∀ scope, (QueryBody.select result).leave scope reaches =
          (QueryBody.select select).leave scope reaches := by
  cases select with
  | mk lead projection target relations views condition groups grouping having tail =>
      simp only [walkSelect, gives_bind_iff, gives_pure_iff, Walk.gives_scope_iff] at run
      rcases run with ⟨entered, first, enterRun, _, _, ⟨rfl, rfl⟩, newProjection, shown,
        projectionRun, newRelations, joined, constraintsRun, newCondition, chosen, conditionRun,
        newGroups, grouped, groupsRun, newHaving, last, havingRun, rfl, rfl⟩
      rcases attentive.enterAll relations enterRun with ⟨enterScope, enterMeets⟩
      rw [enterScope, Scope.returnsRows_addAll, frame] at projectionRun
      rcases attentive.projection reaches projection projectionRun with
        ⟨shownScope, projectionMeets, leaves⟩
      rw [enterScope] at shownScope projectionMeets
      rcases enterMeets.later _ shownScope constraintsRun with
        ⟨joinedScope, names, sources, constraints⟩
      rcases attentive.option .plain condition joinedScope conditionRun with
        ⟨chosenScope, conditionMet⟩
      rcases attentive.exprs .ofGroupBy groups chosenScope groupsRun with
        ⟨groupedScope, groupsMet⟩
      rcases attentive.option .ofGroupBy having groupedScope havingRun with
        ⟨lastScope, havingMet⟩
      refine ⟨lastScope, ?_, fun scope => ?_⟩
      · simp only [Select.spots, names, leaves]
        exact ((((sources.append projectionMeets).append constraints).append
          (Met.all conditionMet)).append (Met.all groupsMet)).append (Met.all havingMet)
      · simp only [QueryBody.leave, names, leaves]

theorem rows (attentive : visitor.Attentive) (rows : List (List Expr)) :
    Walk.Here scope
      (fun results => List.Forall₂ (Met visitor scope .plain) rows.flatten results.flatten)
      (walkRows visitor rows) := by
  induction rows with
  | nil =>
      exact .pure .nil
  | cons row rest inductionHypothesis =>
      rw [walkRows]
      exact (attentive.exprs .plain row).bind fun _ first =>
        inductionHypothesis.bind fun _ others => .pure (List.rel_append first others)

theorem ctes (attentive : visitor.Attentive) (ctes : List Cte) :
    Walk.Here scope
      (fun results => visitor.MeetsAll (ctes.map fun cte => .query scope false cte.query)
        (results.map fun cte => .query scope false cte.query))
      (walkCtes visitor ctes) := by
  induction ctes with
  | nil =>
      exact .pure .nil
  | cons cte rest inductionHypothesis =>
      cases cte with
      | mk aliasName materialized query origin =>
          rw [walkCtes]
          exact (attentive.subquery query).bind fun _ met =>
            inductionHypothesis.bind fun _ others => .pure (.cons met others)

theorem order (attentive : visitor.Attentive) (items : List OrderItem) :
    Walk.Here scope
      (fun results => visitor.MeetsAll (items.map fun item => .expr scope .ofOrderBy item.expr)
        (results.map fun item => .expr scope .ofOrderBy item.expr))
      (walkOrder visitor items) := by
  induction items with
  | nil =>
      exact .pure .nil
  | cons item rest inductionHypothesis =>
      cases item with
      | mk expr direction =>
          rw [walkOrder]
          exact (attentive.expr .ofOrderBy expr).bind fun _ met =>
            inductionHypothesis.bind fun _ others => .pure (.cons met.meets others)

mutual

/-- The visitor meets the spots directly inside a query, which leaves what it left before. -/
theorem insideQuery (attentive : visitor.Attentive) {reaches : Bool} (query : Query)
    {before after : Traversal σ} {result : Query}
    (run : Gives (walkQuery visitor reaches query) before result after) :
    visitor.MeetsAll (query.spots before.scope reaches) (result.spots before.scope reaches) ∧
      ∀ scope, result.leave scope reaches = query.leave scope reaches := by
  cases query with
  | mk recursive ctes body order tail =>
      simp only [walkQuery, gives_bind_iff, gives_pure_iff, Walk.gives_inFrame_iff] at run
      rcases run with ⟨newCtes, middle, ctesRun, last, ⟨newBody, ordered, bodyRun, newOrder, _,
        orderRun, rfl, rfl⟩, rfl⟩
      rcases attentive.ctes ctes rfl ctesRun with ⟨ctesScope, ctesMeet⟩
      rcases attentive.insideBody body bodyRun rfl with ⟨bodyScope, bodyMeets, leaves⟩
      simp only [ctesScope] at bodyScope bodyMeets
      rcases attentive.order order bodyScope orderRun with ⟨-, orderMeets⟩
      refine ⟨?_, fun scope => ?_⟩
      · rw [Query.spots, Query.spots, leaves]
        exact (ctesMeet.append bodyMeets).append orderMeets
      · rw [Query.leave, Query.leave, leaves]
termination_by structural query

theorem insideBody (attentive : visitor.Attentive) {reaches : Bool} (body : QueryBody)
    {before after : Traversal σ} {result : QueryBody}
    (run : Gives (walkBody visitor reaches body) before result after)
    (frame : before.scope.returnsRows = reaches) :
    after.scope = body.leave before.scope reaches ∧
      visitor.MeetsAll (body.spots before.scope reaches) (result.spots before.scope reaches) ∧
        ∀ scope, result.leave scope reaches = body.leave scope reaches := by
  cases body with
  | select select =>
      simp only [walkBody, gives_bind_iff, gives_pure_iff] at run
      rcases run with ⟨newSelect, last, selectRun, rfl, rfl⟩
      exact attentive.select select selectRun frame
  | parenthesized query =>
      simp only [walkBody, gives_bind_iff, gives_pure_iff] at run
      rcases run with ⟨newQuery, last, queryRun, rfl, rfl⟩
      exact ⟨(walkQuery_moves attentive.tame reaches query (Steadfast.unmarked _) queryRun).1,
        .cons (.query queryRun) .nil, (attentive.insideQuery query queryRun).2⟩
  | combination left operator right =>
      simp [walkBody] at run
  | values explicitRow rows =>
      simp only [walkBody, gives_bind_iff, gives_pure_iff] at run
      rcases run with ⟨newRows, last, rowsRun, rfl, rfl⟩
      rcases attentive.rows rows rfl rowsRun with ⟨kept, rowsMet⟩
      exact ⟨kept, Met.all rowsMet, fun _ => rfl⟩
  | table name =>
      simp [walkBody] at run
  | change parts =>
      simp [walkBody] at run
termination_by structural body

end

end Visitor.Attentive

/-! ## Spots inside spots -/

namespace Visitor.Meets

/-- Where an attentive visitor meets a spot, it meets the spots directly inside it, one by
one. -/
theorem inner (attentive : visitor.Attentive) {spot result : Spot}
    (meets : visitor.Meets spot result) : visitor.MeetsAll spot.inner result.inner := by
  cases meets with
  | expr run => exact (attentive.insideExpr _ _ rfl run).2
  | star run => exact .nil
  | query run => exact (attentive.insideQuery _ run).1
  | unread run => exact .nil

/-- An attentive visitor meets whatever has an address in a spot that it meets, and what it makes
of that has the same address in the result. -/
theorem at? (attentive : visitor.Attentive) {spot result found : Spot}
    (meets : visitor.Meets spot result) {path : List Nat} (here : spot.at? path = some found) :
    ∃ newFound, result.at? path = some newFound ∧ visitor.Meets found newFound := by
  induction path generalizing spot result with
  | nil =>
      cases here
      exact ⟨result, rfl, meets⟩
  | cons step path inductionHypothesis =>
      rcases Spot.at?_cons_eq_some_iff.mp here with ⟨next, nextHere, later⟩
      rcases exists_getElem?_of_forall₂ (meets.inner attentive) nextHere with
        ⟨newNext, newHere, nextMeets⟩
      rcases inductionHypothesis nextMeets later with ⟨newFound, newLater, foundMeets⟩
      exact ⟨newFound, Spot.at?_cons_eq_some_iff.mpr ⟨newNext, newHere, newLater⟩, foundMeets⟩

end Visitor.Meets

end ColumnVeil
