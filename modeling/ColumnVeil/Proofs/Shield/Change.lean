import ColumnVeil.Proofs.Shield.Match
import ColumnVeil.Proofs.Shield.Subquery

/-!
# Statements that change data

What a statement that changes data says about rows stands in clauses, as in a query: the values
of an insertion and its rule for conflicts, the constraints of the joins of an update, its
assignments, conditions, and what is returned.  `Statement.standings` lists them, each with the
frames that the statement puts around it.  In an accepted statement every reference in one of
them is visited there.

A deletion lists its conditions and what it returns.  The constraints of its joins are not
walked through, and neither are the common table expressions in front of rows of values.
-/

namespace ColumnVeil

open Sql

variable {σ : Type} {visitor : Visitor σ} {catalog : Catalog}

/-- An expression of a statement with its clause, and the frames that the statement puts around
it. -/
structure Standing where
  frames : List Frame
  clause : Clause
  expr : Expr

namespace Sql

/-- The target of an insertion and what it returns are in one frame; conflicts are settled in
another one, around which stands the row that was to be inserted. -/
def ConflictRule.standings (names excluded : List (String × String)) :
    ConflictRule → List Standing
  | .assign _ assignments condition =>
      (assignments.map Assignment.value ++ condition.toList).map
        (⟨[⟨names, false⟩, ⟨excluded, false⟩], .condition, ·⟩)
  | _ => []

/-- The values of an insertion, if its source consists of rows of values. -/
def Insert.values (insert : Insert) : List Expr :=
  (insert.rows?.getD []).flatten

def Insert.standings (insert : Insert) : List Standing :=
  insert.values.map (⟨[⟨insert.names, true⟩], .projection, ·⟩) ++
    (SelectItem.exprs (insert.returning.getD [])).map (⟨[⟨insert.names, true⟩], .delivered, ·⟩) ++
    insert.conflict.standings insert.names (insert.table.last?.toList.map ("excluded", ·))

def Update.standings (update : Update) : List Standing :=
  let frame : Frame := ⟨TableWithJoins.namesAll update.allRelations, true⟩
  (TableWithJoins.conditionsAll update.allRelations).map (⟨[frame], .joining, ·⟩) ++
    (update.assignments.map Assignment.value ++ update.condition.toList).map
      (⟨[frame], .condition, ·⟩) ++
    (SelectItem.exprs (update.returning.getD [])).map (⟨[frame], .delivered, ·⟩)

def Delete.standings (delete : Delete) : List Standing :=
  let frame : Frame := ⟨TableWithJoins.namesAll delete.allRelations, true⟩
  delete.condition.toList.map (⟨[frame], .condition, ·⟩) ++
    (SelectItem.exprs (delete.returning.getD [])).map (⟨[frame], .delivered, ·⟩)

/-- The expressions of a change of data, outside the queries in it. -/
def Statement.standings : Statement → List Standing
  | .insert insertion => insertion.standings
  | .update change => change.standings
  | .delete deletion => deletion.standings
  | .explain _ explained => explained.standings
  | _ => []

/-! ## Where the expressions stand -/

theorem ConflictRule.stands (rule : ConflictRule) {scope : Scope} {frames : List Frame}
    {names excluded : List (String × String)}
    (settles : scope.frames = ⟨names, false⟩ :: ⟨excluded, false⟩ :: frames) :
    ∀ standing ∈ rule.standings names excluded,
      standing.expr.StandsIn (rule.spots scope) (standing.frames ++ frames)
        standing.clause.context := by
  intro standing member
  cases rule with
  | assign words assignments condition =>
      simp only [standings, List.map_append, List.mem_append, List.mem_map] at member
      rcases member with ⟨value, ⟨assignment, place, rfl⟩, rfl⟩ | ⟨condition, place, rfl⟩
      · exact .append_left ⟨scope, settles, List.mem_map.mpr ⟨assignment, place, rfl⟩⟩
      · exact .append_right ⟨scope, settles, List.mem_map_of_mem place⟩
  | none => cases member
  | words text => cases member

theorem Insert.stands (insert : Insert) (scope : Scope) :
    ∀ standing ∈ insert.standings,
      standing.expr.StandsIn (insert.spots scope) (standing.frames ++ scope.frames)
        standing.clause.context := by
  have entered : (insert.inside scope).frames = ⟨insert.names, true⟩ :: scope.frames := by
    rw [Insert.inside, Scope.addAll_of_frames rfl]
    rfl
  have settled : (insert.settling scope).frames =
      ⟨insert.names, false⟩ :: ⟨insert.table.last?.toList.map ("excluded", ·), false⟩ ::
        scope.frames := by
    have behind : (insert.returned scope).frames = scope.frames := by
      have left := SelectItem.frames_leave (insert.returning.getD [])
        (insert.inside scope) true
      exact congrArg List.tail (left.trans entered)
    rw [Insert.settling, Scope.addAll_of_frames rfl, Scope.addAll_of_frames rfl]
    simp [behind]
  intro standing member
  rcases List.mem_append.mp member with early | settles
  · rcases List.mem_append.mp early with own | returned
    · rcases List.mem_map.mp own with ⟨value, place, rfl⟩
      refine .append_left (.append_left ⟨_, entered, ?_⟩)
      cases brings : insert.rows? with
      | none => simp [Insert.values, brings] at place
      | some rows =>
          rcases Insert.source_of_rows? brings with
            ⟨recursive, ctes, explicitRow, order, tail, source⟩
          rw [Insert.values, brings, Option.getD_some] at place
          rw [source, Option.toList_some, List.flatMap_singleton, Query.spotsOfSource]
          exact List.mem_map_of_mem place
    · rcases List.mem_map.mp returned with ⟨shown, place, rfl⟩
      rcases SelectItem.stands _ (insert.inside scope) true shown place with
        ⟨inner, frames, member⟩
      exact .append_left (.append_right ⟨inner, frames.trans entered, member⟩)
  · exact .append_right (insert.conflict.stands settled standing settles)

theorem Update.stands (update : Update) (scope : Scope) :
    ∀ standing ∈ update.standings,
      standing.expr.StandsIn (update.spots scope) (standing.frames ++ scope.frames)
        standing.clause.context := by
  have entered : (update.inside scope).frames =
      ⟨TableWithJoins.namesAll update.allRelations, true⟩ :: scope.frames := by
    rw [Update.inside, Scope.addAll_of_frames rfl]
    rfl
  intro standing member
  simp only [Update.standings, List.mem_append, List.mem_map, List.map_append] at member
  rcases member with (⟨condition, place, rfl⟩ | ⟨value, ⟨assignment, place, rfl⟩, rfl⟩ |
    ⟨condition, place, rfl⟩) | ⟨shown, place, rfl⟩
  · refine .append_left (.append_left (.append_left (.append_right ⟨_, entered, ?_⟩)))
    exact TableWithJoins.mem_constraintsAll _ condition place
  · refine .append_left (.append_left (.append_right ⟨_, entered, ?_⟩))
    exact List.mem_map.mpr ⟨assignment, place, rfl⟩
  · exact .append_left (.append_right ⟨_, entered, List.mem_map_of_mem place⟩)
  · rcases SelectItem.stands _ (update.inside scope) true shown place with
      ⟨inner, frames, member⟩
    exact .append_right ⟨inner, frames.trans entered, member⟩

theorem Delete.stands (delete : Delete) (scope : Scope) :
    ∀ standing ∈ delete.standings,
      standing.expr.StandsIn (delete.spots scope) (standing.frames ++ scope.frames)
        standing.clause.context := by
  have entered : (delete.inside scope).frames =
      ⟨TableWithJoins.namesAll delete.allRelations, true⟩ :: scope.frames := by
    rw [Delete.inside, Scope.addAll_of_frames rfl]
    rfl
  intro standing member
  rcases List.mem_append.mp member with chosen | returned
  · rcases List.mem_map.mp chosen with ⟨condition, place, rfl⟩
    exact .append_left (.append_right ⟨_, entered, List.mem_map_of_mem place⟩)
  · rcases List.mem_map.mp returned with ⟨shown, place, rfl⟩
    rcases SelectItem.stands _ (delete.inside scope) true shown place with
      ⟨inner, frames, member⟩
    exact .append_right ⟨inner, frames.trans entered, member⟩

/-- The expressions of a change of data stand directly inside it, in the frames that it puts
around them. -/
theorem Statement.stands (statement : Statement) (scope : Scope) :
    ∀ standing ∈ statement.standings,
      standing.expr.StandsIn (statement.spots scope) (standing.frames ++ scope.frames)
        standing.clause.context := by
  induction statement with
  | insert insertion => exact insertion.stands scope
  | update change => exact change.stands scope
  | delete deletion => exact deletion.stands scope
  | explain words statement inductionHypothesis => exact inductionHypothesis
  | _ =>
      intro standing member
      cases member

end Sql

/-! ## Accepted changes -/

/--
An accepted statement is walked through wherever it has a spot: the spot is a literal, or the
visitor meets it and everything that has an address in it, and what it makes of that has the same
address in the result.  In particular each reference in a value, an assignment, the condition of
a join or of an update, or behind `RETURNING` is visited in the context of its clause, and the
innermost frames of its scope hold the relations that it may refer to.
-/
theorem changes_are_walked_through (protects : catalog.Protects visitor)
    (statement result : Statement) (before after : Traversal σ)
    (accepted : Gives (walkStatement visitor statement) before result after) :
    (∀ spot ∈ statement.spots before.scope, spot.IsLiteral ∨
      ∃ newSpot ∈ result.spots before.scope, visitor.Meets spot newSpot ∧
        ∀ path found, spot.at? path = some found →
          ∃ newFound, newSpot.at? path = some newFound ∧ visitor.Meets found newFound) ∧
      ∀ standing ∈ statement.standings, ∀ ref ∈ standing.expr.references,
        ∃ spot ∈ statement.spots before.scope, ∃ newSpot ∈ result.spots before.scope,
          visitor.Visits spot newSpot (standing.frames ++ before.scope.frames)
            standing.clause.context ref := by
  have attentive := protects.thorough.attentive
  have covers := protects.thorough.statement statement accepted
  constructor
  · intro spot member
    refine (covers spot member).imp id ?_
    rintro ⟨newSpot, newMember, meets⟩
    exact ⟨newSpot, newMember, meets, fun path found here => meets.at? attentive here⟩
  · intro standing member ref holds
    rcases statement.stands before.scope standing member with ⟨scope, frames, stands⟩
    rcases covers _ stands with literal | ⟨newSpot, newMember, meets⟩
    · rw [standing.expr.references_of_literal literal] at holds
      cases holds
    · rw [← frames]
      exact ⟨_, stands, newSpot, newMember, attentive.visits_expr meets holds⟩

namespace IndexShadow

/-- Cities joined to their tags: `cities c JOIN tags t ON …`. -/
def citiesWithTags (condition : Expr) : TableWithJoins :=
  .mk (tableAs "cities" "c") [.mk "JOIN" (tableAs "tags" "t") [] (.on condition)]

/-- The condition `c.name = …`. -/
def isNamed (column : String) (constant : Expr) : Expr :=
  .binary (columnOf "c" column) .equal constant

/-- The condition `c.name = 'Ulm'`. -/
def isNamedUlm : Expr :=
  isNamed "name" (.value (.string "Ulm"))

/-- What becomes of the condition where it is looked at. -/
def isNamedByDigest : Expr :=
  isNamed "name_bi" (.ofBytes (Crypto.Sha256.hmac (List.replicate 32 4) (Text.utf8 "Ulm")))

/-- The condition `t.id = r.id`. -/
def sameRegion : Expr :=
  .binary (columnOf "t" "id") .equal (columnOf "r" "id")

/-- The change `UPDATE regions r SET title = 'x' FROM cities c JOIN tags t ON …
WHERE t.id = r.id RETURNING r.id`. -/
def retitleRegions (condition : Expr) : Update where
  words := ""
  table := .mk (tableAs "regions" "r") []
  assignments := [⟨.column [⟨"title", none⟩], .value (.string "x")⟩]
  relations := some (false, [citiesWithTags condition])
  condition := some sameRegion
  returning := some [.expr (columnOf "r" "id")]

/-- The removal `DELETE FROM regions r USING cities c JOIN tags t ON … WHERE t.id = r.id`. -/
def removeRegions (condition : Expr) : Delete where
  words := ""
  relations := [.mk (tableAs "regions" "r") []]
  further := some [citiesWithTags condition]
  condition := some sameRegion
  returning := none
  tail := []

/-- The insertion `INSERT INTO regions (id) WITH x AS (…) VALUES (1)`. -/
def insertRegion (query : Query) : Insert where
  words := ""
  table := [⟨"regions", none⟩]
  aliasName := none
  columns := [⟨"id", none⟩]
  partition := []
  source := some (.mk false [.mk { name := ⟨"x", none⟩ } "" query none]
    (.values false [[.value (.number "1" false)]]) [] [])
  conflict := .none
  returning := none

/-- The scope of the relations of the changes. -/
def amongRelations : Traversal Unit :=
  { scope := { frames := [⟨[("r", "regions"), ("c", "cities"), ("t", "tags")], true⟩] }, own := () }

/-- The constraint of the join of an update is walked through, and makes way for one that asks
for a digest. -/
theorem retitledRegions_are_walked_through :
    ∃ after, Gives (walkStatement (IndexShadow.visitor citiesCatalog)
        (.update (retitleRegions isNamedUlm))) { own := () }
        (.update (retitleRegions isNamedByDigest)) after ∧
      ∃ spot ∈ (retitleRegions isNamedUlm).spots {},
        ∃ newSpot ∈ (retitleRegions isNamedByDigest).spots {},
          (IndexShadow.visitor citiesCatalog).Visits spot newSpot amongRelations.scope.frames
            .ofJoin (columnOf "c" "name") := by
  have accepted : Gives (walkStatement (IndexShadow.visitor citiesCatalog)
      (.update (retitleRegions isNamedUlm))) { own := () }
      (.update (retitleRegions isNamedByDigest)) _ := rfl
  refine ⟨_, accepted, ?_⟩
  have stands : ⟨amongRelations.scope.frames, .joining, isNamedUlm⟩ ∈
      (Statement.update (retitleRegions isNamedUlm)).standings := List.mem_cons_self
  exact (changes_are_walked_through Catalog.Protects.indexed _ _ _ _ accepted).2 _ stands
    (columnOf "c" "name") (by simp [isNamedUlm, isNamed, columnOf, Expr.references])

/-- The constraint of the join of a deletion stays as the client wrote it, and so does a common
table expression in front of rows of values. -/
theorem removal_hides_search :
    isNamedUlm ≠ isNamedByDigest ∧
      (∃ after, Gives (walkExpr (IndexShadow.visitor citiesCatalog) .ofJoin isNamedUlm)
        amongRelations isNamedByDigest after) ∧
        (∃ after, Gives (walkStatement (IndexShadow.visitor citiesCatalog)
          (.delete (removeRegions isNamedUlm))) { own := () }
            (.delete (removeRegions isNamedUlm)) after) ∧
          ∃ after, Gives (walkStatement (IndexShadow.visitor citiesCatalog)
            (.insert (insertRegion (citiesWhere isUlm)))) { own := () }
              (.insert (insertRegion (citiesWhere isUlm))) after := by
  refine ⟨?_, ⟨_, rfl⟩, ⟨_, rfl⟩, ⟨_, rfl⟩⟩
  simp [isNamedUlm, isNamedByDigest, isNamed, columnOf]

end IndexShadow

end ColumnVeil
