import ColumnVeil.Proofs.Shield.Protection
import ColumnVeil.Proofs.Traversal.Clauses

/-!
# Queries in expressions

A query that has an address in an expression is walked through as a query of its own: whatever
the clause around it is, its projection does not reach the client, its relations are the
innermost frame, and its references stand in the contexts of its own clauses.

Queries in calls and in special forms have no address: there the references of a query are
swept up in the scope and in the context of the construct, and its comparisons are not looked
at.
-/

namespace ColumnVeil

open Sql

variable {σ : Type} {visitor : Visitor σ} {catalog : Catalog}

/-- A clause of a query whose rows do not reach the client is not what the client receives. -/
theorem Sql.Query.selectBody_of_mem_clauses {query : Query} {clause : Clause} {expr : Expr}
    (stands : (clause, expr) ∈ query.clauses false) : clause.context.selectBody = false := by
  cases clause with
  | delivered =>
      cases query with
      | mk recursive ctes body order tail =>
          cases body with
          | select select =>
              cases select
              simp [Query.clauses, QueryBody.clauses, Select.clauses, Clause.ofProjection] at stands
          | _ => simp [Query.clauses, QueryBody.clauses] at stands
  | _ => rfl

/--
A query at an address in an accepted expression does not depend on the expression around it.
What becomes of it is what becomes of the same query as an expression of its own, in any
context.  Each reference in one of its clauses is visited in the context of that clause, which
is never that of the projection for the client, and the innermost frame holds the relations of
the query.
-/
theorem subqueries_stand_alone (protects : catalog.Protects visitor) (context : Context)
    (expr result : Expr) (before after : Traversal σ)
    (accepted : Gives (walkExpr visitor context expr) before result after)
    (path : List Nat) (scope : Scope) (reaches : Bool) (query : Query)
    (found : (Spot.expr before.scope context expr).at? path = some (.query scope reaches query)) :
    reaches = false ∧ ∃ newQuery own last,
      (Spot.expr before.scope context result).at? path = some (.query scope false newQuery) ∧
        (∀ alone, Gives (walkExpr visitor alone (.subquery query)) ⟨scope, own⟩
          (.subquery newQuery) last) ∧
          ∀ clause expr ref, (clause, expr) ∈ query.clauses false → ref ∈ expr.references →
            clause.context.selectBody = false ∧
              visitor.Visits (.query scope false query) (.query scope false newQuery)
                (⟨query.names, false⟩ :: scope.frames) clause.context ref := by
  have attentive := protects.thorough.attentive
  have apart : Spot.IsApart (.expr before.scope context expr) := trivial
  have aside : reaches = false := apart.at? found
  subst aside
  have met : visitor.Meets (.expr before.scope context expr) (.expr before.scope context result) :=
    .expr accepted
  rcases met.at? attentive found with ⟨newFound, place, meets⟩
  refine ⟨rfl, ?_⟩
  cases meets with
  | @query _ _ _ newQuery own last walk =>
      refine ⟨newQuery, own, last, place, fun alone => ?_, ?_⟩
      · rw [walkExpr, gives_bind_iff]
        exact ⟨newQuery, last, walk, gives_pure_iff.mpr ⟨rfl, rfl⟩⟩
      · intro clause shown ref stands member
        exact ⟨Query.selectBody_of_mem_clauses stands,
          attentive.visits_query (.query walk) stands member⟩

namespace IndexShadow

/-- The cities of some condition: `SELECT id FROM cities WHERE …`. -/
def citiesWhere (condition : Expr) : Query :=
  .mk false []
    (.select (.mk [] [.expr (.identifier ⟨"id", none⟩)] ""
      [.mk (.table [⟨"cities", none⟩] [] none []) []] [] (some condition) [] [] none []))
    [] []

/-- The condition `name = 'Ulm'`. -/
def isUlm : Expr :=
  .binary (.identifier ⟨"name", none⟩) .equal (.value (.string "Ulm"))

/-- What becomes of the condition where it is looked at. -/
def isDigestOfUlm : Expr :=
  .binary (.identifier ⟨"name_bi", none⟩) .equal
    (.ofBytes (Crypto.Sha256.hmac (List.replicate 32 4) (Text.utf8 "Ulm")))

/-- A walk among the regions. -/
def amongRegions : Traversal Unit :=
  { scope := { frames := [⟨[("regions", "regions")], true⟩] }, own := () }

/-- In the projection for the client, a query of cities stands alone. -/
theorem ulm_stands_alone :
    ∃ result after,
      Gives (walkExpr (IndexShadow.visitor citiesCatalog) .ofSelectBody
        (.existence true (citiesWhere isUlm))) amongRegions result after ∧
      ∃ newQuery, (Spot.expr amongRegions.scope .ofSelectBody result).at? [0] =
        some (.query amongRegions.scope false newQuery) ∧
        (IndexShadow.visitor citiesCatalog).Visits
          (.query amongRegions.scope false (citiesWhere isUlm))
          (.query amongRegions.scope false newQuery)
          (⟨[("cities", "cities")], false⟩ :: amongRegions.scope.frames) .plain
          (.identifier ⟨"name", none⟩) := by
  have accepts : ∃ result after,
      Gives (walkExpr (IndexShadow.visitor citiesCatalog) .ofSelectBody
        (.existence true (citiesWhere isUlm))) amongRegions result after :=
    exists_gives_of_isOk rfl
  rcases accepts with ⟨result, after, accepted⟩
  rcases subqueries_stand_alone Catalog.Protects.indexed .ofSelectBody _ result _ after accepted
    [0] amongRegions.scope false (citiesWhere isUlm) rfl with ⟨_, newQuery, _, _, place, _, visits⟩
  have stands : (Clause.condition, isUlm) ∈ (citiesWhere isUlm).clauses false := by
    simp [citiesWhere, Query.clauses, QueryBody.clauses, Select.clauses]
  have member : .identifier ⟨"name", none⟩ ∈ isUlm.references := by
    simp [isUlm, Expr.references]
  exact ⟨result, after, accepted, newQuery, place, (visits .condition isUlm _ stands member).2⟩

/-- In a call, the same query is not looked at: the comparison that makes way for a comparison
of digests where the query stands alone stays as the client wrote it. -/
theorem coalesce_hides_search :
    (∃ after, Gives (walkExpr (IndexShadow.visitor citiesCatalog) .plain
      (.subquery (citiesWhere isUlm))) amongRegions (.subquery (citiesWhere isDigestOfUlm))
        after) ∧
      isUlm ≠ isDigestOfUlm ∧
        ∃ after, Gives (walkExpr (IndexShadow.visitor citiesCatalog) .plain
          (.call [⟨"coalesce", none⟩]
            [.words "(", .expr (.subquery (citiesWhere isUlm)), .words ")"] [] []))
          amongRegions
          (.call [⟨"coalesce", none⟩]
            [.words "(", .expr (.subquery (citiesWhere isUlm)), .words ")"] [] []) after := by
  refine ⟨⟨_, rfl⟩, ?_, ⟨_, rfl⟩⟩
  simp [isUlm, isDigestOfUlm]

end IndexShadow

end ColumnVeil
