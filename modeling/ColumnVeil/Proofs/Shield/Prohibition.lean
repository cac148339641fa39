import ColumnVeil.Proofs.Shield.Change

/-!
# Prohibited uses of encrypted columns

A use of an encrypted column outside the projection that the client receives is prohibited, and
so are a star, a table function and a join without a condition where a table in scope is
protected.  A text with a prohibited use at an address of one of its statements is refused.

What is not walked through has no address: the columns of `DISTINCT ON`, windows, `LIMIT` and
`OFFSET`, and a table function in front of the protected tables.
-/

namespace ColumnVeil

open Sql

/-! ## What is not walked through -/

/-- A query with other words around the clauses of its selection: `DISTINCT ON` in front of the
projection, windows behind the clauses, `LIMIT` and `OFFSET` behind the order. -/
def Sql.Query.around (lead tail limit : List Part) : Query → Query
  | .mk recursive ctes (.select (.mk _ projection target relations views condition groups grouping
      having _)) order _ =>
      .mk recursive ctes (.select (.mk lead projection target relations views condition groups
        grouping having tail)) order limit
  | query => query

theorem Sql.Query.exists_around (lead tail limit : List Part) (query : Query) :
    ∃ ownLead ownTail ownLimit,
      (query.around lead tail limit).around ownLead ownTail ownLimit = query := by
  cases query with
  | mk recursive ctes body order ownLimit =>
      cases body with
      | select select =>
          cases select with
          | mk ownLead projection target relations views condition groups grouping having ownTail =>
              exact ⟨ownLead, ownTail, ownLimit, rfl⟩
      | _ => exact ⟨[], [], [], rfl⟩

/-- A walk through a query does not look at the words around its clauses. -/
theorem exists_gives_around {σ : Type} {visitor : Visitor σ} {reaches : Bool}
    (lead tail limit : List Part) {query result : Query} {before after : Traversal σ}
    (run : Gives (walkQuery visitor reaches query) before result after) :
    ∃ other, Gives (walkQuery visitor reaches (query.around lead tail limit)) before other
      after := by
  unfold Query.around
  split
  · simp only [walkQuery, walkBody, walkSelect, gives_bind_iff, gives_pure_iff,
      Walk.gives_inFrame_iff, Walk.gives_scope_iff] at run ⊢
    rcases run with ⟨newCtes, middle, ctesRun, _, ⟨_, _, ⟨_, _, ⟨entered, first, enterRun,
      _, _, ⟨rfl, rfl⟩, newProjection, shown, projectionRun, newRelations, joined, constraintsRun,
      newCondition, chosen, conditionRun, newGroups, grouped, groupsRun, newHaving, _, havingRun,
      rfl, rfl⟩, rfl, rfl⟩, newOrder, _, orderRun, rfl, rfl⟩, rfl⟩
    exact ⟨_, newCtes, middle, ctesRun, _, ⟨_, _, ⟨_, _, ⟨entered, first, enterRun,
      _, _, ⟨rfl, rfl⟩, newProjection, shown, projectionRun, newRelations, joined, constraintsRun,
      newCondition, chosen, conditionRun, newGroups, grouped, groupsRun, newHaving, _, havingRun,
      rfl, rfl⟩, rfl, rfl⟩, newOrder, _, orderRun, rfl, rfl⟩, rfl⟩
  · exact ⟨result, run⟩

namespace Encryption

variable {catalog : Catalog} {scope : Scope} {context : Context}

/-- What must not stand at a spot. -/
def Prohibits (catalog : Catalog) : Spot → Prop
  | .expr scope context expr => context.selectBody = false ∧ ∃ ref ∈ expr.references, ∃ column,
      scope.resolve ref context = .ok (some column) ∧ catalog.encrypts column = true
  | .star scope => ∃ table ∈ scope.tables, catalog.isProtected table = true
  | .unread scope _ => ∃ table ∈ scope.tables, catalog.isProtected table = true
  | .query .. => False

/-- A unit that is let pass outside the client's projection has no encrypted column: each of
its references is visited, for nothing is replaced as a whole. -/
theorem encrypts_of_gives_unit {unit ref result : Expr} {column : ColumnRef}
    {before after : Traversal State} (member : ref ∈ unit.references)
    (whole : unit = ref ∨ unit.isUnit = true)
    (run : Gives (walkExpr (visitor catalog) context unit) before result after)
    (outside : context.selectBody = false)
    (means : before.scope.resolve ref context = .ok (some column)) :
    catalog.encrypts column = false := by
  rcases attentive_visitor.visits_or_replaces member whole run with
    ⟨start, _, _, same, visited, -⟩ | ⟨_, _, _, _, -, operated⟩ | ⟨_, _, _, _, _, -, -, tested⟩
  · rw [← same] at means
    rcases Visitor.gives_reference_iff.mp visited with ⟨nothing, -⟩ | ⟨found, meant, visit⟩
    · rw [means] at nothing
      cases nothing
    · rw [means] at meant
      cases meant
      have delivered := (gives_column_iff.mp visit).1
      rw [outside] at delivered
      simpa using delivered
  · cases (gives_pure_iff.mp operated).1
  · cases (gives_pure_iff.mp tested).1

/-- Inside a literal there are only literals. -/
theorem isLiteral_of_mem_inner {spot next : Spot} (literal : spot.IsLiteral)
    (member : next ∈ spot.inner) : next.IsLiteral := by
  cases spot with
  | expr scope context expr =>
      cases expr with
      | value constant => cases member
      | nested inner =>
          rcases List.mem_singleton.mp member with rfl
          exact literal
      | unary operator operand =>
          rcases List.mem_singleton.mp member with rfl
          cases operator with
          | minus =>
              cases found : operand.literal? with
              | none => simp [Spot.IsLiteral, Expr.literal?, found] at literal
              | some constant => simp [Spot.IsLiteral, found]
          | _ => cases literal
      | _ => cases literal
  | _ => exact literal.elim

theorem isLiteral_of_at? {spot found : Spot} (literal : spot.IsLiteral) {path : List Nat}
    (here : spot.at? path = some found) : found.IsLiteral := by
  induction path generalizing spot with
  | nil =>
      cases here
      exact literal
  | cons step path inductionHypothesis =>
      rcases Spot.at?_cons_eq_some_iff.mp here with ⟨next, nextHere, later⟩
      exact inductionHypothesis (isLiteral_of_mem_inner literal (List.mem_of_getElem? nextHere))
        later

/-- Nothing is prohibited in a literal. -/
theorem not_prohibits_of_isLiteral {spot : Spot} (literal : spot.IsLiteral) :
    ¬ Prohibits catalog spot := by
  cases spot with
  | expr scope context expr =>
      rintro ⟨-, ref, member, -⟩
      rw [expr.references_of_literal literal] at member
      cases member
  | _ => exact literal.elim

/-- What the visitor meets is not prohibited. -/
theorem not_prohibits_of_meets {spot result : Spot} (meets : (visitor catalog).Meets spot result) :
    ¬ Prohibits catalog spot := by
  intro prohibited
  cases meets with
  | @expr scope context expr _ _ _ run =>
      rcases prohibited with ⟨outside, ref, member, column, means, encrypted⟩
      have addresses : expr.Addresses scope context ref := expr.addresses ref member
      rcases addresses with ⟨path, unit, place, holds, whole⟩
      rcases (Visitor.Meets.expr run).at? attentive_visitor place with ⟨newUnit, -, met⟩
      cases met with
      | expr unitRun =>
          have bare := encrypts_of_gives_unit holds whole unitRun outside means
          rw [encrypted] at bare
          cases bare
  | star run =>
      rcases prohibited with ⟨table, inScope, isProtected⟩
      have bare := (gives_refuseProtected_iff.mp run).1 table inScope
      rw [isProtected] at bare
      cases bare
  | query run => exact prohibited
  | unread run =>
      rcases prohibited with ⟨table, inScope, isProtected⟩
      have bare := (gives_refuseProtected_iff.mp run).1 table inScope
      rw [isProtected] at bare
      cases bare

/--
A text is refused if something prohibited has an address in one of its statements, whatever the
statements before it have shown: a reference to an encrypted column outside the projection that
the client receives, in any clause that is walked through and in any query inside the statement;
or a star, a table function or a join without a condition behind a protected table.
-/
theorem prohibited_uses_are_refused (catalog : Catalog) (statements : List Statement)
    (before : Traversal State) (index : Nat) (statement : Statement)
    (place : statements[index]? = some statement)
    (prohibited : ∀ earlier, ∃ spot ∈ statement.spots { earlier, current := some {} },
      ∃ path found, spot.at? path = some found ∧ Prohibits catalog found) :
    (((shield catalog).protect statements).run.run before).1.isOk = false := by
  rw [← Bool.not_eq_true]
  intro passes
  rcases exists_gives_of_isOk passes with ⟨result, after, run⟩
  rcases exists_visit_at (gives_protect_iff.mp run) place with
    ⟨start, walked, last, -, -, walk, -, -⟩
  rcases prohibited (start.scope.earlier ++ start.scope.current.toList) with
    ⟨spot, member, path, found, here, prohibits⟩
  rcases thorough_visitor.statement statement walk spot member with
    literal | ⟨newSpot, -, meets⟩
  · exact not_prohibits_of_isLiteral (isLiteral_of_at? literal here) prohibits
  · rcases meets.at? attentive_visitor here with ⟨newFound, -, met⟩
    exact not_prohibits_of_meets met prohibits

/-- The shield accepts a query whatever the words around its clauses are, if it accepts it with
some. -/
theorem exists_protect_around (lead tail limit : List Part) {query : Query}
    {before : Traversal State}
    (accepts : ∃ result after,
      Gives ((shield catalog).protect [.query query]) before result after) :
    ∃ result after,
      Gives ((shield catalog).protect [.query (query.around lead tail limit)]) before result
        after := by
  rcases accepts with ⟨result, after, run⟩
  simp only [gives_protect_iff, walkStatementsFrom, walkStatement, gives_bind_iff, gives_pure_iff,
    Walk.gives_changeScope_iff] at run
  rcases run with ⟨_, _, rfl, _, _, ⟨walked, last, walk, rfl, rfl⟩, -⟩
  rcases exists_gives_around lead tail limit walk with ⟨other, otherWalk⟩
  refine ⟨[.query other], last, ?_⟩
  simp only [gives_protect_iff, walkStatementsFrom, walkStatement, gives_bind_iff, gives_pure_iff,
    Walk.gives_changeScope_iff]
  exact ⟨(), _, rfl, _, _, ⟨other, last, otherWalk, rfl, rfl⟩, _, _, ⟨rfl, rfl⟩, rfl, rfl⟩

/-- The verdict on a query does not depend on `DISTINCT ON`, windows, `LIMIT` and `OFFSET`. -/
theorem accepts_around_iff (lead tail limit : List Part) (query : Query)
    (before : Traversal State) :
    (∃ result after, Gives ((shield catalog).protect [.query (query.around lead tail limit)])
        before result after) ↔
      ∃ result after, Gives ((shield catalog).protect [.query query]) before result after := by
  constructor
  · intro accepts
    rcases query.exists_around lead tail limit with ⟨ownLead, ownTail, ownLimit, same⟩
    rw [← same]
    exact exists_protect_around ownLead ownTail ownLimit accepts
  · exact exists_protect_around lead tail limit

/-- Cities beside other relations: `SELECT c.id FROM …, cities c, …`. -/
def citiesBeside (before after : List TableFactor) : Query :=
  .mk false []
    (.select (.mk [] [.expr (columnOf "c" "id")] ""
      ((before ++ [tableAs "cities" "c"] ++ after).map (.mk · [])) [] none [] [] none []))
    [] []

/-- A table function of the names of cities: `LATERAL f(c.name) u`. -/
def functionOfName : TableFactor :=
  .function [.words "LATERAL f(", .expr (columnOf "c" "name"), .words ")"]
    (some { name := ⟨"u", none⟩ }) ""

/-- A function in front of the cities: `TABLE(f((SELECT c.name FROM cities c)))`. -/
def functionOfNames : TableFactor :=
  .function [.words "TABLE(", .expr (.call [⟨"f", none⟩]
    [.words "(", .expr (.subquery (.mk false [] (.select (.mk [] [.expr (columnOf "c" "name")] ""
      [.mk (tableAs "cities" "c") []] [] none [] [] none [])) [] [])), .words ")"] [] []),
    .words ")"] none ""

/-- Behind the cities a table function is refused. -/
theorem functionOfName_is_refused :
    (((shield cityCatalog).protect [.query (citiesBeside [] [functionOfName])]).run.run
      freshState).1.isOk = false := by
  refine prohibited_uses_are_refused cityCatalog _ freshState 0 _ rfl fun earlier => ?_
  have inScope : "cities" ∈ ["cities", "u"] := by decide
  exact ⟨_, List.mem_singleton_self _, [0], _, rfl, "cities", inScope, by decide⟩

/-- The names of cities are encrypted, and yet a query passes that makes them distinct, that
divides a window by them, that limits its rows by them, and that has a function of them in front
of the cities or by its name. -/
theorem distinctNames_pass :
    let scope : Scope := { frames := [⟨[("c", "cities")], true⟩], current := some {} }
    scope.resolve (columnOf "c" "name") .plain = .ok (some ⟨"cities", "name"⟩) ∧
      cityCatalog.encrypts ⟨"cities", "name"⟩ = true ∧
        ∀ query ∈ [
          (citiesBeside [] []).around
            [.words " DISTINCT ON (", .expr (columnOf "c" "name"), .words ")"] [] [],
          (citiesBeside [] []).around []
            [.words " WINDOW w AS (PARTITION BY ", .expr (columnOf "c" "name"), .words ")"] [],
          (citiesBeside [] []).around [] [] [.words " LIMIT ", .expr (columnOf "c" "name")],
          citiesBeside [functionOfNames] [],
          citiesBeside []
            [.table [⟨"f", none⟩] [.words "(", .expr (columnOf "c" "name"), .words ")"] none []]],
          Gives ((shield cityCatalog).protect [.query query]) freshState [.query query]
            (((shield cityCatalog).protect [.query query]).run.run freshState).2 := by
  refine ⟨rfl, by decide, ?_⟩
  simp only [List.mem_cons, List.not_mem_nil, or_false]
  rintro query (rfl | rfl | rfl | rfl | rfl) <;>
  · refine Prod.ext ?_ rfl
    rfl

end Encryption

end ColumnVeil
