import ColumnVeil.Proofs.Shield.Prohibition
import ColumnVeil.Proofs.Traversal.Output

/-!
# Output names in groupings

In the grouping of a result and in the condition on groups, a name without qualifier means the
column that the projection shows under it, and only then a column of the table.  So a selection
from one table that uses the name of an encrypted column there is refused, unless an item of its
projection gives this name to a column that is not encrypted.
-/

namespace ColumnVeil

open Sql

namespace Sql

/-- The table of a selection from a single plain table. -/
def Select.table? : Select → Option String
  | .mk _ _ _ [.mk (.table name _ _ _) []] _ _ _ _ _ _ => name.last?
  | _ => none

/-- The grouping of a selection, and the condition on groups. -/
def Select.groupings : Select → List Expr
  | .mk _ _ _ _ _ _ groups _ having _ => groups ++ having.toList

theorem Select.exists_names {select : Select} {table : String}
    (single : select.table? = some table) : ∃ reference, select.names = [(reference, table)] := by
  unfold Select.table? at single
  split at single
  · rename_i lead projection target name arguments aliasName tail views condition groups grouping
      having rest
    have names : TableWithJoins.namesAll [.mk (.table name arguments aliasName tail) []] =
        [(((aliasName.map fun aliasName => aliasName.name.normal).getD table), table)] := by
      cases aliasName <;>
        simp [TableWithJoins.namesAll, TableWithJoins.names, TableFactor.names, Join.namesAll,
          single]
    exact ⟨_, names⟩
  · cases single

end Sql

/-! ## What a name means in a grouping -/

/-- In a grouping a name means what the projection shows under it, or else a column of the
table. -/
theorem Sql.Select.resolve_grouped {select : Select} {table : String}
    (single : select.table? = some table) (ident : Ident) :
    select.shown.resolve (.identifier ident) .ofGroupBy =
      .ok (some ((select.shown.output? ident.normal).getD ⟨table, ident.normal⟩)) := by
  rcases select.exists_names single with ⟨reference, names⟩
  have frames : select.shown.frames = [⟨[(reference, table)], true⟩] := by
    rw [select.frames_shown, Select.entered, names]
  cases shows : select.shown.output? ident.normal with
  | none => simp [Scope.resolve, Scope.resolveName, Context.ofGroupBy, shows, frames, Scope.resolveIn]
  | some column => simp [Scope.resolve, Scope.resolveName, Context.ofGroupBy, shows]

/-! ## The addresses of a selection -/

mutual

/-- The spots of a selection have addresses in the query that puts it into order. -/
theorem Sql.Query.exists_address (query : Query) {select : Select}
    (selection : query.selection? = some select) {scope : Scope}
    (begins : (scope.push true).Begins) :
    ∃ start : Scope, start.Begins ∧ ∀ spot ∈ select.spots start true,
      ∃ path, (Spot.query scope true query).at? path = some spot := by
  cases query with
  | mk recursive ctes body order tail =>
      rcases body.exists_address selection begins with ⟨start, startBegins, addresses⟩
      refine ⟨start, startBegins, fun spot member => ?_⟩
      rcases addresses spot member with ⟨next, inside, path, place⟩
      have inner : next ∈ (Spot.query scope true (.mk recursive ctes body order tail)).inner :=
        List.mem_append_left _ (List.mem_append_right _ inside)
      rcases List.mem_iff_getElem?.mp inner with ⟨step, here⟩
      exact ⟨step :: path, Spot.at?_cons_eq_some_iff.mpr ⟨next, here, place⟩⟩
termination_by structural query

theorem Sql.QueryBody.exists_address (body : QueryBody) {select : Select}
    (selection : body.selection? = some select) {scope : Scope} (begins : scope.Begins) :
    ∃ start : Scope, start.Begins ∧ ∀ spot ∈ select.spots start true,
      ∃ next ∈ body.spots scope true, ∃ path, next.at? path = some spot := by
  cases body with
  | select inner =>
      cases selection
      exact ⟨scope, begins, fun spot member => ⟨spot, member, [], rfl⟩⟩
  | parenthesized query =>
      have inside : (scope.push true).Begins := by
        rcases begins.frames with ⟨behind, frames, empty⟩
        refine ⟨⟨scope.frames, rfl, ?_⟩, begins.current⟩
        rw [frames, List.forall_mem_cons]
        exact ⟨rfl, empty⟩
      rcases query.exists_address selection inside with ⟨start, startBegins, addresses⟩
      exact ⟨start, startBegins, fun spot member =>
        ⟨_, List.mem_singleton_self _, addresses spot member⟩⟩
  | _ => cases selection
termination_by structural body

end

/-- The grouping of a selection stands behind its projection. -/
theorem Sql.Select.mem_spots_of_grouped {select : Select} {scope : Scope} {clause : Expr}
    (grouped : clause ∈ select.groupings) :
    .expr (SelectItem.leave (scope.addAll select.names) true select.projection) .ofGroupBy clause ∈
      select.spots scope true := by
  cases select with
  | mk lead projection target relations views condition groups grouping having tail =>
      rw [Select.spots]
      rcases List.mem_append.mp grouped with group | condition
      · exact List.mem_append_left _ (List.mem_append_right _ (List.mem_map_of_mem group))
      · exact List.mem_append_right _ (List.mem_map_of_mem condition)

namespace Encryption

variable {catalog : Catalog}

/-- A walk through a query that succeeds has met nothing prohibited in its groupings. -/
theorem not_prohibits_of_grouped {query result : Query} {select : Select}
    (selection : query.selection? = some select) {before after : Traversal State}
    (begins : (before.scope.push true).Begins)
    (run : Gives (walkQuery (visitor catalog) true query) before result after) {clause : Expr}
    (grouped : clause ∈ select.groupings) :
    ¬ Prohibits catalog (.expr select.shown .ofGroupBy clause) := by
  rcases query.exists_address selection begins with ⟨start, startBegins, addresses⟩
  rcases addresses _ (select.mem_spots_of_grouped grouped) with ⟨path, place⟩
  have meets : (visitor catalog).Meets (.query before.scope true query)
      (.query before.scope true result) := .query run
  rcases meets.at? attentive_visitor place with ⟨newFound, -, met⟩
  rintro ⟨outside, ref, member, column, means, encrypted⟩
  refine not_prohibits_of_meets met ⟨outside, ref, member, column, ?_, encrypted⟩
  rw [(startBegins.reads_shown select).resolve_eq]
  exact means

/--
A selection from a single table is refused if its grouping, or its condition on groups, has a name
without qualifier that is the name of an encrypted column of the table, wherever in a text the
selection stands and whatever its projection calls its items, as long as no item gives this name
to a column that is not encrypted.
-/
theorem grouped_names_are_refused (catalog : Catalog) (statements : List Statement)
    (before : Traversal State) (place : Nat) (query : Query)
    (asked : statements[place]? = some (.query query)) (select : Select)
    (selection : query.selection? = some select) (table : String)
    (single : select.table? = some table) (clause : Expr) (grouped : clause ∈ select.groupings)
    (ident : Ident) (named : .identifier ident ∈ clause.references)
    (encrypted : catalog.encrypts ⟨table, ident.normal⟩ = true)
    (apart : ∀ column, some (ident.normal, column) ∈ select.outputs →
      catalog.encrypts column = true) :
    (((shield catalog).protect statements).run.run before).1.isOk = false := by
  rw [← Bool.not_eq_true]
  intro passes
  rcases exists_gives_of_isOk passes with ⟨result, after, run⟩
  rcases exists_visit_at (gives_protect_iff.mp run) asked with
    ⟨start, walked, last, -, -, walk, -, -⟩
  rcases gives_bind_iff.mp walk with ⟨newQuery, _, queryRun, -⟩
  refine not_prohibits_of_grouped selection (Scope.begins_beginStatement start.scope) queryRun
    grouped ⟨rfl, .identifier ident, named, _, select.resolve_grouped single ident, ?_⟩
  cases shows : select.shown.output? ident.normal with
  | none => exact encrypted
  | some column => exact apart column (Select.exists_output shows)

/-- A selection of the ids of cities under a name:
`SELECT id AS … FROM cities GROUP BY … HAVING …`. -/
def idsOfCities (label : String) (group : Expr) (having : Option Expr) : Select :=
  .mk [] [.aliased (.identifier ⟨"id", none⟩) ⟨label, none⟩] ""
    [.mk (.table [⟨"cities", none⟩] [] none []) []] [] none [group] [] having []

/-- A condition on the names in a group: `max(name) > 'M'`. -/
def lastNameBehindM : Expr :=
  .binary (.call [⟨"max", none⟩] [.words "(", .expr (.identifier ⟨"name", none⟩), .words ")"] [] [])
    (.other ">") (.value (.string "M"))

/-- Under another name the ids do not hide the names of cities, and the query is refused. -/
theorem lastName_is_refused :
    (((shield cityCatalog).protect
      [.query (alone (idsOfCities "city" (.identifier ⟨"id", none⟩) (some lastNameBehindM)))]).run.run
        freshState).1.isOk = false := by
  have outputs : (idsOfCities "city" (.identifier ⟨"id", none⟩) (some lastNameBehindM)).outputs =
      [some ("city", ⟨"cities", "id"⟩)] := rfl
  refine grouped_names_are_refused cityCatalog _ freshState 0 _ rfl _ rfl "cities" rfl
    lastNameBehindM (List.mem_cons_of_mem _ (List.mem_singleton_self _)) ⟨"name", none⟩
    (List.mem_singleton_self _) (by decide) fun column recorded => ?_
  rw [outputs, List.mem_singleton] at recorded
  have other : ("name", column) ≠ ("city", ⟨"cities", "id"⟩) := by simp
  exact absurd (Option.some.inj recorded) other

/-- The names of cities are encrypted, and yet queries pass that group the cities by them or set a
condition on them, once the projection calls the ids so; under another name they are refused. -/
theorem hiddenName_passes :
    cityCatalog.encrypts ⟨"cities", "name"⟩ = true ∧
      ∀ groupings ∈ [(Expr.identifier ⟨"id", none⟩, some lastNameBehindM),
          (Expr.identifier ⟨"name", none⟩, none)],
        (∃ clause ∈ (idsOfCities "name" groupings.1 groupings.2).groupings,
          Expr.identifier ⟨"name", none⟩ ∈ clause.references) ∧
          Gives ((shield cityCatalog).protect
              [.query (alone (idsOfCities "name" groupings.1 groupings.2))]) freshState
            [.query (alone (idsOfCities "name" groupings.1 groupings.2))]
            (((shield cityCatalog).protect
              [.query (alone (idsOfCities "name" groupings.1 groupings.2))]).run.run freshState).2 ∧
            (((shield cityCatalog).protect
              [.query (alone (idsOfCities "city" groupings.1 groupings.2))]).run.run
                freshState).1.isOk = false := by
  refine ⟨by decide, ?_⟩
  simp only [List.mem_cons, List.not_mem_nil, or_false]
  rintro groupings (rfl | rfl)
  · refine ⟨⟨lastNameBehindM, List.mem_cons_of_mem _ (List.mem_singleton_self _),
      List.mem_singleton_self _⟩, Prod.ext ?_ rfl, ?_⟩ <;> rfl
  · refine ⟨⟨.identifier ⟨"name", none⟩, List.mem_singleton_self _, List.mem_singleton_self _⟩,
      Prod.ext ?_ rfl, ?_⟩ <;> rfl

end Encryption

end ColumnVeil
