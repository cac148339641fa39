import ColumnVeil.Proofs.Shield.Change

/-!
# Uses of indexed columns

A reference to an indexed column outside the projection that the client receives has one of a
few uses in an accepted query: it is compared with a literal, sought in a list of literals,
equated with another joined column, or it stands in the grouping or in the condition on groups.
`Use` says what becomes of the reference and of the literals beside it.

In the grouping and in the condition on groups the reference is renamed wherever it stands, so
that there alone a literal beside it may stay as the client wrote it.
-/

namespace ColumnVeil

open Sql

namespace IndexShadow

variable {catalog : Catalog} {scope : Scope} {context : Context} {rule : ColumnRule}
  {index : BlindIndex} {ref unit newUnit : Expr}

/-- What an accepted query does with a reference to an indexed column in a unit, and what becomes
of the unit. -/
inductive Use (catalog : Catalog) (scope : Scope) (context : Context) (rule : ColumnRule)
    (index : BlindIndex) (ref : Expr) : Expr → Expr → Prop where
  /-- The shadow is compared with the digest of the literal. -/
  | compared {constant value left right newLeft newRight : Expr} {operator : BinaryOperator}
      {sides : Expr.Sides} :
      operator = .equal ∨ operator = .notEqual → Digested rule index [constant] [value] →
        sides.operands ref constant = (left, right) →
          sides.operands (ref.renamed index.column) value = (newLeft, newRight) →
            Use catalog scope context rule index ref (.binary left operator right)
              (.binary newLeft operator newRight)
  /-- The shadow is sought among the digests of the literals. -/
  | listed {negated : Bool} {items values : List Expr} :
      Digested rule index items values →
        Use catalog scope context rule index ref (.inList ref negated items)
          (.inList (ref.renamed index.column) negated values)
  /-- An equality of joined columns stays. -/
  | joined {left right : Expr} {pair : ColumnRef × ColumnRef} :
      ref = left ∨ ref = right → JoinShadow.Paired catalog scope context left right pair →
        Use catalog scope context rule index ref (.binary left .equal right)
          (.binary left .equal right)
  /-- In the grouping and in the condition on groups the shadow takes the place of the column. -/
  | grouped {unit newUnit : Expr} :
      context.groupBy = true → ref.renamed index.column ∈ newUnit.references →
        Use catalog scope context rule index ref unit newUnit

/-- A reference that is visited on its own is grouped. -/
theorem grouped_of_gives_reference {before after : Traversal Unit} {result : Expr}
    (isColumn : ref.isColumn = true)
    (run : Gives ((visitor catalog).reference context ref) before result after)
    (outside : context.selectBody = false)
    (indexed : indexIn? catalog before.scope context ref = some (rule, index)) :
    context.groupBy = true ∧ ref.renamed index.column ∈ result.references := by
  rcases Visitor.gives_reference_iff.mp run with ⟨nothing, -⟩ | ⟨found, means, visit⟩
  · rw [indexIn?, nothing] at indexed
    cases indexed
  · rw [indexIn?, means] at indexed
    rcases Option.bind_eq_some_iff.mp indexed with ⟨known, ruled, carried⟩
    rcases Option.bind_eq_some_iff.mp carried with ⟨shadow, shadowed, same⟩
    cases same
    simp only [visitor, column, ruled, Option.bind_some, shadowed, outside, Bool.false_eq_true,
      if_false] at visit
    split at visit
    · rename_i grouping
      rcases gives_pure_iff.mp visit with ⟨rfl, -⟩
      have renamed := Expr.references_of_isColumn
        ((Expr.isColumn_renamed ref index.column).trans isColumn)
      exact ⟨grouping, by rw [renamed]; exact List.mem_singleton_self _⟩
    · exact absurd visit not_gives_throw

/-- What is replaced as a whole is a use. -/
theorem Replaced.use (replaced : Replaced catalog scope context unit newUnit)
    (member : ref ∈ unit.references)
    (indexed : indexIn? catalog scope context ref = some (rule, index)) :
    Use catalog scope context rule index ref unit newUnit := by
  cases replaced with
  | joined outside paired =>
      have leftRef := Expr.references_of_isColumn (isColumn_of_resolve paired.left)
      have rightRef := Expr.references_of_isColumn (isColumn_of_resolve paired.right)
      rw [Expr.references, leftRef, rightRef] at member
      refine .joined ?_ paired
      simpa using member
  | @compared column constant value left right newLeft newRight operator sides otherRule
      otherIndex operators known digested placed newPlaced =>
      have isColumn := isColumn_of_indexIn? known
      have literals := (literals_of_digested digested).1
      have noneBeside : constant.references = [] := by
        rw [List.all_cons, Bool.and_eq_true] at literals
        exact constant.references_of_literal literals.1
      have own : ref = column := by
        cases sides with
        | columnFirst =>
            cases placed
            rw [Expr.references, noneBeside, Expr.references_of_isColumn isColumn] at member
            simpa using member
        | literalFirst =>
            cases placed
            rw [Expr.references, noneBeside, Expr.references_of_isColumn isColumn] at member
            simpa using member
      subst own
      rw [indexed] at known
      cases known
      exact .compared operators digested placed newPlaced
  | @listed column negated items values otherRule otherIndex known digested =>
      rw [Expr.references, Expr.references_of_isColumn (isColumn_of_indexIn? known),
        Expr.referencesAll_of_literals (literals_of_digested digested).1] at member
      rcases List.mem_singleton.mp member with rfl
      rw [indexed] at known
      cases known
      exact .listed digested

/-- What becomes of a unit is a use of every indexed column in it. -/
theorem use_of_gives_walkExpr {before after : Traversal Unit} (member : ref ∈ unit.references)
    (whole : unit = ref ∨ unit.isUnit = true)
    (run : Gives (walkExpr (visitor catalog) context unit) before newUnit after)
    (outside : context.selectBody = false)
    (indexed : indexIn? catalog before.scope context ref = some (rule, index)) :
    Use catalog before.scope context rule index ref unit newUnit := by
  rcases attentive_visitor.visits_or_replaces member whole run with
    ⟨start, result, last, same, visited, keeps⟩ | ⟨left, operator, right, last, rfl, operated⟩ |
      ⟨operand, negated, items, replacement, last, rfl, rfl, tested⟩
  · rw [← same] at indexed
    rcases grouped_of_gives_reference (unit.isColumn_of_mem_references ref member) visited outside
      indexed with ⟨grouping, renamed⟩
    exact .grouped grouping (keeps _ renamed)
  · exact (replaced_of_operation operated).2.use member indexed
  · exact (replaced_of_membership negated tested).2.use member indexed

/--
In an accepted query every reference to an indexed column has a use, in whatever clause and in
whatever query inside it stands, the projection that the client receives apart.  The reference
belongs to a unit with an address, and what becomes of the unit has the same address in the
result.  Outside the grouping and the condition on groups, the column is compared with a literal
or sought among literals, and only their digests remain, or it is equated with another joined
column.
-/
theorem indexed_columns_have_searchable_uses (catalog : Catalog)
    (statements result : List Statement) (before after : Traversal Unit)
    (accepted : Gives ((shield catalog).protect statements) before result after) (place : Nat)
    (query : Query) (asked : statements[place]? = some (.query query)) :
    ∃ newQuery earlier, result[place]? = some (.query newQuery) ∧
      let opened : Scope := { earlier, current := some {} }
      ∀ path scope context expr ref rule index,
        (Spot.query opened true query).at? path = some (.expr scope context expr) →
          context.selectBody = false → ref ∈ expr.references →
            indexIn? catalog scope context ref = some (rule, index) →
              ∃ deeper unit newUnit, ref ∈ unit.references ∧
                (Spot.query opened true query).at? (path ++ deeper) =
                  some (.expr scope context unit) ∧
                  (Spot.query opened true newQuery).at? (path ++ deeper) =
                    some (.expr scope context newUnit) ∧
                    Use catalog scope context rule index ref unit newUnit := by
  rcases exists_visit_at (gives_protect_iff.mp accepted) asked with
    ⟨start, walked, last, placed, -, walk, -, -⟩
  rcases gives_bind_iff.mp walk with ⟨newQuery, _, queryRun, wrapped⟩
  rcases gives_pure_iff.mp wrapped with ⟨rfl, rfl⟩
  refine ⟨newQuery, start.scope.earlier ++ start.scope.current.toList, placed, ?_⟩
  intro opened path scope context expr ref rule index here outside member indexed
  have meets : (visitor catalog).Meets (.query opened true query) (.query opened true newQuery) :=
    .query queryRun
  have addresses : expr.Addresses scope context ref := expr.addresses ref member
  rcases addresses with ⟨deeper, unit, there, holds, whole⟩
  have found : (Spot.query opened true query).at? (path ++ deeper) =
      some (.expr scope context unit) := by
    rw [Spot.at?_append, here, Option.bind_some, there]
  rcases meets.at? attentive_visitor found with ⟨newFound, newPlace, met⟩
  cases met with
  | expr run =>
      exact ⟨deeper, unit, _, holds, found, newPlace,
        use_of_gives_walkExpr holds whole run outside indexed⟩

/-- Cities by a condition and by groups:
`SELECT c.id FROM cities c WHERE … GROUP BY … HAVING …`. -/
def citiesBy (condition : Option Expr) (group : Expr) (having : Option Expr) : Query :=
  .mk false []
    (.select (.mk [] [.expr (columnOf "c" "id")] "" [.mk (tableAs "cities" "c") []] []
      condition [group] [] having []))
    [] []

/-- A search for a city, grouped by its name, has a use for the name in its condition. -/
theorem citySearch_has_searchable_use :
    ∃ result after, Gives ((shield citiesCatalog).protect
        [.query (citiesBy (some isNamedUlm) (columnOf "c" "name") none)]) { own := () } result
        after ∧
      ∃ scope rule index newUnit,
        indexIn? citiesCatalog scope .plain (columnOf "c" "name") = some (rule, index) ∧
          Use citiesCatalog scope .plain rule index (columnOf "c" "name") isNamedUlm newUnit := by
  have accepts : ∃ result after, Gives ((shield citiesCatalog).protect
      [.query (citiesBy (some isNamedUlm) (columnOf "c" "name") none)]) { own := () } result
      after := exists_gives_of_isOk rfl
  rcases accepts with ⟨result, after, accepted⟩
  refine ⟨result, after, accepted, ?_⟩
  rcases indexed_columns_have_searchable_uses citiesCatalog _ result _ after accepted 0 _ rfl with
    ⟨newQuery, earlier, -, uses⟩
  have member : columnOf "c" "name" ∈ isNamedUlm.references := by
    simp [isNamedUlm, isNamed, columnOf, Expr.references]
  rcases uses [1] _ .plain isNamedUlm (columnOf "c" "name") _ _ rfl rfl member rfl with
    ⟨deeper, unit, newUnit, -, there, -, use⟩
  -- Nothing has an address inside the comparison.
  cases deeper with
  | nil =>
      cases there
      exact ⟨_, _, _, newUnit, rfl, use⟩
  | cons step path => cases there

/-- The pattern match `c.… LIKE 'M%'`. -/
def startsWithM (column : String) : Expr :=
  .like (columnOf "c" column) false "LIKE" (.value (.string "M%")) none

/-- The call `lower(c.…)`. -/
def lowerCase (column : String) : Expr :=
  .call [⟨"lower", none⟩] [.words "(", .expr (columnOf "c" column), .words ")"] [] []

/-- In the condition on groups a pattern match of an indexed column is accepted, and the pattern
is forwarded as the client wrote it; and so is a function of the column as a group. -/
theorem patternOfGroups_passes :
    (∃ after, Gives ((shield citiesCatalog).protect
        [.query (citiesBy none (columnOf "c" "name") (some (startsWithM "name")))]) { own := () }
        [.query (citiesBy none (columnOf "c" "name_bi") (some (startsWithM "name_bi")))] after) ∧
      ∃ after, Gives ((shield citiesCatalog).protect
        [.query (citiesBy none (lowerCase "name") none)]) { own := () }
        [.query (citiesBy none (lowerCase "name_bi") none)] after :=
  ⟨⟨_, rfl⟩, ⟨_, rfl⟩⟩

end IndexShadow

end ColumnVeil
