import ColumnVeil.Proofs.Shield.Pair
import ColumnVeil.Proofs.Shield.Search
import ColumnVeil.Proofs.Traversal.Output
import ColumnVeil.Shield.Chain

/-!
# Queries behind the index shield

The shield for joins gets a query as the shield for indexed columns leaves it.  Comparisons
with literals have been put to shadows by then, and indexed columns are grouped by theirs, but
relations, output names and equalities of joined columns are those of the client.  So what
the chain remembers of a query can be read off the client's own.
-/

namespace ColumnVeil

open Sql

namespace IndexShadow

variable {catalog : Catalog}

/-! ## What the visitor replaces -/

/-- The constants for literals refer to no column. -/
theorem isColumn_of_digested {rule : ColumnRule} {index : BlindIndex} {constant value : Expr}
    (digested : Digested rule index [constant] [value]) : value.isColumn = false := by
  rcases List.forall₂_cons.mp digested with ⟨⟨literal, -, stored⟩, -⟩
  cases stored with
  | null => rfl
  | bytes encodes stores => rfl

/-- The constants for literals have no operations. -/
theorem operationsAll_digested {rule : ColumnRule} {index : BlindIndex}
    {constants values : List Expr} (digested : Digested rule index constants values) :
    Expr.operationsAll values = [] := by
  induction digested with
  | nil => rfl
  | cons first rest inductionHypothesis =>
      rcases first with ⟨literal, -, stored⟩
      rw [Expr.operationsAll, inductionHypothesis, List.append_nil]
      cases stored with
      | null => rfl
      | bytes encodes stores => rfl

/-- The shadow of a column has no operations. -/
theorem operations_shadow {scope : Scope} {context : Context} {column : Expr} {rule : ColumnRule}
    {index : BlindIndex} (indexed : indexIn? catalog scope context column = some (rule, index)) :
    (column.renamed index.column).operations = [] :=
  Expr.operations_of_isColumn ((Expr.isColumn_renamed _ _).trans (isColumn_of_indexIn? indexed))

/-- The sides of a comparison that has been put to a shadow: a reference and a constant. -/
structure Searched (left right : Expr) : Prop where
  apart : ¬ (left.isColumn = true ∧ right.isColumn = true)
  left : left.operations = []
  right : right.operations = []

theorem searched_of_digested {scope : Scope} {context : Context}
    {column constant value left right : Expr} {sides : Expr.Sides} {rule : ColumnRule}
    {index : BlindIndex} (indexed : indexIn? catalog scope context column = some (rule, index))
    (digested : Digested rule index [constant] [value])
    (placed : sides.operands (column.renamed index.column) value = (left, right)) :
    Searched left right := by
  have noColumn := isColumn_of_digested digested
  have plain := operationsAll_digested digested
  rw [Expr.operationsAll, Expr.operationsAll, List.append_nil] at plain
  have shadow := operations_shadow indexed
  cases sides with
  | columnFirst =>
      cases placed
      exact ⟨by simp [noColumn], shadow, plain⟩
  | literalFirst =>
      cases placed
      exact ⟨by simp [noColumn], plain, shadow⟩

/-- An equality of joined columns stays as it is; another operation is walked through or
put to a shadow. -/
theorem operation_of_gives {left right : Expr} {operator : BinaryOperator} {context : Context}
    {before after : Traversal Unit} {found : Option Expr}
    (run : Gives (operation catalog left operator right context) before found after) :
    after = before ∧
      ((∃ pair, JoinShadow.Paired catalog before.scope context left right pair ∧
          found = some (.binary left operator right)) ∨
        (∀ pair, ¬ (operator = .equal ∧ context.selectBody = false ∧
          JoinShadow.Paired catalog before.scope context left right pair)) ∧
        ∀ replacement ∈ found, ∃ newLeft newRight,
          replacement = .binary newLeft operator newRight ∧ Searched newLeft newRight) := by
  rcases operated_of_gives run with ⟨rfl, operated⟩
  refine ⟨rfl, ?_⟩
  cases operated with
  | joined _ _ paired =>
      exact Or.inl ⟨_, paired, rfl⟩
  | compared _ literal placed indexed digested newPlaced =>
      refine Or.inr ⟨?_, ?_⟩
      · rintro pair ⟨-, -, paired⟩
        exact not_paired_of_literal (Expr.literal_of_operands literal placed) paired
      · rintro _ ⟨⟩
        exact ⟨_, _, rfl, searched_of_digested indexed digested newPlaced⟩
  | walked apart _ =>
      exact Or.inr ⟨apart, by rintro _ ⟨⟩⟩

/-- A membership test that is put to a shadow has a reference and constants. -/
theorem membership_of_gives {operand : Expr} {items : List Expr} {context : Context}
    {before after : Traversal Unit} {found : Option (Expr × List Expr)}
    (run : Gives (membership catalog operand items context) before found after) :
    after = before ∧ ∀ replacement ∈ found,
      replacement.1.operations ++ Expr.operationsAll replacement.2 = [] := by
  rcases tested_of_gives run with ⟨rfl, tested⟩
  refine ⟨rfl, ?_⟩
  rintro _ ⟨⟩
  cases tested with
  | listed indexed digested =>
      rw [operations_shadow indexed, operationsAll_digested digested, List.nil_append]

/-- A reference stays as it is, or is put to a shadow in a grouping. -/
theorem reference_of_gives {expr result : Expr} {context : Context} {before after : Traversal Unit}
    (run : Gives ((visitor catalog).reference context expr) before result after) :
    after = before ∧
      (result = expr ∨ context.groupBy = true ∧ ∃ column rule index,
        before.scope.resolve expr context = .ok (some column) ∧
          catalog.ruleOf? column = some rule ∧ rule.blindIndex = some index ∧
            result = expr.renamed index.column) := by
  rcases Visitor.gives_reference_iff.mp run with ⟨-, rfl, rfl⟩ | ⟨column, resolved, visit⟩
  · exact ⟨rfl, Or.inl rfl⟩
  simp only [visitor, IndexShadow.column] at visit
  split at visit
  · rcases gives_pure_iff.mp visit with ⟨rfl, rfl⟩
    exact ⟨rfl, Or.inl rfl⟩
  rename_i index indexed
  rcases Option.bind_eq_some_iff.mp indexed with ⟨rule, ruled, hasIndex⟩
  split at visit
  · rcases gives_pure_iff.mp visit with ⟨rfl, rfl⟩
    exact ⟨rfl, Or.inl rfl⟩
  split at visit
  · rename_i grouped
    rcases gives_pure_iff.mp visit with ⟨rfl, rfl⟩
    exact ⟨rfl, Or.inr ⟨grouped, column, rule, index, resolved, ruled, hasIndex, rfl⟩⟩
  · exact absurd visit not_gives_throw

/-- The visitor is tame with respect to marks that every indexed column has. -/
theorem tame_visitor {marked : Expr → Bool}
    (columns : ∀ expr, marked expr = true → expr.isColumn = true)
    (marks : ∀ {scope : Scope} {expr context column rule index},
      scope.resolve expr context = .ok (some column) → catalog.ruleOf? column = some rule →
        rule.blindIndex = some index → marked (expr.renamed index.column) = true →
          marked expr = true) :
    (visitor catalog).Tame marked Unrelated where
  columns := columns
  reference context expr isColumn := by
    intro before after result run
    rcases reference_of_gives run with
      ⟨rfl, rfl | ⟨grouped, column, rule, index, resolved, ruled, indexed, rfl⟩⟩
    · exact ⟨rfl, trivial, isColumn, Or.inl rfl, id⟩
    · exact ⟨rfl, trivial, (Expr.isColumn_renamed _ _).trans isColumn, Or.inr grouped,
        marks resolved ruled indexed⟩
  operation left operator right context harmless := by
    intro before after found run
    rcases operation_of_gives run with ⟨rfl, ⟨pair, paired, rfl⟩ | ⟨-, searched⟩⟩
    · refine ⟨rfl, trivial, ?_⟩
      rintro replacement ⟨⟩
      refine ⟨⟨_, _, rfl⟩, ?_⟩
      rw [Expr.operations, Expr.operations_of_isColumn (isColumn_of_resolve paired.left),
        Expr.operations_of_isColumn (isColumn_of_resolve paired.right)]
      exact Harmless.cons_iff.mpr ⟨harmless, Harmless.nil⟩
    · refine ⟨rfl, trivial, fun replacement isFound => ?_⟩
      rcases searched replacement isFound with ⟨newLeft, newRight, rfl, sides⟩
      refine ⟨⟨_, _, rfl⟩, ?_⟩
      rw [Expr.operations, sides.left, sides.right]
      refine Harmless.cons_iff.mpr ⟨?_, Harmless.nil⟩
      rintro ⟨-, leftMarked, rightMarked⟩
      exact sides.apart ⟨columns newLeft leftMarked, columns newRight rightMarked⟩
  membership operand items context := by
    intro before after found run
    rcases membership_of_gives run with ⟨rfl, replaced⟩
    refine ⟨rfl, trivial, fun replacement isFound => ?_⟩
    rw [replaced replacement isFound]
    exact Harmless.nil
  wildcard := .pure trivial
  unsupported feature before after value run := (gives_pure_iff.mp run).2

theorem tame_unmarked : (visitor catalog).Tame (fun _ => false) Unrelated :=
  tame_visitor (by rintro _ ⟨⟩) fun _ _ _ => id

theorem tame_marked : (visitor catalog).Tame catalog.marks Unrelated :=
  tame_visitor (fun _ => Catalog.isColumn_of_marks) fun resolved ruled indexed _ =>
    Catalog.marks_of_resolve resolved ruled (by rw [indexed, Option.isSome_some, Bool.or_true])

/-! ## Conditions that are passed on -/

/--
What a condition says of joined columns, before and after: the equalities of joined
columns that it asserts stay, no other equality of columns comes in, and its other operations
stay harmless.
-/
structure Passed (catalog : Catalog) (scope : Scope) (context : Context)
    (equated newEquated : List (Expr × Expr)) (buried newBuried : List Operation) : Prop where
  keeps : ∀ {sides pair}, sides ∈ equated →
    JoinShadow.Paired catalog scope context sides.1 sides.2 pair → sides ∈ newEquated
  comes : ∀ {sides}, sides ∈ newEquated → sides.1.isColumn = true → sides.2.isColumn = true →
    sides ∈ equated
  spares : Harmless catalog.marks buried → Harmless catalog.marks newBuried

namespace Passed

variable {scope : Scope} {context : Context}

theorem nil : Passed catalog scope context [] [] [] [] :=
  ⟨by simp, by simp, id⟩

theorem append {equated newEquated moreEquated moreNewEquated : List (Expr × Expr)}
    {buried newBuried moreBuried moreNewBuried : List Operation}
    (first : Passed catalog scope context equated newEquated buried newBuried)
    (second : Passed catalog scope context moreEquated moreNewEquated moreBuried moreNewBuried) :
    Passed catalog scope context (equated ++ moreEquated) (newEquated ++ moreNewEquated)
      (buried ++ moreBuried) (newBuried ++ moreNewBuried) where
  keeps member paired := by
    rcases List.mem_append.mp member with inFirst | inSecond
    · exact List.mem_append_left _ (first.keeps inFirst paired)
    · exact List.mem_append_right _ (second.keeps inSecond paired)
  comes member left right := by
    rcases List.mem_append.mp member with inFirst | inSecond
    · exact List.mem_append_left _ (first.comes inFirst left right)
    · exact List.mem_append_right _ (second.comes inSecond left right)
  spares harmless := by
    rcases Harmless.append_iff.mp harmless with ⟨firstHarmless, secondHarmless⟩
    exact Harmless.append_iff.mpr ⟨first.spares firstHarmless, second.spares secondHarmless⟩

/-- Only the meaning of references matters. -/
theorem congr {equated newEquated : List (Expr × Expr)} {buried newBuried : List Operation}
    {other : Scope} {otherContext : Context}
    (passed : Passed catalog scope context equated newEquated buried newBuried)
    (same : ∀ expr, scope.resolve expr context = other.resolve expr otherContext) :
    Passed catalog other otherContext equated newEquated buried newBuried :=
  ⟨fun member paired => passed.keeps member (paired.congr same), passed.comes, passed.spares⟩

end Passed

section Conditions

variable {context : Context} {before after : Traversal Unit}

/-- A condition that asserts nothing goes on asserting nothing. -/
theorem passed_of_not_asserts {condition result : Expr} (other : condition.asserts = false)
    (run : Gives (walkExpr (visitor catalog) context condition) before result after) :
    after.scope = before.scope ∧
      Passed catalog before.scope context condition.equated result.equated condition.buried
        result.buried := by
  rcases (walkExpr_stays tame_unmarked context condition
    (Visitor.Steadfast.unmarked _)).spec run with ⟨scope, -, follows⟩
  have still : result.asserts = false := by
    rw [← Bool.not_eq_true]
    intro asserts
    rw [follows.asserts asserts] at other
    cases other
  rw [Expr.equated_of_not_asserts other, Expr.equated_of_not_asserts still,
    Expr.buried_of_not_asserts other, Expr.buried_of_not_asserts still]
  refine ⟨scope, by simp, by simp, fun harmless => ?_⟩
  exact ((walkExpr_stays tame_marked context condition harmless).spec run).2.2.harmless

/-- An equality of joined columns stays; no other equality becomes one of columns. -/
theorem passed_of_equality (onRows : context.OnRows) {left right result : Expr}
    (run : Gives (walkExpr (visitor catalog) context (.binary left .equal right)) before result
      after) :
    after.scope = before.scope ∧
      Passed catalog before.scope context [(left, right)] result.equated
        (left.operations ++ right.operations) result.buried := by
  rw [walkExpr] at run
  rcases gives_bind_iff.mp run with ⟨found, middle, asked, rest⟩
  rcases operation_of_gives asked with ⟨rfl, ⟨pair, paired, rfl⟩ | ⟨apart, searched⟩⟩
  · rcases gives_pure_iff.mp rest with ⟨rfl, rfl⟩
    exact ⟨rfl, fun member _ => member, fun member _ _ => member, id⟩
  -- No equality of joined columns is lost where there is none.
  have keeps {sides : Expr × Expr} {pair : ColumnRef × ColumnRef}
      {newEquated : List (Expr × Expr)} (member : sides ∈ [(left, right)])
      (paired : JoinShadow.Paired catalog middle.scope context sides.1 sides.2 pair) :
      sides ∈ newEquated := by
    rcases List.mem_singleton.mp member with rfl
    exact absurd ⟨rfl, onRows.selectBody, paired⟩ (apart pair)
  cases found with
  | some replacement =>
      rcases searched replacement rfl with ⟨newLeft, newRight, rfl, sides⟩
      rcases gives_pure_iff.mp rest with ⟨rfl, rfl⟩
      refine ⟨rfl, keeps, ?_, ?_⟩
      · intro sides' member leftColumn rightColumn
        rcases List.mem_singleton.mp member with rfl
        exact absurd ⟨leftColumn, rightColumn⟩ sides.apart
      · intro _
        have plain : (Expr.binary newLeft .equal newRight).buried = [] := by
          rw [Expr.buried, sides.left, sides.right, List.append_nil]
        rw [plain]
        exact Harmless.nil
  | none =>
      simp only [gives_bind_iff, gives_pure_iff] at rest
      rcases rest with ⟨newLeft, between, leftRun, newRight, _, rightRun, rfl, rfl⟩
      rcases (walkExpr_stays tame_unmarked context left
        (Visitor.Steadfast.unmarked _)).spec leftRun with ⟨leftScope, -, leftFollows⟩
      rcases (walkExpr_stays tame_unmarked context right
        (Visitor.Steadfast.unmarked _)).spec rightRun with ⟨rightScope, -, rightFollows⟩
      have plain : ¬ context.groupBy = true := by
        rw [onRows.groupBy]
        exact Bool.false_ne_true
      refine ⟨rightScope.trans leftScope, keeps, ?_, ?_⟩
      · intro sides member leftColumn rightColumn
        rcases List.mem_singleton.mp member with rfl
        rw [(leftFollows.column leftColumn).resolve_right plain,
          (rightFollows.column rightColumn).resolve_right plain]
        exact List.mem_cons_self
      · intro harmless
        rcases Harmless.append_iff.mp harmless with ⟨leftHarmless, rightHarmless⟩
        exact Harmless.append_iff.mpr
          ⟨((walkExpr_stays tame_marked context left leftHarmless).spec leftRun).2.2.harmless,
            ((walkExpr_stays tame_marked context right rightHarmless).spec
              rightRun).2.2.harmless⟩

/-- What becomes of a condition on rows, by induction on the connectives that assert. -/
theorem passed_of_gives (onRows : context.OnRows) (condition : Expr)
    {before after : Traversal Unit} {result : Expr}
    (run : Gives (walkExpr (visitor catalog) context condition) before result after) :
    after.scope = before.scope ∧
      Passed catalog before.scope context condition.equated result.equated condition.buried
        result.buried := by
  cases condition with
  | binary left operator right =>
      cases operator with
      | and =>
          rw [walkExpr] at run
          rcases gives_bind_iff.mp run with ⟨found, middle, asked, rest⟩
          have walked : found = none ∧ middle = before := by
            rcases gives_pure_iff.mp asked with ⟨rfl, rfl⟩
            exact ⟨rfl, rfl⟩
          rcases walked with ⟨rfl, rfl⟩
          simp only [gives_bind_iff, gives_pure_iff] at rest
          rcases rest with ⟨newLeft, between, leftRun, newRight, _, rightRun, rfl, rfl⟩
          rcases passed_of_gives onRows left leftRun with ⟨leftScope, leftPassed⟩
          rcases passed_of_gives onRows right rightRun with ⟨rightScope, rightPassed⟩
          rw [leftScope] at rightScope rightPassed
          exact ⟨rightScope, leftPassed.append rightPassed⟩
      | equal => exact passed_of_equality onRows run
      | _ => exact passed_of_not_asserts rfl run
  | nested inner =>
      simp only [walkExpr, gives_bind_iff, gives_pure_iff] at run
      rcases run with ⟨newInner, _, innerRun, rfl, rfl⟩
      have passed := passed_of_gives onRows inner innerRun
      exact passed
  | _ => exact passed_of_not_asserts rfl run
termination_by structural condition

/-- What becomes of conditions that are walked through one behind the other. -/
theorem passedAll_of_gives (onRows : context.OnRows) {conditions results : List Expr}
    (run : Gives (walkExprs (visitor catalog) context conditions) before results after) :
    after.scope = before.scope ∧
      Passed catalog before.scope context (conditions.flatMap Expr.equated)
        (results.flatMap Expr.equated) (conditions.flatMap Expr.buried)
        (results.flatMap Expr.buried) := by
  induction conditions generalizing before results with
  | nil =>
      rcases gives_pure_iff.mp run with ⟨rfl, rfl⟩
      exact ⟨rfl, .nil⟩
  | cons condition rest inductionHypothesis =>
      simp only [walkExprs, gives_bind_iff, gives_pure_iff] at run
      rcases run with ⟨newCondition, middle, walk, newRest, _, restRun, rfl, rfl⟩
      rcases passed_of_gives onRows condition walk with ⟨scope, passed⟩
      rcases inductionHypothesis restRun with ⟨restScope, restPassed⟩
      rw [scope] at restScope restPassed
      exact ⟨restScope, passed.append restPassed⟩

end Conditions

/-! ## Queries that are passed on -/

/--
What the shield passes on of a query with a selection: the output names, and what its
conditions say of joined columns.
-/
structure Forwarded (catalog : Catalog) (query newQuery : Query) (select newSelect : Select) :
    Prop where
  selection : newQuery.selection? = some newSelect
  shown : newSelect.shown = select.shown
  passed : Passed catalog select.shown .plain select.equated newSelect.equated
    (query.buried select) (newQuery.buried newSelect)

section Queries

variable {query result : Query} {select : Select} {before after : Traversal Unit}

/-- A query is passed on with its output names and its equalities of joined columns. -/
theorem forwarded_of_gives (selection : query.selection? = some select)
    (begins : (before.scope.push true).Begins)
    (run : Gives (walkQuery (visitor catalog) true query) before result after) :
    ∃ newSelect, Forwarded catalog query result select newSelect := by
  rcases exists_selected_of_query tame_unmarked selection (Visitor.Steadfast.unmarked _)
    (Visitor.Steadfast.unmarked _) run begins with
    ⟨newSelect, start, entered, shown, joined, chosen, last, newSelection, -, selected, -, -, -, -,
      startBegins, reads⟩
  rcases passedAll_of_gives Context.onRows_ofJoin selected.joins with ⟨joinedScope, joinsPassed⟩
  rcases passedAll_of_gives Context.onRows_plain selected.chooses with ⟨-, conditionPassed⟩
  have projects := selected.projects
  rw [startBegins.returnsRows] at projects
  have sameEntered : newSelect.entered = select.entered := by
    rw [Select.entered, Select.entered, selected.names]
  have conditions := (joinsPassed.congr fun expr =>
      (Scope.resolve_of_onRows Context.onRows_ofJoin _ expr).trans
        (reads.resolve_eq expr .plain)).append
    (conditionPassed.congr fun expr => by
      rw [joinedScope]
      exact reads.resolve_eq expr .plain)
  simp only [← List.flatMap_append] at conditions
  refine ⟨newSelect, newSelection, ?_, conditions.keeps, conditions.comes, ?_⟩
  · rw [Select.shown, sameEntered, Select.shown]
    exact leave_of_gives_walkProjection tame_unmarked (Visitor.Steadfast.unmarked _) projects _
  · intro harmless
    simp only [Query.buried, Harmless.append_iff] at harmless ⊢
    rcases exists_selected_of_query tame_marked selection harmless.1.1 harmless.1.2 run begins with
      ⟨otherSelect, _, _, _, _, _, _, otherSelection, outer, otherSelected, -⟩
    rw [newSelection] at otherSelection
    cases otherSelection
    exact ⟨⟨outer, otherSelected.harmless⟩, conditions.spares harmless.2⟩

/-- The item of a projection gives the column that it shows its output name. -/
theorem shows_of_gives (selection : query.selection? = some select)
    (begins : (before.scope.push true).Begins)
    (run : Gives (walkQuery (visitor catalog) true query) before result after)
    {item : SelectItem} {expr : Expr} {aliasName : Option Ident} {column : ColumnRef}
    (member : item ∈ select.projection) (shows : item.shown? = some (expr, aliasName))
    (resolved : select.entered.resolve expr .plain = .ok (some column)) :
    select.shown.output? (Scope.outputName aliasName column) = some column := by
  refine (outputs_of_gives_walkQuery tame_unmarked selection run begins).2 _ _
    (SelectItem.mem_outputs member shows fun scope frames => ?_)
  refine Scope.resolve_of_entered ⟨rfl, rfl⟩ ⟨[], ?_, by rintro _ ⟨⟩⟩ resolved
  rw [frames, List.append_nil]

end Queries

end IndexShadow

/-! ## Texts -/

section Texts

variable {catalog : Catalog} {statements result : List Statement} {query : Query}
  {select : Select} {index : Nat} {before after : ChainState}

/-- What the chain does with a query: the index shield walks through it, and the shield for
joins gets what becomes of it. -/
theorem exists_walk_of_chain (found : statements[index]? = some (.query query))
    (run : Gives (catalog.chain.protect statements) before result after) :
    ∃ forwarded joined newQuery start last,
      Gives (walkQuery (IndexShadow.visitor catalog) true query) start newQuery last ∧
        (start.scope.push true).Begins ∧ forwarded[index]? = some (.query newQuery) ∧
          Gives ((JoinShadow.shield catalog).protect forwarded) before.2.1 joined after.2.1 := by
  rcases Shield.gives_protect_andThen_iff.mp run with ⟨forwarded, indexRun, rest⟩
  rcases Shield.gives_protect_andThen_iff.mp rest with ⟨joined, joinRun, -⟩
  simp only [IndexShadow.shield, walkStatements, gives_bind_iff,
    Walk.gives_changeScope_iff] at indexRun
  rcases indexRun with ⟨_, _, rfl, indexRun⟩
  rcases exists_walk_at indexRun found with
    ⟨earlier, newEarlier, start, walked, last, later, newLater, -, place, -, walk, -⟩
  simp only [walkStatement, gives_bind_iff, gives_pure_iff] at walk
  rcases walk with ⟨newQuery, _, walk, rfl, rfl⟩
  exact ⟨forwarded, joined, newQuery, _, _, walk, start.scope.begins_beginStatement, place, joinRun⟩

/-- The chain remembers of a query what the client's own query says. -/
theorem recalls_of_gives_chain (found : statements[index]? = some (.query query))
    (selection : query.selection? = some select)
    (run : Gives (catalog.chain.protect statements) before result after) :
    JoinShadow.Recalls catalog query select index after.2.1 := by
  rcases exists_walk_of_chain found run with
    ⟨statements, joined, newQuery, start, last, walk, begins, place, joinRun⟩
  rcases IndexShadow.forwarded_of_gives selection begins walk with ⟨newSelect, forwarded⟩
  have recalls := JoinShadow.recalls_of_gives_protect place forwarded.selection joinRun
  refine ⟨?_, ?_, ?_⟩
  · rw [recalls.results, forwarded.shown]
  · intro left right pair member paired
    refine recalls.asserted (forwarded.passed.keeps member paired) ?_
    rw [forwarded.shown]
    exact paired
  · intro harmless pair member
    rcases recalls.only (forwarded.passed.spares harmless) member with ⟨sides, newMember, paired⟩
    rw [forwarded.shown] at paired
    exact ⟨sides, forwarded.passed.comes newMember (isColumn_of_resolve paired.left)
      (isColumn_of_resolve paired.right), paired⟩

/-- In a query that the chain accepts, an item that shows a column gives it its name. -/
theorem output?_of_gives_chain (found : statements[index]? = some (.query query))
    (selection : query.selection? = some select)
    (run : Gives (catalog.chain.protect statements) before result after)
    {item : SelectItem} {expr : Expr} {aliasName : Option Ident} {column : ColumnRef}
    (member : item ∈ select.projection) (shows : item.shown? = some (expr, aliasName))
    (resolved : select.entered.resolve expr .plain = .ok (some column)) :
    select.shown.output? (Scope.outputName aliasName column) = some column := by
  rcases exists_walk_of_chain found run with
    ⟨statements, joined, newQuery, start, last, walk, begins, -, -⟩
  exact IndexShadow.shows_of_gives selection begins walk member shows resolved

end Texts

end ColumnVeil
