import ColumnVeil.Proofs.Shield.Condition
import ColumnVeil.Proofs.Shield.Treatment
import ColumnVeil.Shield.Join

/-!
# Pairs of joined columns

An equality of joined columns outside the client's projection is remembered as a pair of
columns, with the number of its statement.  Nothing else that a walk comes to adds a pair.
So the pairs of a statement are those of the equalities in it, and an equality that a
condition asserts is among them.

Whether an equality is one of joined columns depends on its scope.  The marks of `marks` are
read off a reference alone; an equality without marks on both sides is none of joined columns
in any scope.
-/

namespace ColumnVeil

open Sql

/-! ## Conditions -/

/-- The context of a condition on rows. -/
structure Context.OnRows (context : Context) : Prop where
  selectBody : context.selectBody = false
  orderBy : context.orderBy = false
  groupBy : context.groupBy = false

theorem Context.onRows_ofJoin : Context.ofJoin.OnRows := ⟨rfl, rfl, rfl⟩

theorem Context.onRows_plain : Context.plain.OnRows := ⟨rfl, rfl, rfl⟩

theorem Scope.resolve_of_onRows {context : Context} (onRows : context.OnRows) (scope : Scope)
    (expr : Expr) : scope.resolve expr context = scope.resolve expr .plain := by
  cases expr with
  | identifier ident =>
      simp [resolve, resolveName, onRows.orderBy, onRows.groupBy, Context.plain]
  | _ => rfl

/-! ## Marks -/

/-- A reference that may mean a column with a shadow.  A name without qualifier may stand for
any column that the client gives this name. -/
def Catalog.marks (catalog : Catalog) : Expr → Bool
  | .identifier _ => true
  | .compound parts =>
      match parts.getLast? with
      | some last => catalog.rules.any fun entry =>
          entry.1.column == foldCase last.normal &&
            (entry.2.joinShadow.isSome || entry.2.blindIndex.isSome)
      | none => false
  | _ => false

theorem Catalog.isColumn_of_marks {catalog : Catalog} {expr : Expr}
    (marked : catalog.marks expr = true) : expr.isColumn = true := by
  cases expr with
  | identifier ident => rfl
  | compound parts => rfl
  | _ => cases marked

theorem isColumn_of_resolve {scope : Scope} {expr : Expr} {context : Context}
    {column : ColumnRef} (resolved : scope.resolve expr context = .ok (some column)) :
    expr.isColumn = true := by
  cases expr with
  | identifier ident => rfl
  | compound parts => rfl
  | _ => cases resolved

/-- A reference that means a column with a shadow is marked. -/
theorem Catalog.marks_of_resolve {catalog : Catalog} {scope : Scope} {expr : Expr}
    {context : Context} {column : ColumnRef} {rule : ColumnRule}
    (resolved : scope.resolve expr context = .ok (some column))
    (ruled : catalog.ruleOf? column = some rule)
    (shadowed : rule.joinShadow.isSome || rule.blindIndex.isSome) :
    catalog.marks expr = true := by
  cases expr with
  | identifier ident => rfl
  | compound parts =>
      simp only [Scope.resolve] at resolved
      split at resolved
      · rename_i last qualifier rest reversed
        have ends : parts.getLast? = some last := by
          rw [← List.head?_reverse, reversed, List.head?_cons]
        have named : column.column = last.normal := by
          split at resolved
          · cases resolved
            rfl
          · cases resolved
        rw [marks, ends]
        simp only [List.any_eq_true, Bool.and_eq_true, beq_iff_eq]
        rw [ruleOf?, rule?, List.lookup_eq_some_iff] at ruled
        rcases ruled with ⟨earlier, later, entries, -⟩
        refine ⟨(⟨foldCase column.table, foldCase column.column⟩, rule), ?_, ?_, shadowed⟩
        · rw [entries]
          exact List.mem_append_right _ List.mem_cons_self
        · rw [named]
      · cases resolved
  | _ => cases resolved

namespace JoinShadow

variable {catalog : Catalog}

/-! ## Equalities of joined columns -/

/-- The two sides of an equality mean joined columns. -/
structure Paired (catalog : Catalog) (scope : Scope) (context : Context) (left right : Expr)
    (pair : ColumnRef × ColumnRef) : Prop where
  left : scope.resolve left context = .ok (some pair.1)
  right : scope.resolve right context = .ok (some pair.2)
  leftShadow : (shadow? catalog pair.1).isSome = true
  rightShadow : (shadow? catalog pair.2).isSome = true

theorem isSome_shadow?_iff {column : ColumnRef} :
    (shadow? catalog column).isSome = true ↔
      ∃ rule, catalog.ruleOf? column = some rule ∧ rule.joinShadow.isSome = true := by
  cases ruled : catalog.ruleOf? column with
  | none => simp [shadow?, ruled]
  | some rule => simp [shadow?, ruled]

theorem any_joinShadow_eq (column : ColumnRef) :
    ((catalog.ruleOf? column).any fun rule => rule.joinShadow.isSome) =
      (shadow? catalog column).isSome := by
  cases ruled : catalog.ruleOf? column with
  | none => simp [shadow?, ruled]
  | some rule => simp [shadow?, ruled]

/-- Whether sides are joined columns only depends on what they mean. -/
theorem Paired.congr {scope other : Scope} {context otherContext : Context} {left right : Expr}
    {pair : ColumnRef × ColumnRef} (paired : Paired catalog scope context left right pair)
    (same : ∀ expr, other.resolve expr otherContext = scope.resolve expr context) :
    Paired catalog other otherContext left right pair where
  left := (same left).trans paired.left
  right := (same right).trans paired.right
  leftShadow := paired.leftShadow
  rightShadow := paired.rightShadow

/-- Sides without marks on both are no joined columns. -/
theorem Paired.not_harmless {scope : Scope} {context : Context} {left right : Expr}
    {pair : ColumnRef × ColumnRef} (paired : Paired catalog scope context left right pair) :
    ¬ Operation.Harmless catalog.marks ⟨left, .equal, right⟩ := by
  rcases isSome_shadow?_iff.mp paired.leftShadow with ⟨leftRule, leftRuled, leftJoined⟩
  rcases isSome_shadow?_iff.mp paired.rightShadow with ⟨rightRule, rightRuled, rightJoined⟩
  intro harmless
  exact harmless ⟨rfl,
    Catalog.marks_of_resolve paired.left leftRuled (by rw [leftJoined, Bool.true_or]),
    Catalog.marks_of_resolve paired.right rightRuled (by rw [rightJoined, Bool.true_or])⟩

section Pairs

variable {σ : Type} {left right : Expr} {operator : BinaryOperator} {context : Context}
  {before after : Traversal σ} {found : Option (ColumnRef × ColumnRef)}

/-- Looking for a pair keeps the state, and finds the columns of an equality outside the
client's projection if both are joined. -/
theorem pair?_of_gives
    (run : Gives (pair? catalog left operator right context) before found after) :
    before = after ∧ ∀ pair, found = some pair ↔
      operator = .equal ∧ context.selectBody = false ∧
        Paired catalog before.scope context left right pair := by
  rw [pair?] at run
  split at run
  · rename_i other
    rcases gives_pure_iff.mp run with ⟨rfl, rfl⟩
    exact ⟨rfl, fun pair => ⟨by rintro ⟨⟩, fun equality => absurd equality.1 other⟩⟩
  rename_i equality
  split at run
  · rename_i delivered
    rcases gives_pure_iff.mp run with ⟨rfl, rfl⟩
    refine ⟨rfl, fun pair => ⟨by rintro ⟨⟩, fun outside => ?_⟩⟩
    rw [outside.2.1] at delivered
    cases delivered
  rename_i outside
  simp only [gives_bind_iff, Walk.gives_resolve_iff] at run
  rcases run with ⟨leftColumn, _, ⟨leftFound, rfl⟩, rightColumn, _, ⟨rightFound, rfl⟩, run⟩
  split at run
  · rename_i leftColumn rightColumn
    rcases gives_pure_iff.mp run with ⟨decided, rfl⟩
    refine ⟨rfl, fun pair => ?_⟩
    rw [← decided]
    constructor
    · intro found
      split at found
      · rename_i both
        cases found
        rw [Bool.and_eq_true, any_joinShadow_eq, any_joinShadow_eq] at both
        exact ⟨by simpa using equality, by simpa using outside, leftFound, rightFound, both.1,
          both.2⟩
      · cases found
    · rintro ⟨-, -, paired⟩
      have leftSame := leftFound.symm.trans paired.left
      have rightSame := rightFound.symm.trans paired.right
      cases leftSame
      cases rightSame
      rw [if_pos]
      rw [Bool.and_eq_true, any_joinShadow_eq, any_joinShadow_eq]
      exact ⟨paired.leftShadow, paired.rightShadow⟩
  · rename_i unresolved
    rcases gives_pure_iff.mp run with ⟨rfl, rfl⟩
    refine ⟨rfl, fun pair => ⟨by rintro ⟨⟩, fun paired => ?_⟩⟩
    have leftSame := leftFound.symm.trans paired.2.2.left
    have rightSame := rightFound.symm.trans paired.2.2.right
    cases leftSame
    cases rightSame
    exact absurd rfl (unresolved _ _ rfl)

end Pairs

/-! ## What the visitor remembers -/

/-- The state with one more pair, for the current statement. -/
def remember (state : Traversal State) (pair : ColumnRef × ColumnRef) : Traversal State :=
  { state with own := { state.own with
      pairs := state.own.pairs ++ [(state.scope.statementIndex, pair)] } }

/-- An equality of joined columns is replaced and remembered; nothing else is. -/
theorem operation_of_gives {left right : Expr} {operator : BinaryOperator} {context : Context}
    {before after : Traversal State} {found : Option Expr}
    (run : Gives (operation catalog left operator right context) before found after) :
    (found = none ∧ after = before ∧ ∀ pair,
      ¬ (operator = .equal ∧ context.selectBody = false ∧
        Paired catalog before.scope context left right pair)) ∨
      ∃ pair leftShadow rightShadow,
        operator = .equal ∧ context.selectBody = false ∧
          Paired catalog before.scope context left right pair ∧
            found = some (.binary (left.renamed leftShadow) operator (right.renamed rightShadow)) ∧
              after = remember before pair := by
  rcases gives_bind_iff.mp run with ⟨paired, middle, lookup, run⟩
  rcases pair?_of_gives lookup with ⟨rfl, means⟩
  cases paired with
  | none =>
      rcases gives_pure_iff.mp run with ⟨rfl, rfl⟩
      refine Or.inl ⟨rfl, rfl, fun pair joined => ?_⟩
      cases (means pair).mpr joined
  | some pair =>
      rcases (means pair).mp rfl with ⟨equality, outside, joined⟩
      simp only [gives_bind_iff, Walk.gives_scope_iff] at run
      rcases run with ⟨_, _, ⟨rfl, rfl⟩, run⟩
      split at run
      · simp at run
      · rcases Option.isSome_iff_exists.mp joined.leftShadow with ⟨leftShadow, leftName⟩
        rcases Option.isSome_iff_exists.mp joined.rightShadow with ⟨rightShadow, rightName⟩
        simp only [leftName, rightName, gives_bind_iff, gives_modify_iff,
          gives_pure_iff] at run
        rcases run with ⟨_, _, rfl, rfl, rfl⟩
        exact Or.inr ⟨pair, leftShadow, rightShadow, equality, outside, joined, rfl, rfl⟩

/--
Between two states of a statement only allowed pairs have been remembered, for this
statement.
-/
structure Adds (allowed : ColumnRef × ColumnRef → Prop) (before after : Traversal State) :
    Prop where
  earlier : after.scope.earlier = before.scope.earlier
  begun : before.scope.current.isSome = true → after.scope.current.isSome = true
  added : before.scope.current.isSome = true →
    ∃ added, after.own.pairs = before.own.pairs ++ added ∧
      ∀ entry ∈ added, entry.1 = before.scope.earlier.length ∧ allowed entry.2

namespace Adds

variable {allowed : ColumnRef × ColumnRef → Prop} {before middle after : Traversal State}

theorem of_same_pairs (earlier : after.scope.earlier = before.scope.earlier)
    (begun : before.scope.current.isSome = true → after.scope.current.isSome = true)
    (pairs : after.own.pairs = before.own.pairs) : Adds allowed before after where
  earlier := earlier
  begun := begun
  added _ := ⟨[], by rw [pairs, List.append_nil], by rintro _ ⟨⟩⟩

theorem trans (first : Adds allowed before middle) (second : Adds allowed middle after) :
    Adds allowed before after where
  earlier := second.earlier.trans first.earlier
  begun isBegun := second.begun (first.begun isBegun)
  added isBegun := by
    rcases first.added isBegun with ⟨added, firstPairs, firstAllowed⟩
    rcases second.added (first.begun isBegun) with ⟨more, secondPairs, secondAllowed⟩
    refine ⟨added ++ more, ?_, ?_⟩
    · rw [secondPairs, firstPairs, List.append_assoc]
    · intro entry member
      rcases List.mem_append.mp member with first' | second'
      · exact firstAllowed entry first'
      · rw [← first.earlier]
        exact secondAllowed entry second'

theorem weaken {larger : ColumnRef × ColumnRef → Prop} (adds : Adds allowed before after)
    (enough : ∀ pair, allowed pair → larger pair) : Adds larger before after where
  earlier := adds.earlier
  begun := adds.begun
  added isBegun := by
    rcases adds.added isBegun with ⟨added, pairs, all⟩
    exact ⟨added, pairs, fun entry member => ⟨(all entry member).1, enough _ (all entry member).2⟩⟩

instance : Steady (Adds allowed) where
  trans := trans
  frames state frames := of_same_pairs rfl id rfl
  register := by
    intro state name column registered accepted
    rcases Scope.register_ok_iff.mp accepted with ⟨results, -, rfl⟩
    exact of_same_pairs rfl (fun _ => rfl) rfl

/-- The index of a statement that has begun. -/
theorem statementIndex_of_begun {scope : Scope} (begun : scope.current.isSome = true) :
    scope.statementIndex = scope.earlier.length := by
  rcases Option.isSome_iff_exists.mp begun with ⟨results, current⟩
  simp [Scope.statementIndex, Scope.statementCount, current]

theorem remember {pair : ColumnRef × ColumnRef} (isAllowed : allowed pair)
    (state : Traversal State) : Adds allowed state (remember state pair) where
  earlier := rfl
  begun := id
  added begun := by
    refine ⟨[(state.scope.statementIndex, pair)], rfl, ?_⟩
    intro entry member
    rcases List.mem_singleton.mp member with rfl
    exact ⟨statementIndex_of_begun begun, isAllowed⟩

end Adds

/--
The visitor is tame with respect to marks if it is allowed to remember every pair
that a harmless equality can have.
-/
theorem tame_visitor {marked : Expr → Bool} {allowed : ColumnRef × ColumnRef → Prop}
    (columns : ∀ expr, marked expr = true → expr.isColumn = true)
    (allows : ∀ {scope context left right pair}, Paired catalog scope context left right pair →
      Operation.Harmless marked ⟨left, .equal, right⟩ →
        allowed pair ∧ ∀ leftShadow rightShadow,
          Operation.Harmless marked
            ⟨left.renamed leftShadow, .equal, right.renamed rightShadow⟩) :
    (visitor catalog).Tame marked (Adds allowed) where
  columns := columns
  reference context expr isColumn := by
    intro before after result run
    have same : expr = result ∧ before = after := by
      rcases Visitor.gives_reference_iff.mp run with ⟨-, unchanged⟩ | ⟨column, -, visit⟩
      · exact unchanged
      · simp only [visitor, JoinShadow.column] at visit
        split at visit
        · exact gives_pure_iff.mp visit
        · exact absurd visit not_gives_throw
    rcases same with ⟨rfl, rfl⟩
    exact ⟨rfl, Steady.refl before, isColumn, Or.inl rfl, id⟩
  operation left operator right context harmless := by
    intro before after found run
    rcases operation_of_gives run with ⟨rfl, rfl, -⟩ |
      ⟨pair, leftShadow, rightShadow, rfl, outside, paired, rfl, rfl⟩
    · exact ⟨rfl, Steady.refl _, by rintro _ ⟨⟩⟩
    · rcases allows paired harmless with ⟨isAllowed, spared⟩
      refine ⟨rfl, Adds.remember isAllowed before, ?_⟩
      rintro replacement ⟨⟩
      refine ⟨⟨_, _, rfl⟩, ?_⟩
      rw [Expr.operations, Harmless.cons_iff,
        Expr.operations_of_isColumn
          ((Expr.isColumn_renamed _ _).trans (isColumn_of_resolve paired.left)),
        Expr.operations_of_isColumn
          ((Expr.isColumn_renamed _ _).trans (isColumn_of_resolve paired.right))]
      exact ⟨spared _ _, Harmless.nil⟩
  membership operand items context := .pure (by rintro _ ⟨⟩)
  wildcard := .pure trivial
  unsupported feature before after value run := (gives_pure_iff.mp run).2

/-- Without marks every equality may be one of joined columns. -/
theorem tame_unmarked :
    (visitor catalog).Tame (fun _ => false) (Adds fun _ => True) :=
  tame_visitor (by rintro _ ⟨⟩) fun _ _ =>
    ⟨trivial, fun _ _ => Operation.harmless_of_unmarked _⟩

/-- Equalities that are harmless by their marks leave nothing behind. -/
theorem tame_marked :
    (visitor catalog).Tame catalog.marks (Adds fun _ => False) :=
  tame_visitor (fun _ => Catalog.isColumn_of_marks) fun paired harmless =>
    absurd harmless paired.not_harmless

/-! ## Pairs of conditions -/

theorem Paired.unique {scope : Scope} {context : Context} {left right : Expr}
    {pair other : ColumnRef × ColumnRef} (first : Paired catalog scope context left right pair)
    (second : Paired catalog scope context left right other) : pair = other := by
  have leftSame := first.left.symm.trans second.left
  have rightSame := first.right.symm.trans second.right
  cases pair
  cases other
  cases leftSame
  cases rightSame
  rfl

theorem mem_pairs_of_adds {before after : Traversal State} {allowed : ColumnRef × ColumnRef → Prop}
    (adds : Adds allowed before after) (begun : before.scope.current.isSome = true)
    {entry : Nat × ColumnRef × ColumnRef} (member : entry ∈ before.own.pairs) :
    entry ∈ after.own.pairs := by
  rcases adds.added begun with ⟨added, pairs, -⟩
  rw [pairs]
  exact List.mem_append_left _ member

/-- A connective is walked through. -/
theorem not_replaced_of_and {context : Context} {before after : Traversal State}
    {left right : Expr} {found : Option Expr}
    (run : Gives (operation catalog left .and right context) before found after) :
    found = none ∧ after = before := by
  rcases operation_of_gives run with ⟨none, same, -⟩ | ⟨_, _, _, impossible, _⟩
  · exact ⟨none, same⟩
  · cases impossible

/-- An equality of joined columns that a condition asserts is remembered. -/
theorem remembers_equated {context : Context} (onRows : context.OnRows) (condition : Expr)
    {before after : Traversal State} {left right result : Expr}
    {pair : ColumnRef × ColumnRef} (member : (left, right) ∈ condition.equated)
    (begun : before.scope.current.isSome = true)
    (paired : Paired catalog before.scope context left right pair)
    (run : Gives (walkExpr (visitor catalog) context condition) before result after) :
    (before.scope.earlier.length, pair) ∈ after.own.pairs := by
  cases condition with
  | binary first operator second =>
      rw [walkExpr] at run
      rcases gives_bind_iff.mp run with ⟨found, middle, asked, rest⟩
      cases operator with
      | and =>
          rcases not_replaced_of_and asked with ⟨rfl, rfl⟩
          simp only [gives_bind_iff, gives_pure_iff] at rest
          rcases rest with ⟨newFirst, between, firstRun, newSecond, _, secondRun, rfl, rfl⟩
          rcases (walkExpr_stays tame_unmarked context first
            (Visitor.Steadfast.unmarked _)).spec firstRun with ⟨firstScope, firstAdds, -⟩
          rcases (walkExpr_stays tame_unmarked context second
            (Visitor.Steadfast.unmarked _)).spec secondRun with ⟨secondScope, secondAdds, -⟩
          rcases List.mem_append.mp member with inFirst | inSecond
          · have remembered := remembers_equated onRows first inFirst begun paired firstRun
            exact mem_pairs_of_adds secondAdds (firstAdds.begun begun) remembered
          · rw [← firstScope] at paired
            have remembered := remembers_equated onRows second inSecond (firstAdds.begun begun)
              paired secondRun
            rw [firstScope] at remembered
            exact remembered
      | equal =>
          rcases List.mem_singleton.mp member with ⟨⟩
          rcases operation_of_gives asked with ⟨-, -, apart⟩ |
            ⟨other, leftShadow, rightShadow, -, -, joined, rfl, rfl⟩
          · exact absurd ⟨rfl, onRows.selectBody, paired⟩ (apart pair)
          · rcases gives_pure_iff.mp rest with ⟨-, rfl⟩
            rcases paired.unique joined with rfl
            rw [← Adds.statementIndex_of_begun begun]
            exact List.mem_append_right _ List.mem_cons_self
      | _ => cases member
  | nested inner =>
      simp only [walkExpr, gives_bind_iff, gives_pure_iff] at run
      rcases run with ⟨newInner, _, innerRun, rfl, rfl⟩
      exact remembers_equated onRows inner member begun paired innerRun
  | _ => cases member
termination_by structural condition

/-- A condition only adds the pairs of the equalities that it asserts, if all its other
operations are harmless. -/
theorem adds_equated {context : Context} (onRows : context.OnRows) (condition : Expr)
    {before after : Traversal State} {result : Expr} {allowed : ColumnRef × ColumnRef → Prop}
    (harmless : Harmless catalog.marks condition.buried)
    (allows : ∀ sides ∈ condition.equated, ∀ pair,
      Paired catalog before.scope context sides.1 sides.2 pair → allowed pair)
    (run : Gives (walkExpr (visitor catalog) context condition) before result after) :
    after.scope = before.scope ∧ Adds allowed before after := by
  -- Harmless operations add nothing.
  have quiet {expr newExpr : Expr} {first last : Traversal State}
      (spared : Harmless catalog.marks expr.operations)
      (walk : Gives (walkExpr (visitor catalog) context expr) first newExpr last) :
      last.scope = first.scope ∧ Adds allowed first last := by
    rcases (walkExpr_stays tame_marked context expr spared).spec walk with ⟨scope, adds, -⟩
    exact ⟨scope, adds.weaken fun _ => False.elim⟩
  cases condition with
  | binary first operator second =>
      cases operator with
      | and =>
          rw [walkExpr] at run
          rcases gives_bind_iff.mp run with ⟨found, middle, asked, rest⟩
          rcases not_replaced_of_and asked with ⟨rfl, rfl⟩
          simp only [gives_bind_iff, gives_pure_iff] at rest
          rcases rest with ⟨newFirst, between, firstRun, newSecond, _, secondRun, rfl, rfl⟩
          rcases Harmless.append_iff.mp harmless with ⟨firstHarmless, secondHarmless⟩
          rcases adds_equated onRows first firstHarmless
            (fun sides member => allows sides (List.mem_append_left _ member)) firstRun with
            ⟨firstScope, firstAdds⟩
          rcases adds_equated onRows second secondHarmless
            (fun sides member => by
              rw [firstScope]
              exact allows sides (List.mem_append_right _ member)) secondRun with
            ⟨secondScope, secondAdds⟩
          exact ⟨secondScope.trans firstScope, firstAdds.trans secondAdds⟩
      | equal =>
          rw [walkExpr] at run
          rcases gives_bind_iff.mp run with ⟨found, middle, asked, rest⟩
          rcases operation_of_gives asked with ⟨rfl, rfl, -⟩ |
            ⟨pair, leftShadow, rightShadow, -, -, paired, rfl, rfl⟩
          · simp only [gives_bind_iff, gives_pure_iff] at rest
            rcases rest with ⟨newFirst, between, firstRun, newSecond, _, secondRun, rfl, rfl⟩
            rcases Harmless.append_iff.mp harmless with ⟨firstHarmless, secondHarmless⟩
            rcases quiet firstHarmless firstRun with ⟨firstScope, firstAdds⟩
            rcases quiet secondHarmless secondRun with ⟨secondScope, secondAdds⟩
            exact ⟨secondScope.trans firstScope, firstAdds.trans secondAdds⟩
          · rcases gives_pure_iff.mp rest with ⟨rfl, rfl⟩
            exact ⟨rfl, Adds.remember (allows _ List.mem_cons_self pair paired) before⟩
      | _ => exact quiet harmless run
  | nested inner =>
      simp only [walkExpr, gives_bind_iff, gives_pure_iff] at run
      rcases run with ⟨newInner, _, innerRun, rfl, rfl⟩
      exact adds_equated onRows inner harmless allows innerRun
  | _ => exact quiet harmless run
termination_by structural condition

/-- Conditions that are walked through one behind the other remember what each one does. -/
theorem remembers_equatedAll {context : Context} (onRows : context.OnRows)
    {before after : Traversal State} {conditions results : List Expr}
    {left right : Expr} {pair : ColumnRef × ColumnRef}
    (member : (left, right) ∈ conditions.flatMap Expr.equated)
    (begun : before.scope.current.isSome = true)
    (paired : Paired catalog before.scope context left right pair)
    (run : Gives (walkExprs (visitor catalog) context conditions) before results after) :
    (before.scope.earlier.length, pair) ∈ after.own.pairs := by
  induction conditions generalizing before results with
  | nil =>
      cases member
  | cons condition rest inductionHypothesis =>
      simp only [walkExprs, gives_bind_iff, gives_pure_iff] at run
      rcases run with ⟨newCondition, middle, walk, newRest, _, restRun, rfl, rfl⟩
      rcases (walkExpr_stays tame_unmarked context condition
        (Visitor.Steadfast.unmarked _)).spec walk with ⟨scope, adds, -⟩
      rcases (walkExprs_stays tame_unmarked context rest
        (Visitor.Steadfast.unmarked _)).spec restRun with ⟨-, restAdds, -⟩
      rw [List.flatMap_cons] at member
      rcases List.mem_append.mp member with here | later
      · have remembered := remembers_equated onRows condition here begun paired walk
        exact mem_pairs_of_adds restAdds (adds.begun begun) remembered
      · rw [← scope] at paired
        have remembered := inductionHypothesis later (adds.begun begun) paired restRun
        rw [scope] at remembered
        exact remembered

theorem adds_equatedAll {context : Context} (onRows : context.OnRows)
    {before after : Traversal State} {conditions results : List Expr}
    {allowed : ColumnRef × ColumnRef → Prop}
    (harmless : Harmless catalog.marks (conditions.flatMap Expr.buried))
    (allows : ∀ sides ∈ conditions.flatMap Expr.equated, ∀ pair,
      Paired catalog before.scope context sides.1 sides.2 pair → allowed pair)
    (run : Gives (walkExprs (visitor catalog) context conditions) before results after) :
    after.scope = before.scope ∧ Adds allowed before after := by
  induction conditions generalizing before results with
  | nil =>
      rcases gives_pure_iff.mp run with ⟨-, rfl⟩
      exact ⟨rfl, Steady.refl before⟩
  | cons condition rest inductionHypothesis =>
      simp only [walkExprs, gives_bind_iff, gives_pure_iff] at run
      rcases run with ⟨newCondition, middle, walk, newRest, _, restRun, rfl, rfl⟩
      rw [List.flatMap_cons, Harmless.append_iff] at harmless
      rcases adds_equated onRows condition harmless.1
        (fun sides member => allows sides (List.mem_append_left _ member)) walk with ⟨scope, adds⟩
      rcases inductionHypothesis harmless.2
        (fun sides member => by
          rw [scope]
          exact allows sides (List.mem_append_right _ member)) restRun with
        ⟨restScope, restAdds⟩
      exact ⟨restScope.trans scope, adds.trans restAdds⟩

/-! ## Pairs of texts -/

theorem keeps_treatment {related : Traversal State → Traversal State → Prop} [Steady related] :
    (treatment catalog).Keeps related := by
  intro rule literal before after result run
  rcases Walk.gives_ofExcept_iff.mp run with ⟨-, rfl⟩
  exact Steady.refl before

/-- Every statement only adds pairs of its own. -/
theorem steadfast_visitor : (visitor catalog).Steadfast (Adds fun _ => True) where
  tame := tame_unmarked
  insert := keeps_treatment.insertion
  update := keeps_treatment.alteration
  other := .pure ()

section Queries

variable {query result : Query} {select : Select} {before after : Traversal State}

/-- A query remembers the equalities of joined columns that its conditions assert, and leaves
the output names of its projection. -/
theorem remembers_query (selection : query.selection? = some select)
    (begins : (before.scope.push true).Begins)
    (run : Gives (walkQuery (visitor catalog) true query) before result after) :
    after.scope.current = select.shown.current ∧
      ∀ {left right pair}, (left, right) ∈ select.equated →
        Paired catalog select.shown .plain left right pair →
          (before.scope.earlier.length, pair) ∈ after.own.pairs := by
  rcases exists_selected_of_query tame_unmarked selection (Visitor.Steadfast.unmarked _)
    (Visitor.Steadfast.unmarked _) run begins with
    ⟨newSelect, start, entered, shown, joined, chosen, last, -, -, selected, startAdds, shownAdds,
      lastAdds, current, startBegins, reads⟩
  rcases (walkExprs_stays tame_unmarked _ _ (Visitor.Steadfast.unmarked _)).spec selected.joins with
    ⟨joinedScope, joinedAdds, -⟩
  rcases (walkExprs_stays tame_unmarked _ _ (Visitor.Steadfast.unmarked _)).spec
    selected.chooses with ⟨chosenScope, chosenAdds, -⟩
  have shownFrom := startAdds.trans (selected.entering.trans shownAdds)
  have begun : before.scope.current.isSome = true := by
    rw [show before.scope.current = some {} from begins.current]
    rfl
  have shownBegun := shownFrom.begun begun
  refine ⟨?_, ?_⟩
  · rw [current, selected.leaves, chosenScope, joinedScope]
    exact reads.current
  · intro left right pair member paired
    have there : Paired catalog shown.scope .plain left right pair :=
      paired.congr fun expr => reads.resolve_eq expr .plain
    have index : shown.scope.earlier.length = before.scope.earlier.length := by
      rw [shownFrom.earlier]
    have ending := selected.grouping.trans lastAdds
    rw [Select.equated, Select.conditions, List.flatMap_append] at member
    rcases List.mem_append.mp member with inJoins | inCondition
    · have onRows : Paired catalog shown.scope .ofJoin left right pair :=
        there.congr (Scope.resolve_of_onRows Context.onRows_ofJoin shown.scope)
      have remembered := remembers_equatedAll Context.onRows_ofJoin inJoins shownBegun onRows
        selected.joins
      rw [index] at remembered
      exact mem_pairs_of_adds (chosenAdds.trans ending) (joinedAdds.begun shownBegun) remembered
    · have joinedBegun := joinedAdds.begun shownBegun
      rw [← joinedScope] at there index
      have remembered := remembers_equatedAll Context.onRows_plain inCondition joinedBegun there
        selected.chooses
      rw [index] at remembered
      exact mem_pairs_of_adds ending (chosenAdds.begun joinedBegun) remembered

/-- A query whose other operations are harmless remembers nothing else. -/
theorem adds_query (selection : query.selection? = some select)
    (harmless : Harmless catalog.marks (query.buried select))
    (begins : (before.scope.push true).Begins)
    (run : Gives (walkQuery (visitor catalog) true query) before result after) :
    Adds (fun pair => ∃ sides ∈ select.equated,
      Paired catalog select.shown .plain sides.1 sides.2 pair) before after := by
  simp only [Query.buried, Select.conditions, List.flatMap_append, Harmless.append_iff] at harmless
  rcases harmless with ⟨⟨outer, other⟩, joinsHarmless, conditionHarmless⟩
  rcases exists_selected_of_query tame_marked selection outer other run begins with
    ⟨newSelect, start, entered, shown, joined, chosen, last, -, -, selected, startAdds, shownAdds,
      lastAdds, -, startBegins, reads⟩
  -- What a condition asserts in its scope is what the selection says.
  have means {context : Context} (onRows : context.OnRows) {state : Traversal State}
      (same : state.scope = shown.scope) {sides : Expr × Expr} {pair : ColumnRef × ColumnRef}
      (paired : Paired catalog state.scope context sides.1 sides.2 pair) :
      Paired catalog select.shown .plain sides.1 sides.2 pair := by
    rw [same] at paired
    refine paired.congr fun expr => ?_
    rw [Scope.resolve_of_onRows onRows, reads.resolve_eq]
  have asserted {sides : Expr × Expr}
      (member : sides ∈ (TableWithJoins.conditionsAll select.relations).flatMap Expr.equated ∨
        sides ∈ select.condition.toList.flatMap Expr.equated) : sides ∈ select.equated := by
    rw [Select.equated, Select.conditions, List.flatMap_append]
    exact List.mem_append.mpr member
  let allowed (pair : ColumnRef × ColumnRef) : Prop :=
    ∃ sides ∈ select.equated, Paired catalog select.shown .plain sides.1 sides.2 pair
  have joining : joined.scope = shown.scope ∧ Adds allowed shown joined :=
    adds_equatedAll Context.onRows_ofJoin joinsHarmless
      (fun sides member pair paired =>
        ⟨sides, asserted (Or.inl member), means Context.onRows_ofJoin rfl paired⟩)
      selected.joins
  have choosing : chosen.scope = joined.scope ∧ Adds allowed joined chosen :=
    adds_equatedAll Context.onRows_plain conditionHarmless
      (fun sides member pair paired =>
        ⟨sides, asserted (Or.inr member), means Context.onRows_plain joining.1 paired⟩)
      selected.chooses
  have quiet {first last : Traversal State} (adds : Adds (fun _ => False) first last) :
      Adds allowed first last :=
    adds.weaken fun _ => False.elim
  exact (quiet startAdds).trans ((quiet selected.entering).trans ((quiet shownAdds).trans
    (joining.2.trans (choosing.2.trans ((quiet selected.grouping).trans (quiet lastAdds))))))

end Queries

section Texts

variable {before middle after : Traversal State}

/-- A statement leaves the results of those before it, and adds pairs under its number. -/
structure Continues (before after : Traversal State) : Prop where
  count : before.scope.statementCount ≤ after.scope.statementCount
  results : ∀ index < before.scope.statementCount,
    after.scope.results? index = before.scope.results? index
  added : ∃ added, after.own.pairs = before.own.pairs ++ added ∧
    ∀ entry ∈ added,
      before.scope.statementCount ≤ entry.1 ∧ entry.1 < after.scope.statementCount

theorem Continues.refl (state : Traversal State) : Continues state state where
  count := Nat.le_refl _
  results _ _ := rfl
  added := ⟨[], (List.append_nil _).symm, by rintro _ ⟨⟩⟩

theorem Continues.trans (first : Continues before middle) (second : Continues middle after) :
    Continues before after where
  count := Nat.le_trans first.count second.count
  results index earlier :=
    (second.results index (Nat.lt_of_lt_of_le earlier first.count)).trans
      (first.results index earlier)
  added := by
    rcases first.added with ⟨added, firstPairs, firstNumbers⟩
    rcases second.added with ⟨more, secondPairs, secondNumbers⟩
    refine ⟨added ++ more, ?_, ?_⟩
    · rw [secondPairs, firstPairs, List.append_assoc]
    · intro entry member
      have firstCount := first.count
      have secondCount := second.count
      rcases List.mem_append.mp member with early | late
      · have numbers := firstNumbers entry early
        omega
      · have numbers := secondNumbers entry late
        omega

/-- The scope of a statement that begins. -/
def opened (state : Traversal State) : Traversal State :=
  { state with scope := state.scope.beginStatement }

theorem length_earlier_opened (state : Traversal State) :
    (opened state).scope.earlier.length = state.scope.statementCount :=
  state.scope.length_earlier_beginStatement

theorem Adds.inside {allowed : ColumnRef × ColumnRef → Prop} (adds : Adds allowed before after) :
    Inside before after :=
  ⟨adds.earlier, adds.begun⟩

/-- What a statement may add goes under its number, behind everything there was. -/
theorem Adds.continues {allowed : ColumnRef × ColumnRef → Prop}
    (adds : Adds allowed (opened before) after) :
    Continues before after ∧
      after.scope.statementCount = before.scope.statementCount + 1 ∧
        after.scope.results? before.scope.statementCount = after.scope.current := by
  rcases Inside.extends adds.inside with ⟨further, count, registered⟩
  refine ⟨⟨further.count, further.results, ?_⟩, count, registered⟩
  rcases adds.added rfl with ⟨added, pairs, numbers⟩
  refine ⟨added, pairs, fun entry member => ?_⟩
  have number := (numbers entry member).1
  rw [length_earlier_opened] at number
  omega

/-- Every statement of a text continues what those before it have left. -/
theorem continues_of_gives_walkStatementsFrom {statements result : List Statement}
    (run : Gives (walkStatementsFrom (visitor catalog) statements) before result after) :
    Continues before after ∧
      after.scope.statementCount = before.scope.statementCount + statements.length := by
  let holds (count : Nat) (state : Traversal State) : Prop :=
    Continues before state ∧ state.scope.statementCount = count
  have start : holds before.scope.statementCount before := ⟨.refl before, rfl⟩
  refine holds_of_gives_walkStatementsFrom ?_ start run
  intro count statement walked first last known walk
  rcases (steadfast_visitor.statement statement walk).continues with ⟨further, next, -⟩
  refine ⟨known.1.trans further, ?_⟩
  rw [next, known.2]

/--
What the state remembers of a query behind its text: the output names of its
projection, the equalities of joined columns that its conditions assert, and nothing else if
its other operations are harmless.
-/
structure Recalls (catalog : Catalog) (query : Query) (select : Select) (index : Nat)
    (state : Traversal State) : Prop where
  results : state.scope.results? index = select.shown.current
  asserted : ∀ {left right pair}, (left, right) ∈ select.equated →
    Paired catalog select.shown .plain left right pair → (index, pair) ∈ state.own.pairs
  only : Harmless catalog.marks (query.buried select) →
    ∀ {pair}, (index, pair) ∈ state.own.pairs →
      ∃ sides ∈ select.equated, Paired catalog select.shown .plain sides.1 sides.2 pair

/-- Behind a text everything is remembered of its queries. -/
theorem recalls_of_gives_protect {statements result : List Statement} {query : Query}
    {select : Select} {index : Nat} (found : statements[index]? = some (.query query))
    (selection : query.selection? = some select)
    (run : Gives ((shield catalog).protect statements) before result after) :
    Recalls catalog query select index after := by
  simp only [shield, walkStatements, gives_bind_iff, gives_modify_iff,
    Walk.gives_changeScope_iff] at run
  rcases run with ⟨_, _, rfl, _, _, rfl, run⟩
  rcases exists_walk_at run found with
    ⟨earlier, newEarlier, start, walked, last, later, newLater, length, -, earlierRun, walk,
      laterRun⟩
  rcases continues_of_gives_walkStatementsFrom earlierRun with ⟨before, count⟩
  have number : start.scope.statementCount = index := by
    rw [count, length]
    exact Nat.zero_add index
  simp only [walkStatement, gives_bind_iff, gives_pure_iff] at walk
  rcases walk with ⟨newQuery, reached, walk, rfl, rfl⟩
  have walk : Gives (walkQuery (visitor catalog) true query) (opened start) newQuery reached := walk
  rcases (steadfast_visitor.query true query walk).continues with ⟨-, next, results⟩
  rcases continues_of_gives_walkStatementsFrom laterRun with ⟨after, -⟩
  rcases after.added with ⟨afterwards, afterPairs, afterNumbers⟩
  rcases remembers_query selection start.scope.begins_beginStatement walk with ⟨shown, remembered⟩
  refine ⟨?_, ?_, ?_⟩
  · rw [after.results index (by omega), ← shown, ← results, number]
  · intro left right pair member paired
    have there := remembered member paired
    rw [length_earlier_opened, number] at there
    rw [afterPairs]
    exact List.mem_append_left _ there
  · intro harmless pair member
    rcases (adds_query selection harmless start.scope.begins_beginStatement walk).added rfl with
      ⟨added, pairs, own⟩
    rcases before.added with ⟨beforehand, beforePairs, beforeNumbers⟩
    rw [afterPairs, pairs, opened, beforePairs] at member
    simp only [List.nil_append, List.mem_append] at member
    rcases member with (early | here) | late
    · have numbers := beforeNumbers _ early
      omega
    · exact (own _ here).2
    · have numbers := afterNumbers _ late
      omega

end Texts

end JoinShadow

end ColumnVeil
