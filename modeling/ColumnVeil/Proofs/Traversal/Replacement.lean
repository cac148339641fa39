import ColumnVeil.Proofs.Traversal.Course

/-!
# Walks that replace

A visitor that is tame with respect to a mark replaces references by references and
operations by operations of the same kind, and never makes an operation harmful that was not.
What a walk with such a visitor does follows by induction on the syntax: the scope behind it
is the one that the syntax says, the states before and after are related, and the result is
as harmless as what was walked through.

Entering relations leaves the conditions of their joins for later.  `Entry` says what is left
to do: walking through these conditions, one behind the other.
-/

namespace ColumnVeil

open Sql

variable {σ : Type} {related : Traversal σ → Traversal σ → Prop} {marked : Expr → Bool}

/-- Every operation of a list is harmless. -/
def Harmless (marked : Expr → Bool) (operations : List Operation) : Prop :=
  ∀ operation ∈ operations, operation.Harmless marked

namespace Harmless

theorem nil : Harmless marked [] := by
  intro operation member
  cases member

theorem append_iff {first second : List Operation} :
    Harmless marked (first ++ second) ↔ Harmless marked first ∧ Harmless marked second := by
  simp only [Harmless, List.forall_mem_append]

theorem cons_iff {operation : Operation} {rest : List Operation} :
    Harmless marked (operation :: rest) ↔ operation.Harmless marked ∧ Harmless marked rest := by
  simp only [Harmless, List.forall_mem_cons]

end Harmless

/--
What a walk makes of an expression.  A reference can only come from a reference,
which has lost its column to another at most in a grouping.
-/
structure Follows (marked : Expr → Bool) (context : Context) (expr result : Expr) : Prop where
  column : result.isColumn = true → result = expr ∨ context.groupBy = true
  mark : marked result = true → marked expr = true
  asserts : result.asserts = true → expr.asserts = true
  harmless : Harmless marked result.operations

namespace Visitor

/--
The visitor respects a relation between states, and replaces in a way that
makes no operation harmful.
-/
structure Tame (visitor : Visitor σ) (marked : Expr → Bool)
    (related : Traversal σ → Traversal σ → Prop) : Prop where
  columns : ∀ expr, marked expr = true → expr.isColumn = true
  reference : ∀ context expr, expr.isColumn = true →
    Walk.Stays related
      (fun result => result.isColumn = true ∧ (result = expr ∨ context.groupBy = true) ∧
        (marked result = true → marked expr = true))
      (visitor.reference context expr)
  operation : ∀ left operator right context,
    Operation.Harmless marked ⟨left, operator, right⟩ →
      Walk.Stays related
        (fun found => ∀ replacement ∈ found,
          (∃ newLeft newRight, replacement = .binary newLeft operator newRight) ∧
            Harmless marked replacement.operations)
        (visitor.operation left operator right context)
  membership : ∀ operand items context,
    Walk.Stays related
      (fun found => ∀ replacement ∈ found,
        Harmless marked (replacement.1.operations ++ Expr.operationsAll replacement.2))
      (visitor.membership operand items context)
  wildcard : Walk.Stays related (fun _ => True) visitor.wildcard
  unsupported : ∀ feature {before after : Traversal σ} {value : Unit},
    Gives (visitor.unsupported feature) before value after → before = after

end Visitor

namespace Follows

variable {visitor : Visitor σ} {context : Context} {expr result : Expr}

/-- A result of another kind follows everything that asserts as much. -/
theorem of_kind (tame : visitor.Tame marked related) (kind : result.isColumn = false)
    (asserts : result.asserts = true → expr.asserts = true)
    (harmless : Harmless marked result.operations) : Follows marked context expr result where
  column isColumn := by
    rw [kind] at isColumn
    cases isColumn
  mark isMarked := by
    have isColumn := tame.columns result isMarked
    rw [kind] at isColumn
    cases isColumn
  asserts := asserts
  harmless := harmless

theorem of_reference
    (replaced : result.isColumn = true ∧ (result = expr ∨ context.groupBy = true) ∧
      (marked result = true → marked expr = true)) :
    Follows marked context expr result where
  column _ := replaced.2.1
  mark := replaced.2.2
  asserts isAssertion := by
    cases result with
    | identifier ident => cases isAssertion
    | compound parts => cases isAssertion
    | _ => cases replaced.1
  harmless := by
    rw [Expr.operations_of_isColumn replaced.1]
    exact Harmless.nil

end Follows

/-- An operation stays harmless when its sides are walked through. -/
theorem Sql.Operation.Harmless.follow {left right newLeft newRight : Expr}
    {operator : BinaryOperator} {context : Context}
    (harmless : Operation.Harmless marked ⟨left, operator, right⟩)
    (followsLeft : Follows marked context left newLeft)
    (followsRight : Follows marked context right newRight) :
    Operation.Harmless marked ⟨newLeft, operator, newRight⟩ := by
  rintro ⟨equality, leftMarked, rightMarked⟩
  exact harmless ⟨equality, followsLeft.mark leftMarked, followsRight.mark rightMarked⟩

/--
What is left of a walk after relations have been entered: it walks through the
conditions of their joins.  Here `names`, `conditions` and `derived` read off the names,
the conditions and the operations in derived tables.
-/
structure Entry {τ : Type} (visitor : Visitor σ) (marked : Expr → Bool)
    (names : τ → List (String × String)) (conditions : τ → List Expr)
    (derived : τ → List Operation) (entered : τ) (later : Walk σ τ) : Prop where
  walks : ∀ {before after : Traversal σ} {result : τ}, Gives later before result after →
    Gives (walkExprs visitor .ofJoin (conditions entered)) before (conditions result) after ∧
      names result = names entered ∧ Harmless marked (derived result)

theorem gives_walkExprs_append_iff {visitor : Visitor σ} {context : Context}
    {first second results : List Expr} {before after : Traversal σ} :
    Gives (walkExprs visitor context (first ++ second)) before results after ↔
      ∃ firstResults middle secondResults,
        Gives (walkExprs visitor context first) before firstResults middle ∧
          Gives (walkExprs visitor context second) middle secondResults after ∧
            firstResults ++ secondResults = results := by
  induction first generalizing before after results with
  | nil =>
      simp only [List.nil_append, walkExprs, gives_pure_iff]
      constructor
      · intro run
        exact ⟨[], before, results, ⟨rfl, rfl⟩, run, rfl⟩
      · rintro ⟨_, _, _, ⟨rfl, rfl⟩, run, rfl⟩
        exact run
  | cons expr rest inductionHypothesis =>
      simp only [List.cons_append, walkExprs, gives_bind_iff, gives_pure_iff, inductionHypothesis]
      constructor
      · rintro ⟨result, middle, run, others, last, ⟨firstResults, between, secondResults,
          firstRun, secondRun, rfl⟩, rfl, rfl⟩
        exact ⟨result :: firstResults, between, secondResults,
          ⟨result, middle, run, firstResults, between, firstRun, rfl, rfl⟩, secondRun, rfl⟩
      · rintro ⟨_, _, secondResults, ⟨result, middle, run, firstResults, between, firstRun, rfl,
          rfl⟩, secondRun, rfl⟩
        exact ⟨result, middle, run, firstResults ++ secondResults, after,
          ⟨firstResults, between, secondResults, firstRun, secondRun, rfl⟩, rfl, rfl⟩

/-- A constraint is walked through if it is a condition. -/
theorem gives_walkConstraint {visitor : Visitor σ}
    (quiet : ∀ feature {before after : Traversal σ} {value : Unit},
      Gives (visitor.unsupported feature) before value after → before = after)
    {constraint result : JoinConstraint} {before after : Traversal σ}
    (run : Gives (walkConstraint visitor constraint) before result after) :
    Gives (walkExprs visitor .ofJoin constraint.conditions) before result.conditions after := by
  cases constraint with
  | none =>
      rw [walkConstraint] at run
      rcases gives_pure_iff.mp run with ⟨rfl, rfl⟩
      exact gives_pure_iff.mpr ⟨rfl, rfl⟩
  | on condition =>
      simp only [walkConstraint, gives_bind_iff, gives_pure_iff] at run
      rcases run with ⟨newCondition, last, walked, rfl, rfl⟩
      simp only [JoinConstraint.conditions, walkExprs, gives_bind_iff, gives_pure_iff]
      exact ⟨newCondition, last, walked, [], last, ⟨rfl, rfl⟩, rfl, rfl⟩
  | sharing columns =>
      simp only [walkConstraint, gives_bind_iff, gives_pure_iff] at run
      rcases run with ⟨_, last, refused, rfl, rfl⟩
      rcases quiet _ refused with rfl
      exact gives_pure_iff.mpr ⟨rfl, rfl⟩
  | natural =>
      simp only [walkConstraint, gives_bind_iff, gives_pure_iff] at run
      rcases run with ⟨_, last, refused, rfl, rfl⟩
      rcases quiet _ refused with rfl
      exact gives_pure_iff.mpr ⟨rfl, rfl⟩

/-- Expressions that are walked through one behind the other. -/
theorem Walk.Stays.walkExprs_append {visitor : Visitor σ} [Steady related] {context : Context}
    {first second : List Expr}
    (firstStays : Walk.Stays related
      (fun results => Harmless marked (Expr.operationsAll results))
      (walkExprs visitor context first))
    (secondStays : Walk.Stays related
      (fun results => Harmless marked (Expr.operationsAll results))
      (walkExprs visitor context second)) :
    Walk.Stays related (fun results => Harmless marked (Expr.operationsAll results))
      (walkExprs visitor context (first ++ second)) := by
  intro before after results run
  rcases gives_walkExprs_append_iff.mp run with
    ⟨firstResults, middle, secondResults, firstRun, secondRun, rfl⟩
  rcases firstStays firstRun with ⟨firstScope, firstRelated, firstSpared⟩
  rcases secondStays secondRun with ⟨secondScope, secondRelated, secondSpared⟩
  have spared : Harmless marked (Expr.operationsAll (firstResults ++ secondResults)) := by
    rw [Expr.operationsAll_append]
    exact Harmless.append_iff.mpr ⟨firstSpared, secondSpared⟩
  exact ⟨secondScope.trans firstScope, Steady.trans firstRelated secondRelated, spared⟩

/-- A tame visitor sweeps through what it does not look into. -/
theorem Visitor.Tame.sweeps {visitor : Visitor σ} [Steady related]
    (tame : visitor.Tame marked related) (context : Context) :
    Sweep.Tame related ⟨visitor.reference context, fun _ => pure ()⟩ where
  column expr isColumn := (tame.reference context expr isColumn).weaken fun _ _ => trivial
  relation _ := .pure trivial

/-! ## Walking through syntax -/

mutual

/-- An expression that is walked through is followed by its result. -/
theorem walkExpr_stays {visitor : Visitor σ} [Steady related]
    (tame : visitor.Tame marked related) (context : Context) (expr : Expr)
    (harmless : Harmless marked expr.operations) :
    Walk.Stays related (Follows marked context expr) (walkExpr visitor context expr) := by
  cases expr with
  | identifier ident =>
      rw [walkExpr]
      exact (tame.reference context _ rfl).weaken fun _ => Follows.of_reference
  | compound parts =>
      rw [walkExpr]
      exact (tame.reference context _ rfl).weaken fun _ => Follows.of_reference
  | value constant =>
      exact .pure (.of_kind tame rfl id Harmless.nil)
  | binary left operator right =>
      rw [walkExpr]
      simp only [Expr.operations, Harmless.cons_iff, Harmless.append_iff] at harmless
      refine (tame.operation left operator right context harmless.1).bind fun found replaced => ?_
      cases found with
      | some replacement =>
          rcases replaced replacement rfl with ⟨⟨newLeft, newRight, rfl⟩, spared⟩
          exact .pure (.of_kind tame rfl Expr.asserts_binary_of_operator spared)
      | none =>
          refine (walkExpr_stays tame context left harmless.2.1).bind fun newLeft leftFollows => ?_
          refine (walkExpr_stays tame context right harmless.2.2).bind
            fun newRight rightFollows => ?_
          refine .pure (.of_kind tame rfl Expr.asserts_binary_of_operator ?_)
          simp only [Expr.operations, Harmless.cons_iff, Harmless.append_iff]
          exact ⟨harmless.1.follow leftFollows rightFollows, leftFollows.harmless,
            rightFollows.harmless⟩
  | unary operator operand =>
      rw [walkExpr]
      exact (walkExpr_stays tame context operand harmless).bind fun _ follows =>
        .pure (.of_kind tame rfl id follows.harmless)
  | nested inner =>
      rw [walkExpr]
      exact (walkExpr_stays tame context inner harmless).bind fun _ follows =>
        .pure (.of_kind tame rfl id follows.harmless)
  | nullTest operand negated =>
      rw [walkExpr]
      exact (walkExpr_stays tame context operand harmless).bind fun _ follows =>
        .pure (.of_kind tame rfl id follows.harmless)
  | inList operand negated items =>
      rw [walkExpr]
      simp only [Expr.operations, Harmless.append_iff] at harmless
      refine (tame.membership operand items context).bind fun found replaced => ?_
      cases found with
      | some replacement =>
          exact .pure (.of_kind tame rfl id (replaced replacement rfl))
      | none =>
          refine (walkExpr_stays tame context operand harmless.1).bind fun _ follows => ?_
          refine (walkExprs_stays tame context items harmless.2).bind fun _ itemsHarmless => ?_
          exact .pure (.of_kind tame rfl id
            (Harmless.append_iff.mpr ⟨follows.harmless, itemsHarmless⟩))
  | inQuery operand negated body =>
      rw [walkExpr]
      simp only [Expr.operations, Harmless.append_iff] at harmless
      refine (walkExpr_stays tame context operand harmless.1).bind fun _ follows => ?_
      have inside : Walk.Stays related
          (fun result : QueryBody => Harmless marked result.operations)
          (Walk.inFrame false (walkBody visitor false body)) := by
        apply Walk.Stays.inFrame
        intro before after value frame run
        rcases walkBody_moves tame body harmless.2 run frame with ⟨scope, states, spared⟩
        refine ⟨?_, states, spared⟩
        rw [scope, body.pop_leave_false]
      exact inside.bind fun _ bodyHarmless =>
        .pure (.of_kind tame rfl id (Harmless.append_iff.mpr ⟨follows.harmless, bodyHarmless⟩))
  | between operand negated low high =>
      rw [walkExpr]
      simp only [Expr.operations, Harmless.append_iff] at harmless
      refine (walkExpr_stays tame context operand harmless.1.1).bind fun _ operandFollows => ?_
      refine (walkExpr_stays tame context low harmless.1.2).bind fun _ lowFollows => ?_
      refine (walkExpr_stays tame context high harmless.2).bind fun _ highFollows => ?_
      refine .pure (.of_kind tame rfl id ?_)
      simp only [Expr.operations, Harmless.append_iff]
      exact ⟨⟨operandFollows.harmless, lowFollows.harmless⟩, highFollows.harmless⟩
  | like operand negated word pattern escape =>
      rw [walkExpr]
      simp only [Expr.operations, Harmless.append_iff] at harmless
      refine (walkExpr_stays tame context operand harmless.1).bind fun _ operandFollows => ?_
      refine (walkExpr_stays tame context pattern harmless.2).bind fun _ patternFollows => ?_
      exact .pure (.of_kind tame rfl id
        (Harmless.append_iff.mpr ⟨operandFollows.harmless, patternFollows.harmless⟩))
  | array named elements =>
      rw [walkExpr]
      exact (walkExprs_stays tame context elements harmless).bind fun _ spared =>
        .pure (.of_kind tame rfl id spared)
  | subquery query =>
      rw [walkExpr]
      have moves := walkQuery_moves tame false query harmless
      simp only [query.leave_false] at moves
      exact Walk.Stays.bind moves fun _ spared => .pure (.of_kind tame rfl id spared)
  | existence negated query =>
      rw [walkExpr]
      have moves := walkQuery_moves tame false query harmless
      simp only [query.leave_false] at moves
      exact Walk.Stays.bind moves fun _ spared => .pure (.of_kind tame rfl id spared)
  | call name opening late closing =>
      rw [walkExpr, Expr.sweep]
      have sweeps := tame.sweeps context
      exact (sweeps.parts opening).bind fun _ _ => (sweeps.parts closing).bind fun _ _ =>
        (sweeps.parts late).bind fun _ _ => .pure (.of_kind tame rfl id Harmless.nil)
  | form parts =>
      rw [walkExpr, Expr.sweep]
      exact ((tame.sweeps context).parts parts).bind fun _ _ =>
        .pure (.of_kind tame rfl id Harmless.nil)
termination_by structural expr

theorem walkExprs_stays {visitor : Visitor σ} [Steady related]
    (tame : visitor.Tame marked related) (context : Context) (exprs : List Expr)
    (harmless : Harmless marked (Expr.operationsAll exprs)) :
    Walk.Stays related (fun results => Harmless marked (Expr.operationsAll results))
      (walkExprs visitor context exprs) := by
  cases exprs with
  | nil =>
      exact .pure Harmless.nil
  | cons expr rest =>
      rw [walkExprs]
      simp only [Expr.operationsAll, Harmless.append_iff] at harmless
      refine (walkExpr_stays tame context expr harmless.1).bind fun _ follows => ?_
      refine (walkExprs_stays tame context rest harmless.2).bind fun _ spared => ?_
      exact .pure (Harmless.append_iff.mpr ⟨follows.harmless, spared⟩)
termination_by structural exprs

theorem walkOption_stays {visitor : Visitor σ} [Steady related]
    (tame : visitor.Tame marked related) (context : Context) (expr : Option Expr)
    (harmless : Harmless marked (Expr.operationsOption expr)) :
    Walk.Stays related (fun result => Harmless marked (Expr.operationsOption result))
      (walkOption visitor context expr) := by
  cases expr with
  | none =>
      exact .pure Harmless.nil
  | some expr =>
      rw [walkOption]
      exact (walkExpr_stays tame context expr harmless).bind fun _ follows =>
        .pure follows.harmless
termination_by structural expr

/-- A query leaves of its scope the output names of the client's projection. -/
theorem walkQuery_moves {visitor : Visitor σ} [Steady related]
    (tame : visitor.Tame marked related) (reaches : Bool) (query : Query)
    (harmless : Harmless marked query.operations) :
    Walk.Moves (fun scope => query.leave scope reaches) related
      (fun result => Harmless marked result.operations) (walkQuery visitor reaches query) := by
  cases query with
  | mk recursive ctes body order tail =>
      simp only [Query.operations, Harmless.append_iff] at harmless
      intro before after result run
      simp only [walkQuery, gives_bind_iff, gives_pure_iff, Walk.gives_inFrame_iff] at run
      rcases run with ⟨newCtes, middle, ctesRun, inside, ⟨newBody, first, bodyRun, newOrder, last,
        orderRun, rfl, rfl⟩, rfl⟩
      rcases walkCtes_stays tame ctes harmless.1.1 ctesRun with ⟨ctesScope, ctesRelated, ctesSpared⟩
      rcases walkBody_moves tame body harmless.1.2 bodyRun rfl with
        ⟨bodyScope, bodyRelated, bodySpared⟩
      rcases walkOrder_stays tame order harmless.2 orderRun with
        ⟨orderScope, orderRelated, orderSpared⟩
      refine ⟨?_, ?_, ?_⟩
      · have inside : last.scope.pop = (body.leave (middle.scope.push reaches) reaches).pop :=
          congrArg Scope.pop (orderScope.trans bodyScope)
        rw [ctesScope] at inside
        exact inside
      · exact Steady.trans ctesRelated (Steady.trans (Steady.frames middle _)
          (Steady.trans bodyRelated (Steady.trans orderRelated (Steady.frames last _))))
      · simp only [Query.operations, Harmless.append_iff]
        exact ⟨⟨ctesSpared, bodySpared⟩, orderSpared⟩
termination_by structural query

theorem walkCtes_stays {visitor : Visitor σ} [Steady related]
    (tame : visitor.Tame marked related) (ctes : List Cte)
    (harmless : Harmless marked (Cte.operationsAll ctes)) :
    Walk.Stays related (fun results => Harmless marked (Cte.operationsAll results))
      (walkCtes visitor ctes) := by
  cases ctes with
  | nil =>
      exact .pure Harmless.nil
  | cons cte rest =>
      cases cte with
      | mk aliasName materialized query origin =>
          rw [walkCtes]
          simp only [Cte.operationsAll, Harmless.append_iff] at harmless
          have moves := walkQuery_moves tame false query harmless.1
          simp only [query.leave_false] at moves
          refine Walk.Stays.bind moves fun _ spared => ?_
          refine (walkCtes_stays tame rest harmless.2).bind fun _ restSpared => ?_
          exact .pure (Harmless.append_iff.mpr ⟨spared, restSpared⟩)
termination_by structural ctes

theorem walkOrder_stays {visitor : Visitor σ} [Steady related]
    (tame : visitor.Tame marked related) (items : List OrderItem)
    (harmless : Harmless marked (OrderItem.operationsAll items)) :
    Walk.Stays related (fun results => Harmless marked (OrderItem.operationsAll results))
      (walkOrder visitor items) := by
  cases items with
  | nil =>
      exact .pure Harmless.nil
  | cons item rest =>
      cases item with
      | mk expr direction =>
          rw [walkOrder]
          simp only [OrderItem.operationsAll, Harmless.append_iff] at harmless
          refine (walkExpr_stays tame .ofOrderBy expr harmless.1).bind fun _ follows => ?_
          refine (walkOrder_stays tame rest harmless.2).bind fun _ spared => ?_
          exact .pure (Harmless.append_iff.mpr ⟨follows.harmless, spared⟩)
termination_by structural items

/-- The frame of the body's query tells whether its rows reach the client. -/
theorem walkBody_moves {visitor : Visitor σ} [Steady related]
    (tame : visitor.Tame marked related) {reaches : Bool} (body : QueryBody)
    (harmless : Harmless marked body.operations) {before after : Traversal σ}
    {result : QueryBody} (run : Gives (walkBody visitor reaches body) before result after)
    (frame : before.scope.returnsRows = reaches) :
    after.scope = body.leave before.scope reaches ∧ related before after ∧
      Harmless marked result.operations := by
  cases body with
  | select select =>
      simp only [walkBody, gives_bind_iff, gives_pure_iff] at run
      rcases run with ⟨newSelect, last, selectRun, rfl, rfl⟩
      exact walkSelect_moves tame select harmless selectRun frame
  | parenthesized query =>
      simp only [walkBody, gives_bind_iff, gives_pure_iff] at run
      rcases run with ⟨newQuery, last, queryRun, rfl, rfl⟩
      exact walkQuery_moves tame reaches query harmless queryRun
  | combination left operator right =>
      simp [walkBody] at run
  | values explicitRow rows =>
      simp only [walkBody, gives_bind_iff, gives_pure_iff] at run
      rcases run with ⟨newRows, last, rowsRun, rfl, rfl⟩
      exact walkRows_stays tame rows harmless rowsRun
  | table name =>
      simp [walkBody] at run
  | change parts =>
      simp [walkBody] at run
termination_by structural body

theorem walkRows_stays {visitor : Visitor σ} [Steady related]
    (tame : visitor.Tame marked related) (rows : List (List Expr))
    (harmless : Harmless marked (QueryBody.operationsOfRows rows)) :
    Walk.Stays related (fun results => Harmless marked (QueryBody.operationsOfRows results))
      (walkRows visitor rows) := by
  cases rows with
  | nil =>
      exact .pure Harmless.nil
  | cons row rest =>
      rw [walkRows]
      simp only [QueryBody.operationsOfRows, Harmless.append_iff] at harmless
      refine (walkExprs_stays tame .plain row harmless.1).bind fun _ rowSpared => ?_
      refine (walkRows_stays tame rest harmless.2).bind fun _ spared => ?_
      exact .pure (Harmless.append_iff.mpr ⟨rowSpared, spared⟩)
termination_by structural rows

theorem walkSelect_moves {visitor : Visitor σ} [Steady related]
    (tame : visitor.Tame marked related) {reaches : Bool} (select : Select)
    (harmless : Harmless marked select.operations) {before after : Traversal σ}
    {result : Select} (run : Gives (walkSelect visitor select) before result after)
    (frame : before.scope.returnsRows = reaches) :
    after.scope = (QueryBody.select select).leave before.scope reaches ∧ related before after ∧
      Harmless marked result.operations := by
  cases select with
  | mk lead projection target relations views condition groups grouping having tail =>
      simp only [Select.operations, Harmless.append_iff] at harmless
      rcases harmless with ⟨⟨⟨⟨⟨derived, shown⟩, joining⟩, filtering⟩, grouped⟩, having'⟩
      simp only [walkSelect, gives_bind_iff, gives_pure_iff, Walk.gives_scope_iff] at run
      rcases run with ⟨entered, first, enterRun, scope, second, ⟨rfl, rfl⟩, newProjection, third,
        projectionRun, newRelations, fourth, conditionsRun, newCondition, fifth, conditionRun,
        newGroups, sixth, groupsRun, newHaving, last, havingRun, rfl, rfl⟩
      rcases enterAll_moves tame relations derived enterRun with ⟨enterScope, enterRelated, entry⟩
      rw [enterScope, Scope.returnsRows_addAll, frame] at projectionRun
      rcases walkProjection_moves tame reaches projection shown projectionRun with
        ⟨projectionScope, projectionRelated, projectionSpared⟩
      rcases entry.walks conditionsRun with ⟨joinRun, -, derivedSpared⟩
      rcases joinConditionsAll_stay tame relations joining joinRun with
        ⟨joinScope, joinRelated, joinSpared⟩
      rw [TableWithJoins.operationsAll_conditionsAll] at joinSpared
      rcases walkOption_stays tame .plain condition filtering conditionRun with
        ⟨conditionScope, conditionRelated, conditionSpared⟩
      rcases walkExprs_stays tame .ofGroupBy groups grouped groupsRun with
        ⟨groupsScope, groupsRelated, groupsSpared⟩
      rcases walkOption_stays tame .ofGroupBy having having' havingRun with
        ⟨havingScope, havingRelated, havingSpared⟩
      refine ⟨?_, ?_, ?_⟩
      · rw [havingScope, groupsScope, conditionScope, joinScope, projectionScope, enterScope]
        rfl
      · exact Steady.trans enterRelated (Steady.trans projectionRelated (Steady.trans joinRelated
          (Steady.trans conditionRelated (Steady.trans groupsRelated havingRelated))))
      · simp only [Select.operations, Harmless.append_iff]
        exact ⟨⟨⟨⟨⟨derivedSpared, projectionSpared⟩, joinSpared⟩, conditionSpared⟩, groupsSpared⟩,
          havingSpared⟩
termination_by structural select

theorem walkProjection_moves {visitor : Visitor σ} [Steady related]
    (tame : visitor.Tame marked related) (reaches : Bool) (items : List SelectItem)
    (harmless : Harmless marked (SelectItem.operationsAll items)) :
    Walk.Moves (fun scope => SelectItem.leave scope reaches items) related
      (fun results => Harmless marked (SelectItem.operationsAll results))
      (walkProjection visitor reaches items) := by
  intro before after result run
  cases items with
  | nil =>
      rw [walkProjection] at run
      rcases gives_pure_iff.mp run with ⟨rfl, rfl⟩
      exact ⟨rfl, Steady.refl before, Harmless.nil⟩
  | cons item rest =>
      cases item with
      | expr shown =>
          simp only [SelectItem.operationsAll, Harmless.append_iff] at harmless
          rw [walkProjection] at run
          rcases gives_item run with ⟨newShown, middle, shownRun, others, last, restRun, rfl, rfl⟩
          rcases walkExpr_stays tame _ shown harmless.1 shownRun with
            ⟨shownScope, shownRelated, follows⟩
          rcases walkProjection_moves tame reaches rest harmless.2 restRun with
            ⟨restScope, restRelated, spared⟩
          refine ⟨?_, ?_, Harmless.append_iff.mpr ⟨follows.harmless, spared⟩⟩
          · rw [restScope, shownScope]
            rfl
          · exact Steady.trans (Steady.showing before reaches shown none)
              (Steady.trans shownRelated restRelated)
      | aliased shown aliasName =>
          simp only [SelectItem.operationsAll, Harmless.append_iff] at harmless
          rw [walkProjection] at run
          rcases gives_item run with ⟨newShown, middle, shownRun, others, last, restRun, rfl, rfl⟩
          rcases walkExpr_stays tame _ shown harmless.1 shownRun with
            ⟨shownScope, shownRelated, follows⟩
          rcases walkProjection_moves tame reaches rest harmless.2 restRun with
            ⟨restScope, restRelated, spared⟩
          refine ⟨?_, ?_, Harmless.append_iff.mpr ⟨follows.harmless, spared⟩⟩
          · rw [restScope, shownScope]
            rfl
          · exact Steady.trans (Steady.showing before reaches shown (some aliasName))
              (Steady.trans shownRelated restRelated)
      | wildcard qualifier =>
          simp only [walkProjection, gives_bind_iff, gives_pure_iff] at run
          rcases run with ⟨asked, middle, starRun, others, last, restRun, rfl, rfl⟩
          rcases tame.wildcard starRun with ⟨starScope, starRelated, -⟩
          rcases walkProjection_moves tame reaches rest harmless restRun with
            ⟨restScope, restRelated, spared⟩
          refine ⟨?_, Steady.trans starRelated restRelated, spared⟩
          rw [restScope, starScope]
          rfl
termination_by structural items

theorem enterAll_moves {visitor : Visitor σ} [Steady related]
    (tame : visitor.Tame marked related) (relations : List TableWithJoins)
    (harmless : Harmless marked (TableWithJoins.derivedOperationsAll relations)) :
    Walk.Moves (fun scope => scope.addAll (TableWithJoins.namesAll relations)) related
      (fun result => Entry visitor marked TableWithJoins.namesAll TableWithJoins.conditionsAll
        TableWithJoins.derivedOperationsAll relations result.2)
      (enterAll visitor relations) := by
  intro before after result run
  cases relations with
  | nil =>
      rw [enterAll] at run
      rcases gives_pure_iff.mp run with ⟨rfl, rfl⟩
      refine ⟨rfl, Steady.refl before, ⟨fun later => ?_⟩⟩
      rcases gives_pure_iff.mp later with ⟨rfl, rfl⟩
      exact ⟨gives_pure_iff.mpr ⟨rfl, rfl⟩, rfl, Harmless.nil⟩
  | cons tables rest =>
      simp only [TableWithJoins.derivedOperationsAll, Harmless.append_iff] at harmless
      simp only [enterAll, gives_bind_iff, gives_pure_iff] at run
      rcases run with ⟨entered, middle, tablesRun, others, last, restRun, rfl, rfl⟩
      rcases enter_moves tame tables harmless.1 tablesRun with
        ⟨tablesScope, tablesRelated, tablesEntry⟩
      rcases enterAll_moves tame rest harmless.2 restRun with
        ⟨restScope, restRelated, restEntry⟩
      refine ⟨?_, Steady.trans tablesRelated restRelated, ⟨fun later => ?_⟩⟩
      · rw [restScope, tablesScope]
        exact (Scope.addAll_append before.scope _ _).symm
      · simp only [gives_bind_iff, gives_pure_iff] at later
        rcases later with ⟨newTables, between, tablesLater, newRest, _, restLater, rfl, rfl⟩
        rcases tablesEntry.walks tablesLater with ⟨firstWalk, firstNames, firstSpared⟩
        rcases restEntry.walks restLater with ⟨secondWalk, secondNames, secondSpared⟩
        refine ⟨gives_walkExprs_append_iff.mpr ⟨_, _, _, firstWalk, secondWalk, rfl⟩, ?_,
          Harmless.append_iff.mpr ⟨firstSpared, secondSpared⟩⟩
        rw [TableWithJoins.namesAll, firstNames, secondNames, TableWithJoins.namesAll]
termination_by structural relations

theorem enter_moves {visitor : Visitor σ} [Steady related]
    (tame : visitor.Tame marked related) (tables : TableWithJoins)
    (harmless : Harmless marked tables.derivedOperations) :
    Walk.Moves (fun scope => scope.addAll tables.names) related
      (fun result => Entry visitor marked TableWithJoins.names TableWithJoins.conditions
        TableWithJoins.derivedOperations tables result.2)
      (enter visitor tables) := by
  intro before after result run
  cases tables with
  | mk relation joins =>
      simp only [TableWithJoins.derivedOperations, Harmless.append_iff] at harmless
      simp only [enter, gives_bind_iff, gives_pure_iff] at run
      rcases run with ⟨entered, middle, relationRun, others, last, joinsRun, rfl, rfl⟩
      rcases enterFactor_moves tame relation harmless.1 relationRun with
        ⟨relationScope, relationRelated, relationEntry⟩
      rcases enterJoins_moves tame joins harmless.2 joinsRun with
        ⟨joinsScope, joinsRelated, joinsEntry⟩
      refine ⟨?_, Steady.trans relationRelated joinsRelated, ⟨fun later => ?_⟩⟩
      · rw [joinsScope, relationScope]
        exact (Scope.addAll_append before.scope _ _).symm
      · simp only [gives_bind_iff, gives_pure_iff] at later
        rcases later with ⟨newRelation, between, relationLater, newJoins, _, joinsLater, rfl, rfl⟩
        rcases relationEntry.walks relationLater with ⟨firstWalk, firstNames, firstSpared⟩
        rcases joinsEntry.walks joinsLater with ⟨secondWalk, secondNames, secondSpared⟩
        refine ⟨gives_walkExprs_append_iff.mpr ⟨_, _, _, firstWalk, secondWalk, rfl⟩, ?_,
          Harmless.append_iff.mpr ⟨firstSpared, secondSpared⟩⟩
        rw [TableWithJoins.names, firstNames, secondNames, TableWithJoins.names]
termination_by structural tables

theorem enterJoins_moves {visitor : Visitor σ} [Steady related]
    (tame : visitor.Tame marked related) (joins : List Join)
    (harmless : Harmless marked (Join.derivedOperationsAll joins)) :
    Walk.Moves (fun scope => scope.addAll (Join.namesAll joins)) related
      (fun result => Entry visitor marked Join.namesAll Join.conditionsAll
        Join.derivedOperationsAll joins result.2)
      (enterJoins visitor joins) := by
  intro before after result run
  cases joins with
  | nil =>
      rw [enterJoins] at run
      rcases gives_pure_iff.mp run with ⟨rfl, rfl⟩
      refine ⟨rfl, Steady.refl before, ⟨fun later => ?_⟩⟩
      rcases gives_pure_iff.mp later with ⟨rfl, rfl⟩
      exact ⟨gives_pure_iff.mpr ⟨rfl, rfl⟩, rfl, Harmless.nil⟩
  | cons join rest =>
      cases join with
      | mk words relation matching constraint =>
          simp only [Join.derivedOperationsAll, Harmless.append_iff] at harmless
          simp only [enterJoins, gives_bind_iff, gives_pure_iff] at run
          rcases run with ⟨entered, middle, relationRun, others, last, restRun, rfl, rfl⟩
          rcases enterFactor_moves tame relation harmless.1 relationRun with
            ⟨relationScope, relationRelated, relationEntry⟩
          rcases enterJoins_moves tame rest harmless.2 restRun with
            ⟨restScope, restRelated, restEntry⟩
          refine ⟨?_, Steady.trans relationRelated restRelated, ⟨fun later => ?_⟩⟩
          · rw [restScope, relationScope]
            exact (Scope.addAll_append before.scope _ _).symm
          · simp only [gives_bind_iff, gives_pure_iff] at later
            rcases later with ⟨newRelation, second, relationLater, newConstraint, third,
              constraintLater, newRest, _, restLater, rfl, rfl⟩
            rcases relationEntry.walks relationLater with ⟨firstWalk, firstNames, firstSpared⟩
            have secondWalk := gives_walkConstraint tame.unsupported constraintLater
            rcases restEntry.walks restLater with ⟨thirdWalk, thirdNames, thirdSpared⟩
            refine ⟨gives_walkExprs_append_iff.mpr ⟨_, _, _, gives_walkExprs_append_iff.mpr
              ⟨_, _, _, firstWalk, secondWalk, rfl⟩, thirdWalk, rfl⟩, ?_,
              Harmless.append_iff.mpr ⟨firstSpared, thirdSpared⟩⟩
            rw [Join.namesAll, firstNames, thirdNames, Join.namesAll]
termination_by structural joins

theorem enterFactor_moves {visitor : Visitor σ} [Steady related]
    (tame : visitor.Tame marked related) (factor : TableFactor)
    (harmless : Harmless marked factor.derivedOperations) :
    Walk.Moves (fun scope => scope.addAll factor.names) related
      (fun result => Entry visitor marked TableFactor.names TableFactor.conditions
        TableFactor.derivedOperations factor result.2)
      (enterFactor visitor factor) := by
  intro before after result run
  cases factor with
  | table name arguments aliasName tail =>
      rcases gives_enterTable_iff.mp run with ⟨rfl, rfl⟩
      refine ⟨rfl, Steady.addAll before _, ⟨fun later => ?_⟩⟩
      rcases gives_pure_iff.mp later with ⟨rfl, rfl⟩
      exact ⟨gives_pure_iff.mpr ⟨rfl, rfl⟩, rfl, Harmless.nil⟩
  | derived isLateral query aliasName =>
      simp only [enterFactor, gives_bind_iff, gives_pure_iff, gives_addAlias_iff] at run
      rcases run with ⟨newQuery, middle, queryRun, _, last, rfl, rfl, rfl⟩
      rcases walkQuery_moves tame false query harmless queryRun with
        ⟨queryScope, queryRelated, spared⟩
      have kept : middle.scope = before.scope := queryScope.trans (query.leave_false before.scope)
      refine ⟨?_, Steady.trans queryRelated (Steady.addAll middle _), ⟨fun later => ?_⟩⟩
      · simp only [kept]
        rfl
      · rcases gives_pure_iff.mp later with ⟨rfl, rfl⟩
        exact ⟨gives_pure_iff.mpr ⟨rfl, rfl⟩, rfl, spared⟩
  | nestedJoin inner aliasName =>
      simp only [enterFactor, gives_bind_iff, gives_pure_iff, gives_addAlias_iff] at run
      rcases run with ⟨entered, middle, innerRun, _, last, rfl, rfl, rfl⟩
      rcases enter_moves tame inner harmless innerRun with ⟨innerScope, innerRelated, entry⟩
      refine ⟨?_, Steady.trans innerRelated (Steady.addAll middle _), ⟨fun later => ?_⟩⟩
      · simp only [innerScope, TableFactor.names, Scope.addAll_append]
      · simp only [gives_bind_iff, gives_pure_iff] at later
        rcases later with ⟨newInner, _, innerLater, rfl, rfl⟩
        rcases entry.walks innerLater with ⟨walk, names, spared⟩
        refine ⟨walk, ?_, spared⟩
        rw [TableFactor.names, names, TableFactor.names]
  | function parts aliasName tail =>
      simp only [enterFactor, gives_bind_iff, gives_pure_iff, gives_addAlias_iff] at run
      rcases run with ⟨_, middle, rfl, _, last, refused, rfl, rfl⟩
      rcases tame.unsupported _ refused with rfl
      refine ⟨rfl, Steady.addAll before _, ⟨fun later => ?_⟩⟩
      rcases gives_pure_iff.mp later with ⟨rfl, rfl⟩
      exact ⟨gives_pure_iff.mpr ⟨rfl, rfl⟩, rfl, Harmless.nil⟩
termination_by structural factor

theorem joinConditionsAll_stay {visitor : Visitor σ} [Steady related]
    (tame : visitor.Tame marked related) (relations : List TableWithJoins)
    (harmless : Harmless marked (TableWithJoins.conditionOperationsAll relations)) :
    Walk.Stays related (fun results => Harmless marked (Expr.operationsAll results))
      (walkExprs visitor .ofJoin (TableWithJoins.conditionsAll relations)) := by
  cases relations with
  | nil =>
      exact .pure Harmless.nil
  | cons tables rest =>
      simp only [TableWithJoins.conditionOperationsAll, Harmless.append_iff] at harmless
      exact (joinConditions_stay tame tables harmless.1).walkExprs_append
        (joinConditionsAll_stay tame rest harmless.2)
termination_by structural relations

theorem joinConditions_stay {visitor : Visitor σ} [Steady related]
    (tame : visitor.Tame marked related) (tables : TableWithJoins)
    (harmless : Harmless marked tables.conditionOperations) :
    Walk.Stays related (fun results => Harmless marked (Expr.operationsAll results))
      (walkExprs visitor .ofJoin tables.conditions) := by
  cases tables with
  | mk relation joins =>
      simp only [TableWithJoins.conditionOperations, Harmless.append_iff] at harmless
      exact (factorConditions_stay tame relation harmless.1).walkExprs_append
        (joinsConditions_stay tame joins harmless.2)
termination_by structural tables

theorem joinsConditions_stay {visitor : Visitor σ} [Steady related]
    (tame : visitor.Tame marked related) (joins : List Join)
    (harmless : Harmless marked (Join.conditionOperationsAll joins)) :
    Walk.Stays related (fun results => Harmless marked (Expr.operationsAll results))
      (walkExprs visitor .ofJoin (Join.conditionsAll joins)) := by
  cases joins with
  | nil =>
      exact .pure Harmless.nil
  | cons join rest =>
      cases join with
      | mk words relation matching constraint =>
          simp only [Join.conditionOperationsAll, Harmless.append_iff] at harmless
          exact ((factorConditions_stay tame relation harmless.1.1).walkExprs_append
            (constraintConditions_stay tame constraint harmless.1.2)).walkExprs_append
              (joinsConditions_stay tame rest harmless.2)
termination_by structural joins

theorem factorConditions_stay {visitor : Visitor σ} [Steady related]
    (tame : visitor.Tame marked related) (factor : TableFactor)
    (harmless : Harmless marked factor.conditionOperations) :
    Walk.Stays related (fun results => Harmless marked (Expr.operationsAll results))
      (walkExprs visitor .ofJoin factor.conditions) := by
  cases factor with
  | table name arguments aliasName tail =>
      exact .pure Harmless.nil
  | derived isLateral query aliasName =>
      exact .pure Harmless.nil
  | nestedJoin inner aliasName =>
      exact joinConditions_stay tame inner harmless
  | function parts aliasName tail =>
      exact .pure Harmless.nil
termination_by structural factor

theorem constraintConditions_stay {visitor : Visitor σ} [Steady related]
    (tame : visitor.Tame marked related) (constraint : JoinConstraint)
    (harmless : Harmless marked constraint.operations) :
    Walk.Stays related (fun results => Harmless marked (Expr.operationsAll results))
      (walkExprs visitor .ofJoin constraint.conditions) := by
  cases constraint with
  | none =>
      exact .pure Harmless.nil
  | on condition =>
      rw [JoinConstraint.conditions, walkExprs]
      refine (walkExpr_stays tame .ofJoin condition harmless).bind fun _ follows => ?_
      rw [walkExprs]
      exact .pure (Harmless.append_iff.mpr ⟨follows.harmless, Harmless.nil⟩)
  | sharing columns =>
      exact .pure Harmless.nil
  | natural =>
      exact .pure Harmless.nil
termination_by structural constraint

end

end ColumnVeil
