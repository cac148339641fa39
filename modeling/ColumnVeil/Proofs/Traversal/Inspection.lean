import ColumnVeil.Proofs.Traversal.Run
import ColumnVeil.Proofs.Traversal.Site
import ColumnVeil.Traversal.Walk

/-!
# Inspection

A visitor inspects if it never replaces anything and keeps the state as it is: all it can do
is refuse.  A walk with such a visitor through a plain query, if it succeeds, gives the query
itself, and leaves the scope that the syntax says.  What the visitor was asked about on the
way are exactly the sites of the query: the main statements, `walkQuery_inspects` and
`walkStatements_inspects`, say that every site has passed the visitor.
-/

namespace ColumnVeil

open Sql

variable {σ : Type} {visitor : Visitor σ}

namespace Visitor

/-- The visitor replaces nothing and keeps the state, on queries. -/
structure Inspects (visitor : Visitor σ) : Prop where
  membership :
    ∀ {operand items context before result after},
      Gives (visitor.membership operand items context) before result after →
        result = none ∧ before = after
  operation :
    ∀ {left operator right context before result after},
      Gives (visitor.operation left operator right context) before result after →
        result = none ∧ before = after
  column :
    ∀ {expr column context before result after},
      Gives (visitor.column expr column context) before result after →
        expr = result ∧ before = after
  wildcard :
    ∀ {before result after},
      Gives visitor.wildcard before result after → before = after

/-- The visitor lets a site pass, in some state of its own. -/
def Passes (visitor : Visitor σ) : Site → Prop
  | .reference scope clause expr =>
      ∃ own result after,
        Gives (visitor.reference clause.context expr) ⟨scope, own⟩ result after
  | .star scope =>
      ∃ own result after, Gives visitor.wildcard ⟨scope, own⟩ result after

/-- The visitor lets all sites of a list pass. -/
def PassesAll (visitor : Visitor σ) (sites : List Site) : Prop :=
  ∀ site ∈ sites, visitor.Passes site

@[simp]
theorem passesAll_nil : visitor.PassesAll [] := by
  intro site member
  cases member

@[simp]
theorem passesAll_cons_iff {site : Site} {rest : List Site} :
    visitor.PassesAll (site :: rest) ↔ visitor.Passes site ∧ visitor.PassesAll rest := by
  simp [PassesAll]

@[simp]
theorem passesAll_append_iff {first second : List Site} :
    visitor.PassesAll (first ++ second) ↔
      visitor.PassesAll first ∧ visitor.PassesAll second := by
  simp only [PassesAll, List.mem_append]
  constructor
  · intro all
    exact ⟨fun site member => all site (Or.inl member),
      fun site member => all site (Or.inr member)⟩
  · rintro ⟨left, right⟩ site (member | member)
    · exact left site member
    · exact right site member

/-- A reference that passes stays as it is, and so does the state. -/
theorem Inspects.reference (inspects : visitor.Inspects)
    {clause : Clause} {expr result : Expr} {before after : Traversal σ}
    (run : Gives (visitor.reference clause.context expr) before result after) :
    expr = result ∧ before = after ∧
      visitor.Passes (.reference before.scope clause expr) := by
  have passes : visitor.Passes (.reference before.scope clause expr) :=
    ⟨before.own, result, after, run⟩
  rcases gives_reference_iff.mp run with ⟨_, unchanged, kept⟩ | ⟨column, _, visited⟩
  · exact ⟨unchanged, kept, passes⟩
  · have quiet := inspects.column visited
    exact ⟨quiet.1, quiet.2, passes⟩

end Visitor

/-! ## Entering relations -/

/-- A relation without a table behind it brings its name into scope. -/
theorem gives_addAlias_iff {aliasName : Option TableAlias}
    {before after : Traversal σ} {result : Unit} :
    Gives (Walk.addAlias aliasName : Walk σ Unit) before result after ↔
      { before with scope := before.scope.addAll (aliasNames aliasName) } = after := by
  cases aliasName with
  | none =>
      simp [Walk.addAlias, aliasNames]
  | some aliasName =>
      simp [Walk.addAlias, aliasNames, Scope.addAll]

/-- The scope behind a recorded projection item is the one that the syntax says. -/
theorem gives_registerOutput {expr : Expr} {aliasName : Option Ident}
    {before after : Traversal σ} {result : Unit}
    (run : Gives (Walk.registerOutput expr aliasName .ofSelectBody : Walk σ Unit)
      before result after) :
    { before with scope := before.scope.showing true expr aliasName } = after := by
  simp only [Walk.registerOutput, gives_bind_iff, Walk.gives_resolve_iff] at run
  rcases run with ⟨found, middle, ⟨resolved, rfl⟩, run⟩
  cases found with
  | none =>
      have kept := gives_pure_iff.mp run
      simpa [Scope.showing, resolved] using kept.2
  | some column =>
      simp only [gives_bind_iff, Walk.gives_scope_iff, Walk.gives_ofExcept_iff,
        Walk.gives_changeScope_iff] at run
      rcases run with ⟨_, _, ⟨rfl, rfl⟩, registered, _, ⟨accepted, rfl⟩, rfl⟩
      cases aliasName <;>
        simp [Scope.showing, Scope.outputName, resolved, accepted, Except.toOption]

/-- A named table comes into scope under its alias, or under its own name. -/
theorem gives_enterTable_iff {name : Name} {arguments tail : List Part}
    {aliasName : Option TableAlias} {before after : Traversal σ}
    {result : TableFactor × Walk σ TableFactor} :
    Gives (enterFactor visitor (.table name arguments aliasName tail)) before result after ↔
      (TableFactor.table name arguments aliasName tail,
          (pure (.table name arguments aliasName tail) : Walk σ TableFactor)) = result ∧
        { before with
          scope := before.scope.addAll
            (TableFactor.table name arguments aliasName tail).names } = after := by
  rw [enterFactor]
  cases table : name.last? with
  | none =>
      simp [TableFactor.names, table]
  | some table =>
      cases aliasName with
      | none =>
          simp only [gives_bind_iff, gives_pure_iff, Walk.gives_addTable_iff,
            TableFactor.names, table]
          simp [Scope.addAll]
      | some aliasName =>
          simp only [gives_bind_iff, gives_pure_iff, Walk.gives_addTable_iff,
            TableFactor.names, table]
          simp [Scope.addAll]

/--
A projection item is recorded if the client receives it, and walked through in
the clause of its projection.
-/
theorem gives_item {reaches : Bool} {shown : Expr} {aliasName : Option Ident}
    {rest : List SelectItem} {item : Expr → SelectItem}
    {before after : Traversal σ} {result : List SelectItem} :
    Gives (do
        if reaches then Walk.registerOutput shown aliasName { selectBody := reaches }
        let expr ← walkExpr visitor { selectBody := reaches } shown
        return item expr :: (← walkProjection visitor reaches rest)) before result after →
      ∃ expr middle,
        Gives (walkExpr visitor (Clause.ofProjection reaches).context shown)
            { before with scope := before.scope.showing reaches shown aliasName }
            expr middle ∧
          ∃ others last,
            Gives (walkProjection visitor reaches rest) middle others last ∧
              item expr :: others = result ∧ last = after := by
  intro run
  rw [Clause.context_ofProjection]
  cases reaches with
  | false =>
      rw [Scope.showing_false]
      simpa only [Bool.false_eq_true, if_false, gives_bind_iff, gives_pure_iff] using run
  | true =>
      simp only [if_true, gives_bind_iff, gives_pure_iff] at run
      rcases run with ⟨_, middle, recorded, run⟩
      rcases gives_registerOutput recorded with rfl
      exact run

/--
What is known of relations that have been entered: they are as they were, their
names are in scope, and what is left to do inspects the conditions of their
joins.
-/
structure Entered {τ : Type} (visitor : Visitor σ) (entered : τ)
    (names : List (String × String)) (sites : List Site)
    (conditionSites : Scope → List Site) (before : Traversal σ)
    (result : τ × Walk σ τ) (after : Traversal σ) : Prop where
  same : entered = result.1
  scope : { before with scope := before.scope.addAll names } = after
  passes : visitor.PassesAll sites
  conditions :
    ∀ {before value after},
      Gives result.2 before value after →
        entered = value ∧ before = after ∧
          visitor.PassesAll (conditionSites before.scope)

/-! ## Walking through plain queries -/

mutual

/-- An expression that is walked through stays as it is, and its sites pass. -/
theorem walkExpr_inspects (inspects : visitor.Inspects) (clause : Clause)
    (expr : Expr) (plain : expr.isPlain = true)
    {before after : Traversal σ} {result : Expr}
    (run : Gives (walkExpr visitor clause.context expr) before result after) :
    expr = result ∧ before = after ∧
      visitor.PassesAll (expr.sites before.scope clause) := by
  cases expr with
  | identifier ident =>
      rw [walkExpr] at run
      have seen := inspects.reference run
      exact ⟨seen.1, seen.2.1, by simpa [Expr.sites] using seen.2.2⟩
  | compound parts =>
      rw [walkExpr] at run
      have seen := inspects.reference run
      exact ⟨seen.1, seen.2.1, by simpa [Expr.sites] using seen.2.2⟩
  | value constant =>
      rw [walkExpr] at run
      rcases gives_pure_iff.mp run with ⟨rfl, rfl⟩
      exact ⟨rfl, rfl, by simp [Expr.sites]⟩
  | binary left operator right =>
      simp only [Expr.isPlain, Bool.and_eq_true] at plain
      simp only [walkExpr, gives_bind_iff] at run
      rcases run with ⟨replacement, middle, asked, run⟩
      rcases inspects.operation asked with ⟨rfl, rfl⟩
      simp only [gives_bind_iff, gives_pure_iff] at run
      rcases run with ⟨left', middle, leftRun, right', last, rightRun, rfl, rfl⟩
      rcases walkExpr_inspects inspects clause left plain.1 leftRun with
        ⟨rfl, rfl, leftPasses⟩
      rcases walkExpr_inspects inspects clause right plain.2 rightRun with
        ⟨rfl, rfl, rightPasses⟩
      exact ⟨rfl, rfl, by simp [Expr.sites, leftPasses, rightPasses]⟩
  | unary operator operand =>
      simp only [walkExpr, gives_bind_iff, gives_pure_iff] at run
      rcases run with ⟨operand', last, operandRun, rfl, rfl⟩
      rcases walkExpr_inspects inspects clause operand plain operandRun with
        ⟨rfl, rfl, passes⟩
      exact ⟨rfl, rfl, passes⟩
  | nested inner =>
      simp only [walkExpr, gives_bind_iff, gives_pure_iff] at run
      rcases run with ⟨inner', last, innerRun, rfl, rfl⟩
      rcases walkExpr_inspects inspects clause inner plain innerRun with
        ⟨rfl, rfl, passes⟩
      exact ⟨rfl, rfl, passes⟩
  | nullTest operand negated =>
      simp only [walkExpr, gives_bind_iff, gives_pure_iff] at run
      rcases run with ⟨operand', last, operandRun, rfl, rfl⟩
      rcases walkExpr_inspects inspects clause operand plain operandRun with
        ⟨rfl, rfl, passes⟩
      exact ⟨rfl, rfl, passes⟩
  | inList operand negated items =>
      simp only [Expr.isPlain, Bool.and_eq_true] at plain
      simp only [walkExpr, gives_bind_iff] at run
      rcases run with ⟨replacement, middle, asked, run⟩
      rcases inspects.membership asked with ⟨rfl, rfl⟩
      simp only [gives_bind_iff, gives_pure_iff] at run
      rcases run with ⟨operand', middle, operandRun, items', last, itemsRun, rfl, rfl⟩
      rcases walkExpr_inspects inspects clause operand plain.1 operandRun with
        ⟨rfl, rfl, operandPasses⟩
      rcases walkExprs_inspects inspects clause items plain.2 itemsRun with
        ⟨rfl, rfl, itemsPass⟩
      exact ⟨rfl, rfl, by simp [Expr.sites, operandPasses, itemsPass]⟩
  | inQuery operand negated body =>
      simp only [Expr.isPlain, Bool.and_eq_true] at plain
      simp only [walkExpr, gives_bind_iff, gives_pure_iff, Walk.gives_inFrame_iff] at run
      rcases run with
        ⟨operand', middle, operandRun, body', last, ⟨inside, bodyRun, rfl⟩, rfl, rfl⟩
      rcases walkExpr_inspects inspects clause operand plain.1 operandRun with
        ⟨rfl, rfl, operandPasses⟩
      rcases walkBody_inspects inspects body plain.2 bodyRun rfl with
        ⟨rfl, rfl, bodyPasses⟩
      have left :
          (body.leave (before.scope.push false) false).pop = before.scope :=
        body.pop_leave_false (before.scope.push false)
      refine ⟨rfl, ?_, by simp [Expr.sites, operandPasses, bodyPasses]⟩
      simp [left]
  | between operand negated low high =>
      simp only [Expr.isPlain, Bool.and_eq_true] at plain
      simp only [walkExpr, gives_bind_iff, gives_pure_iff] at run
      rcases run with
        ⟨operand', first, operandRun, low', second, lowRun, high', last, highRun,
          rfl, rfl⟩
      rcases walkExpr_inspects inspects clause operand plain.1.1 operandRun with
        ⟨rfl, rfl, operandPasses⟩
      rcases walkExpr_inspects inspects clause low plain.1.2 lowRun with
        ⟨rfl, rfl, lowPasses⟩
      rcases walkExpr_inspects inspects clause high plain.2 highRun with
        ⟨rfl, rfl, highPasses⟩
      exact ⟨rfl, rfl, by simp [Expr.sites, operandPasses, lowPasses, highPasses]⟩
  | like operand negated word pattern escape =>
      simp only [Expr.isPlain, Bool.and_eq_true] at plain
      simp only [walkExpr, gives_bind_iff, gives_pure_iff] at run
      rcases run with
        ⟨operand', middle, operandRun, pattern', last, patternRun, rfl, rfl⟩
      rcases walkExpr_inspects inspects clause operand plain.1 operandRun with
        ⟨rfl, rfl, operandPasses⟩
      rcases walkExpr_inspects inspects clause pattern plain.2 patternRun with
        ⟨rfl, rfl, patternPasses⟩
      exact ⟨rfl, rfl, by simp [Expr.sites, operandPasses, patternPasses]⟩
  | array named elements =>
      simp only [walkExpr, gives_bind_iff, gives_pure_iff] at run
      rcases run with ⟨elements', last, elementsRun, rfl, rfl⟩
      rcases walkExprs_inspects inspects clause elements plain elementsRun with
        ⟨rfl, rfl, passes⟩
      exact ⟨rfl, rfl, passes⟩
  | subquery query =>
      simp only [walkExpr, gives_bind_iff, gives_pure_iff] at run
      rcases run with ⟨query', last, queryRun, rfl, rfl⟩
      rcases walkQuery_inspects inspects query plain queryRun with
        ⟨rfl, rfl, passes⟩
      exact ⟨rfl, by simp [query.leave_false], passes⟩
  | existence negated query =>
      simp only [walkExpr, gives_bind_iff, gives_pure_iff] at run
      rcases run with ⟨query', last, queryRun, rfl, rfl⟩
      rcases walkQuery_inspects inspects query plain queryRun with
        ⟨rfl, rfl, passes⟩
      exact ⟨rfl, by simp [query.leave_false], passes⟩
  | call => simp [Expr.isPlain] at plain
  | form => simp [Expr.isPlain] at plain
termination_by structural expr

theorem walkExprs_inspects (inspects : visitor.Inspects) (clause : Clause)
    (exprs : List Expr) (plain : Expr.allPlain exprs = true)
    {before after : Traversal σ} {result : List Expr}
    (run : Gives (walkExprs visitor clause.context exprs) before result after) :
    exprs = result ∧ before = after ∧
      visitor.PassesAll (Expr.sitesAll before.scope clause exprs) := by
  cases exprs with
  | nil =>
      rw [walkExprs] at run
      rcases gives_pure_iff.mp run with ⟨rfl, rfl⟩
      exact ⟨rfl, rfl, by simp [Expr.sitesAll]⟩
  | cons expr rest =>
      simp only [Expr.allPlain, Bool.and_eq_true] at plain
      simp only [walkExprs, gives_bind_iff, gives_pure_iff] at run
      rcases run with ⟨expr', middle, exprRun, rest', last, restRun, rfl, rfl⟩
      rcases walkExpr_inspects inspects clause expr plain.1 exprRun with
        ⟨rfl, rfl, exprPasses⟩
      rcases walkExprs_inspects inspects clause rest plain.2 restRun with
        ⟨rfl, rfl, restPasses⟩
      exact ⟨rfl, rfl, by simp [Expr.sitesAll, exprPasses, restPasses]⟩
termination_by structural exprs

theorem walkOption_inspects (inspects : visitor.Inspects) (clause : Clause)
    (expr : Option Expr) (plain : Expr.optionPlain expr = true)
    {before after : Traversal σ} {result : Option Expr}
    (run : Gives (walkOption visitor clause.context expr) before result after) :
    expr = result ∧ before = after ∧
      visitor.PassesAll (Expr.sitesOption before.scope clause expr) := by
  cases expr with
  | none =>
      rw [walkOption] at run
      rcases gives_pure_iff.mp run with ⟨rfl, rfl⟩
      exact ⟨rfl, rfl, by simp [Expr.sitesOption]⟩
  | some expr =>
      simp only [walkOption, gives_bind_iff, gives_pure_iff] at run
      rcases run with ⟨expr', last, exprRun, rfl, rfl⟩
      rcases walkExpr_inspects inspects clause expr plain exprRun with ⟨rfl, rfl, passes⟩
      exact ⟨rfl, rfl, passes⟩
termination_by structural expr

/--
A query that is walked through stays as it is, and its sites pass.  Of the
scope, only the output names of the client's projection outlive it.
-/
theorem walkQuery_inspects (inspects : visitor.Inspects) {reaches : Bool}
    (query : Query) (plain : query.isPlain = true)
    {before after : Traversal σ} {result : Query}
    (run : Gives (walkQuery visitor reaches query) before result after) :
    query = result ∧
      { before with scope := query.leave before.scope reaches } = after ∧
        visitor.PassesAll (query.sites before.scope reaches) := by
  cases query with
  | mk recursive ctes body order tail =>
      simp only [Query.isPlain, Bool.and_eq_true] at plain
      simp only [walkQuery, gives_bind_iff, gives_pure_iff,
        Walk.gives_inFrame_iff] at run
      rcases run with
        ⟨ctes', middle, ctesRun, inside, ⟨body', first, bodyRun, order', last,
          orderRun, rfl, rfl⟩, rfl⟩
      rcases walkCtes_inspects inspects ctes plain.1.1.1 ctesRun with
        ⟨rfl, rfl, ctesPass⟩
      rcases walkBody_inspects inspects body plain.1.1.2 bodyRun rfl with
        ⟨rfl, rfl, bodyPasses⟩
      rcases walkOrder_inspects inspects order plain.1.2 orderRun with
        ⟨rfl, rfl, orderPasses⟩
      exact ⟨rfl, rfl, by simp [Query.sites, ctesPass, bodyPasses, orderPasses]⟩
termination_by structural query

theorem walkCtes_inspects (inspects : visitor.Inspects)
    (ctes : List Cte) (plain : Cte.allPlain ctes = true)
    {before after : Traversal σ} {result : List Cte}
    (run : Gives (walkCtes visitor ctes) before result after) :
    ctes = result ∧ before = after ∧
      visitor.PassesAll (Cte.sitesAll before.scope ctes) := by
  cases ctes with
  | nil =>
      rw [walkCtes] at run
      rcases gives_pure_iff.mp run with ⟨rfl, rfl⟩
      exact ⟨rfl, rfl, by simp [Cte.sitesAll]⟩
  | cons cte rest =>
      cases cte with
      | mk aliasName materialized query origin =>
          simp only [Cte.allPlain, Bool.and_eq_true] at plain
          simp only [walkCtes, gives_bind_iff, gives_pure_iff] at run
          rcases run with ⟨query', middle, queryRun, rest', last, restRun, rfl, rfl⟩
          rcases walkQuery_inspects inspects query plain.1 queryRun with
            ⟨rfl, rfl, queryPasses⟩
          rw [query.leave_false] at restRun
          rcases walkCtes_inspects inspects rest plain.2 restRun with
            ⟨rfl, rfl, restPasses⟩
          exact ⟨rfl, rfl, by simp [Cte.sitesAll, queryPasses, restPasses]⟩
termination_by structural ctes

theorem walkOrder_inspects (inspects : visitor.Inspects)
    (items : List OrderItem) (plain : OrderItem.allPlain items = true)
    {before after : Traversal σ} {result : List OrderItem}
    (run : Gives (walkOrder visitor items) before result after) :
    items = result ∧ before = after ∧
      visitor.PassesAll (OrderItem.sitesAll before.scope items) := by
  cases items with
  | nil =>
      rw [walkOrder] at run
      rcases gives_pure_iff.mp run with ⟨rfl, rfl⟩
      exact ⟨rfl, rfl, by simp [OrderItem.sitesAll]⟩
  | cons item rest =>
      cases item with
      | mk expr direction =>
          simp only [OrderItem.allPlain, Bool.and_eq_true] at plain
          simp only [walkOrder, gives_bind_iff, gives_pure_iff] at run
          rcases run with ⟨expr', middle, exprRun, rest', last, restRun, rfl, rfl⟩
          rcases walkExpr_inspects inspects .order expr plain.1 exprRun with
            ⟨rfl, rfl, exprPasses⟩
          rcases walkOrder_inspects inspects rest plain.2 restRun with
            ⟨rfl, rfl, restPasses⟩
          exact ⟨rfl, rfl, by simp [OrderItem.sitesAll, exprPasses, restPasses]⟩
termination_by structural items

/-- The frame of the body's query tells whether its rows reach the client. -/
theorem walkBody_inspects (inspects : visitor.Inspects) {reaches : Bool}
    (body : QueryBody) (plain : body.isPlain = true)
    {before after : Traversal σ} {result : QueryBody}
    (run : Gives (walkBody visitor reaches body) before result after)
    (frame : before.scope.returnsRows = reaches) :
    body = result ∧
      { before with scope := body.leave before.scope reaches } = after ∧
        visitor.PassesAll (body.sites before.scope reaches) := by
  cases body with
  | select select =>
      simp only [walkBody, gives_bind_iff, gives_pure_iff] at run
      rcases run with ⟨select', last, selectRun, rfl, rfl⟩
      rcases walkSelect_inspects inspects select plain selectRun frame with
        ⟨rfl, rfl, passes⟩
      exact ⟨rfl, rfl, passes⟩
  | parenthesized query =>
      simp only [walkBody, gives_bind_iff, gives_pure_iff] at run
      rcases run with ⟨query', last, queryRun, rfl, rfl⟩
      rcases walkQuery_inspects inspects query plain queryRun with
        ⟨rfl, rfl, passes⟩
      exact ⟨rfl, rfl, passes⟩
  | combination => simp [QueryBody.isPlain] at plain
  | values => simp [QueryBody.isPlain] at plain
  | table => simp [QueryBody.isPlain] at plain
  | change => simp [QueryBody.isPlain] at plain
termination_by structural body

theorem walkSelect_inspects (inspects : visitor.Inspects) {reaches : Bool}
    (select : Select) (plain : select.isPlain = true)
    {before after : Traversal σ} {result : Select}
    (run : Gives (walkSelect visitor select) before result after)
    (frame : before.scope.returnsRows = reaches) :
    select = result ∧
      { before with scope := (QueryBody.select select).leave before.scope reaches } =
          after ∧
        visitor.PassesAll (select.sites before.scope reaches) := by
  cases select with
  | mk lead projection target relations views condition groups grouping having tail =>
      simp only [Select.isPlain, Bool.and_eq_true] at plain
      simp only [walkSelect, gives_bind_iff, gives_pure_iff,
        Walk.gives_scope_iff] at run
      rcases run with
        ⟨entered, first, enterRun, scope, second, ⟨rfl, rfl⟩, projection', third,
          projectionRun, relations', fourth, conditionsRun, condition', fifth,
          conditionRun, groups', sixth, groupsRun, having', last, havingRun, rfl, rfl⟩
      have entering := enterAll_inspects inspects relations plain.1.1.1.1.1.1.2 enterRun
      rcases entering.scope with rfl
      rw [Scope.returnsRows_addAll, frame] at projectionRun
      rcases walkProjection_inspects inspects projection plain.1.1.1.1.1.1.1.2
        projectionRun with ⟨rfl, rfl, projectionPasses⟩
      rcases entering.conditions conditionsRun with ⟨rfl, rfl, conditionsPass⟩
      rcases walkOption_inspects inspects .condition condition
        plain.1.1.1.1.2 conditionRun with ⟨rfl, rfl, conditionPasses⟩
      rcases walkExprs_inspects inspects .grouping groups
        plain.1.1.1.2 groupsRun with ⟨rfl, rfl, groupsPass⟩
      rcases walkOption_inspects inspects .having having
        plain.1.2 havingRun with ⟨rfl, rfl, havingPasses⟩
      refine ⟨rfl, rfl, ?_⟩
      simp [Select.sites, entering.passes, projectionPasses, conditionsPass,
        conditionPasses, groupsPass, havingPasses]
termination_by structural select

theorem walkProjection_inspects (inspects : visitor.Inspects) {reaches : Bool}
    (items : List SelectItem) (plain : SelectItem.allPlain items = true)
    {before after : Traversal σ} {result : List SelectItem}
    (run : Gives (walkProjection visitor reaches items) before result after) :
    items = result ∧
      { before with scope := SelectItem.leave before.scope reaches items } = after ∧
        visitor.PassesAll (SelectItem.sitesAll before.scope reaches items) := by
  cases items with
  | nil =>
      rw [walkProjection] at run
      rcases gives_pure_iff.mp run with ⟨rfl, rfl⟩
      exact ⟨rfl, rfl, by simp [SelectItem.sitesAll]⟩
  | cons item rest =>
      cases item with
      | expr shown =>
          simp only [SelectItem.allPlain, Bool.and_eq_true] at plain
          rw [walkProjection] at run
          rcases gives_item run with
            ⟨shown', middle, shownRun, rest', last, restRun, rfl, rfl⟩
          rcases walkExpr_inspects inspects _ shown plain.1 shownRun with
            ⟨rfl, rfl, shownPasses⟩
          rcases walkProjection_inspects inspects rest plain.2 restRun with
            ⟨rfl, rfl, restPasses⟩
          exact ⟨rfl, rfl, by simp [SelectItem.sitesAll, shownPasses, restPasses]⟩
      | aliased shown aliasName =>
          simp only [SelectItem.allPlain, Bool.and_eq_true] at plain
          rw [walkProjection] at run
          rcases gives_item run with
            ⟨shown', middle, shownRun, rest', last, restRun, rfl, rfl⟩
          rcases walkExpr_inspects inspects _ shown plain.1 shownRun with
            ⟨rfl, rfl, shownPasses⟩
          rcases walkProjection_inspects inspects rest plain.2 restRun with
            ⟨rfl, rfl, restPasses⟩
          exact ⟨rfl, rfl, by simp [SelectItem.sitesAll, shownPasses, restPasses]⟩
      | wildcard qualifier =>
          simp only [walkProjection, gives_bind_iff, gives_pure_iff] at run
          rcases run with ⟨asked, middle, starRun, rest', last, restRun, rfl, rfl⟩
          have starPasses : visitor.Passes (.star before.scope) :=
            ⟨before.own, asked, middle, starRun⟩
          rcases inspects.wildcard starRun with rfl
          rcases walkProjection_inspects inspects rest plain restRun with
            ⟨rfl, rfl, restPasses⟩
          exact ⟨rfl, rfl, by simp [SelectItem.sitesAll, starPasses, restPasses]⟩
termination_by structural items

theorem enterAll_inspects (inspects : visitor.Inspects)
    (relations : List TableWithJoins) (plain : TableWithJoins.allPlain relations = true)
    {before after : Traversal σ}
    {result : List TableWithJoins × Walk σ (List TableWithJoins)}
    (run : Gives (enterAll visitor relations) before result after) :
    Entered visitor relations (TableWithJoins.namesAll relations)
      (TableWithJoins.sitesAll before.scope relations)
      (fun scope => TableWithJoins.conditionSitesAll scope relations)
      before result after := by
  cases relations with
  | nil =>
      rw [enterAll] at run
      rcases gives_pure_iff.mp run with ⟨rfl, rfl⟩
      refine ⟨rfl, rfl, by simp [TableWithJoins.sitesAll], ?_⟩
      intro before value after conditionsRun
      rcases gives_pure_iff.mp conditionsRun with ⟨rfl, rfl⟩
      exact ⟨rfl, rfl, by simp [TableWithJoins.conditionSitesAll]⟩
  | cons tables rest =>
      simp only [TableWithJoins.allPlain, Bool.and_eq_true] at plain
      simp only [enterAll, gives_bind_iff, gives_pure_iff] at run
      rcases run with ⟨entered, middle, tablesRun, others, last, restRun, rfl, rfl⟩
      have first := enter_inspects inspects tables plain.1 tablesRun
      rcases first.scope with rfl
      have second := enterAll_inspects inspects rest plain.2 restRun
      refine ⟨?_, ?_, ?_, ?_⟩
      · simp [first.same, second.same]
      · rw [← second.scope]
        simp [TableWithJoins.namesAll, Scope.addAll_append]
      · simp [TableWithJoins.sitesAll, first.passes, second.passes]
      · intro before value after conditionsRun
        simp only [gives_bind_iff, gives_pure_iff] at conditionsRun
        rcases conditionsRun with
          ⟨tables', middle, tablesRun, rest', last, restRun, rfl, rfl⟩
        rcases first.conditions tablesRun with ⟨rfl, rfl, firstPasses⟩
        rcases second.conditions restRun with ⟨rfl, rfl, secondPasses⟩
        exact ⟨rfl, rfl,
          by simp [TableWithJoins.conditionSitesAll, firstPasses, secondPasses]⟩
termination_by structural relations

theorem enter_inspects (inspects : visitor.Inspects)
    (tables : TableWithJoins) (plain : tables.isPlain = true)
    {before after : Traversal σ} {result : TableWithJoins × Walk σ TableWithJoins}
    (run : Gives (enter visitor tables) before result after) :
    Entered visitor tables tables.names (tables.sites before.scope)
      (fun scope => tables.conditionSites scope) before result after := by
  cases tables with
  | mk relation joins =>
      simp only [TableWithJoins.isPlain, Bool.and_eq_true] at plain
      simp only [enter, gives_bind_iff, gives_pure_iff] at run
      rcases run with ⟨entered, middle, relationRun, others, last, joinsRun, rfl, rfl⟩
      have first := enterFactor_inspects inspects relation plain.1 relationRun
      rcases first.scope with rfl
      have second := enterJoins_inspects inspects joins plain.2 joinsRun
      refine ⟨?_, ?_, ?_, ?_⟩
      · simp [first.same, second.same]
      · rw [← second.scope]
        simp [TableWithJoins.names, Scope.addAll_append]
      · simp [TableWithJoins.sites, first.passes, second.passes]
      · intro before value after conditionsRun
        simp only [gives_bind_iff, gives_pure_iff] at conditionsRun
        rcases conditionsRun with
          ⟨relation', middle, relationRun, joins', last, joinsRun, rfl, rfl⟩
        rcases first.conditions relationRun with ⟨rfl, rfl, firstPasses⟩
        rcases second.conditions joinsRun with ⟨rfl, rfl, secondPasses⟩
        exact ⟨rfl, rfl,
          by simp [TableWithJoins.conditionSites, firstPasses, secondPasses]⟩
termination_by structural tables

theorem enterJoins_inspects (inspects : visitor.Inspects)
    (joins : List Join) (plain : Join.allPlain joins = true)
    {before after : Traversal σ} {result : List Join × Walk σ (List Join)}
    (run : Gives (enterJoins visitor joins) before result after) :
    Entered visitor joins (Join.namesAll joins) (Join.sitesAll before.scope joins)
      (fun scope => Join.conditionSitesAll scope joins) before result after := by
  cases joins with
  | nil =>
      rw [enterJoins] at run
      rcases gives_pure_iff.mp run with ⟨rfl, rfl⟩
      refine ⟨rfl, rfl, by simp [Join.sitesAll], ?_⟩
      intro before value after conditionsRun
      rcases gives_pure_iff.mp conditionsRun with ⟨rfl, rfl⟩
      exact ⟨rfl, rfl, by simp [Join.conditionSitesAll]⟩
  | cons join rest =>
      cases join with
      | mk words relation matching constraint =>
          simp only [Join.allPlain, Bool.and_eq_true] at plain
          simp only [enterJoins, gives_bind_iff, gives_pure_iff] at run
          rcases run with ⟨entered, middle, relationRun, others, last, restRun, rfl, rfl⟩
          have first := enterFactor_inspects inspects relation plain.1.1.1 relationRun
          rcases first.scope with rfl
          have second := enterJoins_inspects inspects rest plain.2 restRun
          refine ⟨?_, ?_, ?_, ?_⟩
          · simp [first.same, second.same]
          · rw [← second.scope]
            simp [Join.namesAll, Scope.addAll_append]
          · simp [Join.sitesAll, first.passes, second.passes]
          · intro before value after conditionsRun
            simp only [gives_bind_iff, gives_pure_iff] at conditionsRun
            rcases conditionsRun with
              ⟨relation', third, relationRun, constraint', fourth, constraintRun,
                rest', last, restRun, rfl, rfl⟩
            rcases first.conditions relationRun with ⟨rfl, rfl, firstPasses⟩
            rcases walkConstraint_inspects inspects constraint plain.1.2
              constraintRun with ⟨rfl, rfl, constraintPasses⟩
            rcases second.conditions restRun with ⟨rfl, rfl, secondPasses⟩
            exact ⟨rfl, rfl, by
              simp [Join.conditionSitesAll, firstPasses, constraintPasses, secondPasses]⟩
termination_by structural joins

theorem enterFactor_inspects (inspects : visitor.Inspects)
    (factor : TableFactor) (plain : factor.isPlain = true)
    {before after : Traversal σ} {result : TableFactor × Walk σ TableFactor}
    (run : Gives (enterFactor visitor factor) before result after) :
    Entered visitor factor factor.names (factor.sites before.scope)
      (fun scope => factor.conditionSites scope) before result after := by
  cases factor with
  | table name arguments aliasName tail =>
      rcases (gives_enterTable_iff.mp run) with ⟨rfl, rfl⟩
      refine ⟨rfl, rfl, by simp [TableFactor.sites], ?_⟩
      intro before value after conditionsRun
      rcases gives_pure_iff.mp conditionsRun with ⟨rfl, rfl⟩
      exact ⟨rfl, rfl, by simp [TableFactor.conditionSites]⟩
  | derived isLateral query aliasName =>
      simp only [enterFactor, gives_bind_iff, gives_pure_iff, gives_addAlias_iff] at run
      rcases run with ⟨query', middle, queryRun, _, last, rfl, rfl, rfl⟩
      rcases walkQuery_inspects inspects query plain queryRun with
        ⟨rfl, rfl, passes⟩
      refine ⟨rfl, ?_, passes, ?_⟩
      · simp [TableFactor.names, query.leave_false]
      · intro before value after conditionsRun
        rcases gives_pure_iff.mp conditionsRun with ⟨rfl, rfl⟩
        exact ⟨rfl, rfl, by simp [TableFactor.conditionSites]⟩
  | nestedJoin inner aliasName =>
      simp only [enterFactor, gives_bind_iff, gives_pure_iff, gives_addAlias_iff] at run
      rcases run with ⟨entered, middle, innerRun, _, last, rfl, rfl, rfl⟩
      have first := enter_inspects inspects inner plain innerRun
      rcases first.scope with rfl
      refine ⟨?_, ?_, first.passes, ?_⟩
      · simp [first.same]
      · simp [TableFactor.names, Scope.addAll_append]
      · intro before value after conditionsRun
        simp only [gives_bind_iff, gives_pure_iff] at conditionsRun
        rcases conditionsRun with ⟨inner', last, conditionsRun, rfl, rfl⟩
        rcases first.conditions conditionsRun with ⟨rfl, rfl, passes⟩
        exact ⟨rfl, rfl, passes⟩
  | function => simp [TableFactor.isPlain] at plain
termination_by structural factor

theorem walkConstraint_inspects (inspects : visitor.Inspects)
    (constraint : JoinConstraint) (plain : constraint.isPlain = true)
    {before after : Traversal σ} {result : JoinConstraint}
    (run : Gives (walkConstraint visitor constraint) before result after) :
    constraint = result ∧ before = after ∧
      visitor.PassesAll (constraint.sites before.scope) := by
  cases constraint with
  | none =>
      rw [walkConstraint] at run
      rcases gives_pure_iff.mp run with ⟨rfl, rfl⟩
      exact ⟨rfl, rfl, by simp [JoinConstraint.sites]⟩
  | on condition =>
      simp only [walkConstraint, gives_bind_iff, gives_pure_iff] at run
      rcases run with ⟨condition', last, conditionRun, rfl, rfl⟩
      rcases walkExpr_inspects inspects .joining condition plain
        conditionRun with ⟨rfl, rfl, passes⟩
      exact ⟨rfl, rfl, passes⟩
  | sharing => simp [JoinConstraint.isPlain] at plain
  | natural => simp [JoinConstraint.isPlain] at plain
termination_by structural constraint

end

/-! ## Walking through texts -/

/-- A plain query on its own stays as it is, and its sites pass. -/
theorem walkStatement_inspects (inspects : visitor.Inspects)
    (statement : Statement) (plain : statement.isPlain = true)
    {before after : Traversal σ} {result : Statement}
    (run : Gives (walkStatement visitor statement) before result after) :
    statement = result ∧
      { before with scope := statement.leave before.scope } = after ∧
        visitor.PassesAll (statement.sites before.scope) := by
  cases statement with
  | query query =>
      simp only [walkStatement, gives_bind_iff, gives_pure_iff] at run
      rcases run with ⟨query', last, queryRun, rfl, rfl⟩
      rcases walkQuery_inspects inspects query plain queryRun with
        ⟨rfl, rfl, passes⟩
      exact ⟨rfl, rfl, passes⟩
  | insert => simp [Statement.isPlain] at plain
  | update => simp [Statement.isPlain] at plain
  | delete => simp [Statement.isPlain] at plain
  | explain => simp [Statement.isPlain] at plain
  | definition => simp [Statement.isPlain] at plain
  | utility => simp [Statement.isPlain] at plain

theorem walkStatementsFrom_inspects (inspects : visitor.Inspects)
    (statements : List Statement)
    (plain : ∀ statement ∈ statements, statement.isPlain = true)
    {before after : Traversal σ} {result : List Statement}
    (run : Gives (walkStatementsFrom visitor statements) before result after) :
    statements = result ∧
      visitor.PassesAll (Statement.sitesFrom before.scope statements) := by
  induction statements generalizing before result with
  | nil =>
      rw [walkStatementsFrom] at run
      rcases gives_pure_iff.mp run with ⟨rfl, rfl⟩
      exact ⟨rfl, by simp [Statement.sitesFrom]⟩
  | cons statement rest hypothesis =>
      simp only [List.forall_mem_cons] at plain
      simp only [walkStatementsFrom, gives_bind_iff, gives_pure_iff,
        Walk.gives_changeScope_iff] at run
      rcases run with
        ⟨_, _, rfl, statement', middle, statementRun, rest', last, restRun, rfl, rfl⟩
      rcases walkStatement_inspects inspects statement plain.1 statementRun with
        ⟨rfl, rfl, statementPasses⟩
      rcases hypothesis plain.2 restRun with ⟨rfl, restPasses⟩
      exact ⟨rfl, by simp [Statement.sitesFrom, statementPasses, restPasses]⟩

/-- A text of plain queries stays as it is, and all its sites pass. -/
theorem walkStatements_inspects (inspects : visitor.Inspects)
    (statements : List Statement)
    (plain : ∀ statement ∈ statements, statement.isPlain = true)
    {before after : Traversal σ} {result : List Statement}
    (run : Gives (walkStatements visitor statements) before result after) :
    statements = result ∧ visitor.PassesAll (Statement.sitesAll statements) := by
  simp only [walkStatements, gives_bind_iff, Walk.gives_changeScope_iff] at run
  rcases run with ⟨_, _, rfl, run⟩
  exact walkStatementsFrom_inspects inspects statements plain run

end ColumnVeil
