import ColumnVeil.Proofs.Sql.Print
import ColumnVeil.Proofs.Traversal.Run
import ColumnVeil.Traversal.Walk

/-!
# Walks without a zero

A walk through a statement puts together anew what it has found, and what the visitor gives it
in the place of some parts.  So if neither the statement nor anything from the visitor holds a
zero, the result of the walk holds none.
-/

namespace ColumnVeil

open Sql

variable {σ α β : Type}

/-- Whatever a walk gives has a property. -/
def Walk.Ensures (ensured : α → Prop) (walk : Walk σ α) : Prop :=
  ∀ ⦃before after : Traversal σ⦄ ⦃value : α⦄, Gives walk before value after → ensured value

namespace Walk.Ensures

variable {needed : β → Prop} {ensured : α → Prop}

theorem pure {value : α} (known : ensured value) :
    Ensures ensured (Pure.pure value : Walk σ α) := by
  intro before after result run
  obtain ⟨rfl, -⟩ := gives_pure_iff.mp run
  exact known

theorem throw (failure : Failure) : Ensures ensured (MonadExcept.throw failure : Walk σ α) := by
  intro before after result run
  exact absurd run not_gives_throw

theorem bind {walk : Walk σ β} {next : β → Walk σ α} (first : Ensures needed walk)
    (second : ∀ value, needed value → Ensures ensured (next value)) :
    Ensures ensured (walk >>= next) := by
  intro before after result run
  obtain ⟨value, middle, firstRun, secondRun⟩ := gives_bind_iff.mp run
  exact second value (first firstRun) secondRun

/-- A step of which nothing needs to be known. -/
theorem after {walk : Walk σ β} {next : β → Walk σ α}
    (second : ∀ value, Ensures ensured (next value)) : Ensures ensured (walk >>= next) :=
  bind (fun _ _ _ _ => trivial : Ensures (fun _ => True) walk) fun value _ => second value

/-- A walk that may be refused before it begins. -/
theorem refuseIf (condition : Prop) [Decidable condition] (failure : Failure) {next : Walk σ α}
    (later : Ensures ensured next) : Ensures ensured (do
      if condition then MonadExcept.throw failure
      next) := by
  split
  · exact bind (throw failure : Ensures (fun _ : PUnit => True) _) fun _ _ => later
  · exact later

theorem ofExcept {result : Except Failure α} (known : ∀ value, result = .ok value → ensured value) :
    Ensures ensured (Walk.ofExcept result : Walk σ α) := by
  intro before after value run
  exact known value (Walk.gives_ofExcept_iff.mp run).1

theorem inFrame {returnsRows : Bool} {body : Walk σ α} (inside : Ensures ensured body) :
    Ensures ensured (Walk.inFrame returnsRows body) := by
  intro before after value run
  obtain ⟨reached, bodyRun, -⟩ := Walk.gives_inFrame_iff.mp run
  exact inside bodyRun

variable {step : β → Walk σ α} {items : List β}

theorem mapM (each : ∀ item ∈ items, Ensures ensured (step item)) :
    Ensures (fun results : List α => ∀ result ∈ results, ensured result) (items.mapM step) := by
  induction items with
  | nil =>
      rw [List.mapM_nil]
      exact pure (List.forall_mem_nil _)
  | cons item items inductionHypothesis =>
      rw [List.mapM_cons]
      rw [List.forall_mem_cons] at each
      exact bind each.1 fun first known => bind (inductionHypothesis each.2) fun _ others =>
        pure (List.forall_mem_cons.mpr ⟨known, others⟩)

theorem foldlM {step : α → β → Walk σ α}
    (each : ∀ value item, ensured value → Ensures ensured (step value item)) {start : α}
    (known : ensured start) : Ensures ensured (items.foldlM step start) := by
  induction items generalizing start with
  | nil =>
      exact pure known
  | cons item items inductionHypothesis =>
      rw [List.foldlM_cons]
      exact bind (each start item known) fun _ next => inductionHypothesis next

end Walk.Ensures

open Walk (Ensures)

/-! ## Sweeps -/

/-- A sweep that puts nothing with a zero in the place of a reference without one. -/
structure Sweep.Plain (sweep : Sweep (Walk σ)) : Prop where
  column : ∀ {expr}, Zeroless expr → Ensures Zeroless (sweep.column expr)

namespace Sweep.Plain

variable {sweep : Sweep (Walk σ)}

mutual

theorem expr (plain : Sweep.Plain sweep) (expr : Expr) (zeroless : Zeroless expr) :
    Ensures Zeroless (expr.sweep sweep) := by
  cases expr with
  | identifier ident =>
      exact plain.column zeroless
  | compound parts =>
      exact plain.column zeroless
  | value constant =>
      exact .pure zeroless
  | binary left operator right =>
      simp only [zeroless_binary] at zeroless
      exact (plain.expr left (by simp [zeroless])).bind fun _ first =>
        (plain.expr right (by simp [zeroless])).bind fun _ second =>
          .pure (by simp [zeroless, first, second])
  | unary operator operand =>
      simp only [zeroless_unary] at zeroless
      exact (plain.expr operand (by simp [zeroless])).bind fun _ first =>
        .pure (by simp [zeroless, first])
  | nested inner =>
      simp only [zeroless_nested] at zeroless
      exact (plain.expr inner zeroless).bind fun _ first => .pure (by simp [first])
  | nullTest operand negated =>
      simp only [zeroless_nullTest] at zeroless
      exact (plain.expr operand zeroless).bind fun _ first => .pure (by simp [first])
  | inList operand negated items =>
      simp only [zeroless_inList] at zeroless
      exact (plain.expr operand (by simp [zeroless])).bind fun _ first =>
        (plain.exprs items (by simp [zeroless])).bind fun _ second =>
          .pure (by simp [first, second])
  | inQuery operand negated body =>
      simp only [zeroless_inQuery] at zeroless
      exact (plain.expr operand (by simp [zeroless])).bind fun _ first =>
        (plain.body body (by simp [zeroless])).bind fun _ second =>
          .pure (by simp [first, second])
  | between operand negated low high =>
      simp only [zeroless_between] at zeroless
      exact (plain.expr operand (by simp [zeroless])).bind fun _ first =>
        (plain.expr low (by simp [zeroless])).bind fun _ second =>
          (plain.expr high (by simp [zeroless])).bind fun _ third =>
            .pure (by simp [first, second, third])
  | like operand negated word pattern escape =>
      simp only [zeroless_like] at zeroless
      exact (plain.expr operand (by simp [zeroless])).bind fun _ first =>
        (plain.expr pattern (by simp [zeroless])).bind fun _ second =>
          .pure (by simp [zeroless, first, second])
  | array named elements =>
      simp only [zeroless_array] at zeroless
      exact (plain.exprs elements zeroless).bind fun _ first => .pure (by simp [first])
  | subquery query =>
      simp only [zeroless_subquery] at zeroless
      exact (plain.query query zeroless).bind fun _ first => .pure (by simp [first])
  | existence negated query =>
      simp only [zeroless_existence] at zeroless
      exact (plain.query query zeroless).bind fun _ first => .pure (by simp [first])
  | call name opening late closing =>
      simp only [zeroless_call] at zeroless
      exact (plain.parts opening (by simp [zeroless])).bind fun _ first =>
        (plain.parts closing (by simp [zeroless])).bind fun _ second =>
          (plain.parts late (by simp [zeroless])).bind fun _ third =>
            .pure (by simp [zeroless, first, second, third])
  | form parts =>
      simp only [zeroless_form] at zeroless
      exact (plain.parts parts zeroless).bind fun _ first => .pure (by simp [first])
termination_by structural expr

theorem exprs (plain : Sweep.Plain sweep) (exprs : List Expr) (zeroless : Zeroless exprs) :
    Ensures Zeroless (Expr.sweepAll sweep exprs) := by
  cases exprs with
  | nil =>
      exact .pure zeroless
  | cons expr rest =>
      simp only [zeroless_cons] at zeroless
      exact (plain.expr expr zeroless.1).bind fun _ first =>
        (plain.exprs rest zeroless.2).bind fun _ others => .pure (by simp [first, others])
termination_by structural exprs

theorem option (plain : Sweep.Plain sweep) (expr : Option Expr) (zeroless : Zeroless expr) :
    Ensures Zeroless (Expr.sweepOption sweep expr) := by
  cases expr with
  | none =>
      exact .pure zeroless
  | some expr =>
      simp only [zeroless_some] at zeroless
      exact (plain.expr expr zeroless).bind fun _ first => .pure (by simp [first])
termination_by structural expr

theorem part (plain : Sweep.Plain sweep) (part : Part) (zeroless : Zeroless part) :
    Ensures Zeroless (part.sweep sweep) := by
  cases part with
  | words text =>
      exact .pure zeroless
  | expr expr =>
      simp only [zeroless_operand] at zeroless
      exact (plain.expr expr zeroless).bind fun _ first => .pure (by simp [first])
  | query query =>
      simp only [zeroless_queryPart] at zeroless
      exact (plain.query query zeroless).bind fun _ first => .pure (by simp [first])
  | tables tables =>
      simp only [zeroless_tablesPart] at zeroless
      exact (plain.tables tables zeroless).bind fun _ first => .pure (by simp [first])
  | relation name =>
      exact .after fun _ => .pure zeroless
termination_by structural part

theorem parts (plain : Sweep.Plain sweep) (parts : List Part) (zeroless : Zeroless parts) :
    Ensures Zeroless (Part.sweepAll sweep parts) := by
  cases parts with
  | nil =>
      exact .pure zeroless
  | cons part rest =>
      simp only [zeroless_cons] at zeroless
      exact (plain.part part zeroless.1).bind fun _ first =>
        (plain.parts rest zeroless.2).bind fun _ others => .pure (by simp [first, others])
termination_by structural parts

theorem query (plain : Sweep.Plain sweep) (query : Query) (zeroless : Zeroless query) :
    Ensures Zeroless (query.sweep sweep) := by
  cases query with
  | mk recursive ctes body order tail =>
      simp only [zeroless_query] at zeroless
      exact (plain.ctes ctes (by simp [zeroless])).bind fun _ first =>
        (plain.body body (by simp [zeroless])).bind fun _ second =>
          (plain.order order (by simp [zeroless])).bind fun _ third =>
            (plain.parts tail (by simp [zeroless])).bind fun _ fourth =>
              .pure (by simp [first, second, third, fourth])
termination_by structural query

theorem ctes (plain : Sweep.Plain sweep) (ctes : List Cte) (zeroless : Zeroless ctes) :
    Ensures Zeroless (Cte.sweepAll sweep ctes) := by
  cases ctes with
  | nil =>
      exact .pure zeroless
  | cons cte rest =>
      cases cte with
      | mk aliasName materialized query origin =>
          simp only [zeroless_cons, zeroless_cte] at zeroless
          exact (plain.query query (by simp [zeroless])).bind fun _ first =>
            (plain.ctes rest zeroless.2).bind fun _ others =>
              .pure (by simp [zeroless, first, others])
termination_by structural ctes

theorem order (plain : Sweep.Plain sweep) (items : List OrderItem) (zeroless : Zeroless items) :
    Ensures Zeroless (OrderItem.sweepAll sweep items) := by
  cases items with
  | nil =>
      exact .pure zeroless
  | cons item rest =>
      cases item with
      | mk expr direction =>
          simp only [zeroless_cons, zeroless_orderItem] at zeroless
          exact (plain.expr expr (by simp [zeroless])).bind fun _ first =>
            (plain.order rest zeroless.2).bind fun _ others =>
              .pure (by simp [zeroless, first, others])
termination_by structural items

theorem body (plain : Sweep.Plain sweep) (body : QueryBody) (zeroless : Zeroless body) :
    Ensures Zeroless (body.sweep sweep) := by
  cases body with
  | select select =>
      simp only [zeroless_selection] at zeroless
      exact (plain.select select zeroless).bind fun _ first => .pure (by simp [first])
  | parenthesized query =>
      simp only [zeroless_parenthesized] at zeroless
      exact (plain.query query zeroless).bind fun _ first => .pure (by simp [first])
  | combination left operator right =>
      simp only [zeroless_combination] at zeroless
      exact (plain.body left (by simp [zeroless])).bind fun _ first =>
        (plain.body right (by simp [zeroless])).bind fun _ second =>
          .pure (by simp [zeroless, first, second])
  | values explicitRow rows =>
      simp only [zeroless_values] at zeroless
      exact (plain.rows rows zeroless).bind fun _ first => .pure (by simp [first])
  | table name =>
      exact .pure zeroless
  | change parts =>
      simp only [zeroless_change] at zeroless
      exact (plain.parts parts zeroless).bind fun _ first => .pure (by simp [first])
termination_by structural body

theorem rows (plain : Sweep.Plain sweep) (rows : List (List Expr)) (zeroless : Zeroless rows) :
    Ensures Zeroless (QueryBody.sweepRows sweep rows) := by
  cases rows with
  | nil =>
      exact .pure zeroless
  | cons row rest =>
      simp only [zeroless_cons] at zeroless
      exact (plain.exprs row zeroless.1).bind fun _ first =>
        (plain.rows rest zeroless.2).bind fun _ others => .pure (by simp [first, others])
termination_by structural rows

theorem select (plain : Sweep.Plain sweep) (select : Select) (zeroless : Zeroless select) :
    Ensures Zeroless (select.sweep sweep) := by
  cases select with
  | mk lead projection target relations views condition groups grouping having tail =>
      simp only [zeroless_select] at zeroless
      exact (plain.parts lead (by simp [zeroless])).bind fun _ leading =>
        (plain.items projection (by simp [zeroless])).bind fun _ projected =>
          (plain.tablesAll relations (by simp [zeroless])).bind fun _ related =>
            (plain.parts views (by simp [zeroless])).bind fun _ viewed =>
              (plain.option condition (by simp [zeroless])).bind fun _ conditioned =>
                (plain.exprs groups (by simp [zeroless])).bind fun _ grouped =>
                  (plain.parts grouping (by simp [zeroless])).bind fun _ gathered =>
                    (plain.option having (by simp [zeroless])).bind fun _ had =>
                      (plain.parts tail (by simp [zeroless])).bind fun _ trailing =>
                        .pure (by
                          simp [zeroless, leading, projected, related, viewed, conditioned,
                            grouped, gathered, had, trailing])
termination_by structural select

theorem items (plain : Sweep.Plain sweep) (items : List SelectItem) (zeroless : Zeroless items) :
    Ensures Zeroless (SelectItem.sweepAll sweep items) := by
  cases items with
  | nil =>
      exact .pure zeroless
  | cons item rest =>
      simp only [zeroless_cons] at zeroless
      cases item with
      | expr shown =>
          simp only [zeroless_item] at zeroless
          exact (plain.expr shown zeroless.1).bind fun _ first =>
            (plain.items rest zeroless.2).bind fun _ others => .pure (by simp [first, others])
      | aliased shown aliasName =>
          simp only [zeroless_aliased] at zeroless
          exact (plain.expr shown (by simp [zeroless])).bind fun _ first =>
            (plain.items rest zeroless.2).bind fun _ others =>
              .pure (by simp [zeroless, first, others])
      | wildcard qualifier =>
          exact (plain.items rest zeroless.2).bind fun _ others =>
            .pure (zeroless_cons.mpr ⟨zeroless.1, others⟩)
termination_by structural items

theorem tables (plain : Sweep.Plain sweep) (tables : TableWithJoins)
    (zeroless : Zeroless tables) : Ensures Zeroless (tables.sweep sweep) := by
  cases tables with
  | mk relation joins =>
      simp only [zeroless_joined] at zeroless
      exact (plain.factor relation zeroless.1).bind fun _ first =>
        (plain.joins joins zeroless.2).bind fun _ second => .pure (by simp [first, second])
termination_by structural tables

theorem tablesAll (plain : Sweep.Plain sweep) (relations : List TableWithJoins)
    (zeroless : Zeroless relations) :
    Ensures Zeroless (TableWithJoins.sweepAll sweep relations) := by
  cases relations with
  | nil =>
      exact .pure zeroless
  | cons tables rest =>
      simp only [zeroless_cons] at zeroless
      exact (plain.tables tables zeroless.1).bind fun _ first =>
        (plain.tablesAll rest zeroless.2).bind fun _ others => .pure (by simp [first, others])
termination_by structural relations

theorem joins (plain : Sweep.Plain sweep) (joins : List Join) (zeroless : Zeroless joins) :
    Ensures Zeroless (Join.sweepAll sweep joins) := by
  cases joins with
  | nil =>
      exact .pure zeroless
  | cons join rest =>
      cases join with
      | mk words relation matching constraint =>
          simp only [zeroless_cons, zeroless_joining] at zeroless
          exact (plain.factor relation (by simp [zeroless])).bind fun _ first =>
            (plain.parts matching (by simp [zeroless])).bind fun _ second =>
              (plain.constraint constraint (by simp [zeroless])).bind fun _ third =>
                (plain.joins rest zeroless.2).bind fun _ others =>
                  .pure (by simp [zeroless, first, second, third, others])
termination_by structural joins

theorem constraint (plain : Sweep.Plain sweep) (constraint : JoinConstraint)
    (zeroless : Zeroless constraint) : Ensures Zeroless (constraint.sweep sweep) := by
  cases constraint with
  | none =>
      exact .pure zeroless
  | on condition =>
      simp only [zeroless_on] at zeroless
      exact (plain.expr condition zeroless).bind fun _ first => .pure (by simp [first])
  | sharing columns =>
      exact .pure zeroless
  | natural =>
      exact .pure zeroless
termination_by structural constraint

theorem factor (plain : Sweep.Plain sweep) (factor : TableFactor) (zeroless : Zeroless factor) :
    Ensures Zeroless (factor.sweep sweep) := by
  cases factor with
  | table name arguments aliasName tail =>
      simp only [zeroless_table] at zeroless
      exact .after fun _ =>
        (plain.parts arguments (by simp [zeroless])).bind fun _ first =>
          (plain.parts tail (by simp [zeroless])).bind fun _ second =>
            .pure (by simp [zeroless, first, second])
  | derived isLateral query aliasName =>
      simp only [zeroless_derived] at zeroless
      exact (plain.query query (by simp [zeroless])).bind fun _ first =>
        .pure (by simp [zeroless, first])
  | nestedJoin inner aliasName =>
      simp only [zeroless_nestedJoin] at zeroless
      exact (plain.tables inner (by simp [zeroless])).bind fun _ first =>
        .pure (by simp [zeroless, first])
  | function parts aliasName tail =>
      simp only [zeroless_function] at zeroless
      exact (plain.parts parts (by simp [zeroless])).bind fun _ first =>
        .pure (by simp [zeroless, first])
termination_by structural factor

end

end Sweep.Plain

/-! ## Walks -/

/-- A visitor that puts nothing with a zero in the place of what has none. -/
structure Visitor.Plain (visitor : Visitor σ) : Prop where
  insert : ∀ {insert}, Zeroless insert → Ensures Zeroless (visitor.insert insert)
  update : ∀ {update}, Zeroless update → Ensures Zeroless (visitor.update update)
  membership : ∀ {operand items context}, Zeroless operand → Zeroless items →
    Ensures Zeroless (visitor.membership operand items context)
  operation : ∀ {left operator right context}, Zeroless (Expr.binary left operator right) →
    Ensures Zeroless (visitor.operation left operator right context)
  column : ∀ {expr column context}, Zeroless expr →
    Ensures Zeroless (visitor.column expr column context)

/-- What has been entered holds no zero, nor will the rest of the walk bring one. -/
def PlainEntry [Textual α] (result : α × Walk σ α) : Prop :=
  Zeroless result.1 ∧ Ensures Zeroless result.2

namespace Visitor.Plain

variable {visitor : Visitor σ}

theorem reference (plain : visitor.Plain) (context : Context) {expr : Expr}
    (zeroless : Zeroless expr) : Ensures Zeroless (visitor.reference context expr) :=
  .after fun column => match column with
    | none => .pure zeroless
    | some _ => plain.column zeroless

theorem sweep (plain : visitor.Plain) (context : Context) (relation : Name → Walk σ Unit) :
    Sweep.Plain ⟨visitor.reference context, relation⟩ :=
  ⟨plain.reference context⟩

mutual

theorem expr (plain : visitor.Plain) (context : Context) (expr : Expr)
    (zeroless : Zeroless expr) : Ensures Zeroless (walkExpr visitor context expr) := by
  cases expr with
  | identifier ident =>
      exact plain.reference context zeroless
  | compound parts =>
      exact plain.reference context zeroless
  | value constant =>
      exact .pure zeroless
  | binary left operator right =>
      refine (plain.operation zeroless).bind fun replacement replaced => ?_
      simp only [zeroless_binary] at zeroless
      cases replacement with
      | some replacement =>
          exact .pure (by simpa using replaced)
      | none =>
          exact (plain.expr context left (by simp [zeroless])).bind fun _ first =>
            (plain.expr context right (by simp [zeroless])).bind fun _ second =>
              .pure (by simp [zeroless, first, second])
  | unary operator operand =>
      simp only [zeroless_unary] at zeroless
      exact (plain.expr context operand (by simp [zeroless])).bind fun _ first =>
        .pure (by simp [zeroless, first])
  | nested inner =>
      simp only [zeroless_nested] at zeroless
      exact (plain.expr context inner zeroless).bind fun _ first => .pure (by simp [first])
  | nullTest operand negated =>
      simp only [zeroless_nullTest] at zeroless
      exact (plain.expr context operand zeroless).bind fun _ first => .pure (by simp [first])
  | inList operand negated items =>
      simp only [zeroless_inList] at zeroless
      refine (plain.membership zeroless.1 zeroless.2).bind fun replacement replaced => ?_
      cases replacement with
      | some replacement =>
          simp only [zeroless_some] at replaced
          exact .pure (by simp [replaced.1, replaced.2])
      | none =>
          exact (plain.expr context operand zeroless.1).bind fun _ first =>
            (plain.exprs context items zeroless.2).bind fun _ second =>
              .pure (by simp [first, second])
  | inQuery operand negated body =>
      simp only [zeroless_inQuery] at zeroless
      exact (plain.expr context operand zeroless.1).bind fun _ first =>
        (Ensures.inFrame (plain.body false body zeroless.2)).bind fun _ second =>
          .pure (by simp [first, second])
  | between operand negated low high =>
      simp only [zeroless_between] at zeroless
      exact (plain.expr context operand (by simp [zeroless])).bind fun _ first =>
        (plain.expr context low (by simp [zeroless])).bind fun _ second =>
          (plain.expr context high (by simp [zeroless])).bind fun _ third =>
            .pure (by simp [first, second, third])
  | like operand negated word pattern escape =>
      simp only [zeroless_like] at zeroless
      exact (plain.expr context operand (by simp [zeroless])).bind fun _ first =>
        (plain.expr context pattern (by simp [zeroless])).bind fun _ second =>
          .pure (by simp [zeroless, first, second])
  | array named elements =>
      simp only [zeroless_array] at zeroless
      exact (plain.exprs context elements zeroless).bind fun _ first => .pure (by simp [first])
  | subquery query =>
      simp only [zeroless_subquery] at zeroless
      exact (plain.query false query zeroless).bind fun _ first => .pure (by simp [first])
  | existence negated query =>
      simp only [zeroless_existence] at zeroless
      exact (plain.query false query zeroless).bind fun _ first => .pure (by simp [first])
  | call name opening late closing =>
      exact (plain.sweep context _).expr _ zeroless
  | form parts =>
      exact (plain.sweep context _).expr _ zeroless
termination_by structural expr

theorem exprs (plain : visitor.Plain) (context : Context) (exprs : List Expr)
    (zeroless : Zeroless exprs) : Ensures Zeroless (walkExprs visitor context exprs) := by
  cases exprs with
  | nil =>
      exact .pure zeroless
  | cons expr rest =>
      simp only [zeroless_cons] at zeroless
      exact (plain.expr context expr zeroless.1).bind fun _ first =>
        (plain.exprs context rest zeroless.2).bind fun _ others =>
          .pure (by simp [first, others])
termination_by structural exprs

theorem option (plain : visitor.Plain) (context : Context) (expr : Option Expr)
    (zeroless : Zeroless expr) : Ensures Zeroless (walkOption visitor context expr) := by
  cases expr with
  | none =>
      exact .pure zeroless
  | some expr =>
      simp only [zeroless_some] at zeroless
      exact (plain.expr context expr zeroless).bind fun _ first => .pure (by simp [first])
termination_by structural expr

theorem query (plain : visitor.Plain) (returnsRows : Bool) (query : Query)
    (zeroless : Zeroless query) : Ensures Zeroless (walkQuery visitor returnsRows query) := by
  cases query with
  | mk recursive ctes body order tail =>
      simp only [zeroless_query] at zeroless
      exact (plain.ctes ctes (by simp [zeroless])).bind fun _ first =>
        .inFrame ((plain.body returnsRows body (by simp [zeroless])).bind fun _ second =>
          (plain.order order (by simp [zeroless])).bind fun _ third =>
            .pure (by simp [zeroless, first, second, third]))
termination_by structural query

theorem ctes (plain : visitor.Plain) (ctes : List Cte) (zeroless : Zeroless ctes) :
    Ensures Zeroless (walkCtes visitor ctes) := by
  cases ctes with
  | nil =>
      exact .pure zeroless
  | cons cte rest =>
      cases cte with
      | mk aliasName materialized query origin =>
          simp only [zeroless_cons, zeroless_cte] at zeroless
          exact (plain.query false query (by simp [zeroless])).bind fun _ first =>
            (plain.ctes rest zeroless.2).bind fun _ others =>
              .pure (by simp [zeroless, first, others])
termination_by structural ctes

theorem order (plain : visitor.Plain) (items : List OrderItem) (zeroless : Zeroless items) :
    Ensures Zeroless (walkOrder visitor items) := by
  cases items with
  | nil =>
      exact .pure zeroless
  | cons item rest =>
      cases item with
      | mk expr direction =>
          simp only [zeroless_cons, zeroless_orderItem] at zeroless
          exact (plain.expr .ofOrderBy expr (by simp [zeroless])).bind fun _ first =>
            (plain.order rest zeroless.2).bind fun _ others =>
              .pure (by simp [zeroless, first, others])
termination_by structural items

theorem body (plain : visitor.Plain) (returnsRows : Bool) (body : QueryBody)
    (zeroless : Zeroless body) : Ensures Zeroless (walkBody visitor returnsRows body) := by
  cases body with
  | select select =>
      simp only [zeroless_selection] at zeroless
      exact (plain.select select zeroless).bind fun _ first => .pure (by simp [first])
  | parenthesized query =>
      simp only [zeroless_parenthesized] at zeroless
      exact (plain.query returnsRows query zeroless).bind fun _ first => .pure (by simp [first])
  | combination left operator right =>
      exact .throw _
  | values explicitRow rows =>
      simp only [zeroless_values] at zeroless
      exact (plain.rows rows zeroless).bind fun _ first => .pure (by simp [first])
  | table name =>
      exact .throw _
  | change parts =>
      exact .throw _
termination_by structural body

theorem rows (plain : visitor.Plain) (rows : List (List Expr)) (zeroless : Zeroless rows) :
    Ensures Zeroless (walkRows visitor rows) := by
  cases rows with
  | nil =>
      exact .pure zeroless
  | cons row rest =>
      simp only [zeroless_cons] at zeroless
      exact (plain.exprs .plain row zeroless.1).bind fun _ first =>
        (plain.rows rest zeroless.2).bind fun _ others => .pure (by simp [first, others])
termination_by structural rows

theorem select (plain : visitor.Plain) (select : Select) (zeroless : Zeroless select) :
    Ensures Zeroless (walkSelect visitor select) := by
  cases select with
  | mk lead projection target relations views condition groups grouping having tail =>
      simp only [zeroless_select] at zeroless
      exact (plain.enterAll relations (by simp [zeroless])).bind fun _ entered =>
        .after fun scope =>
          (plain.projection scope.returnsRows projection (by simp [zeroless])).bind
            fun _ projected =>
              entered.2.bind fun _ related =>
                (plain.option .plain condition (by simp [zeroless])).bind fun _ conditioned =>
                  (plain.exprs .ofGroupBy groups (by simp [zeroless])).bind fun _ grouped =>
                    (plain.option .ofGroupBy having (by simp [zeroless])).bind fun _ had =>
                      .pure (by
                        simp [zeroless, projected, related, conditioned, grouped, had])
termination_by structural select

theorem projection (plain : visitor.Plain) (returnsRows : Bool) (items : List SelectItem)
    (zeroless : Zeroless items) :
    Ensures Zeroless (walkProjection visitor returnsRows items) := by
  cases items with
  | nil =>
      exact .pure zeroless
  | cons item rest =>
      simp only [zeroless_cons] at zeroless
      cases item with
      | expr shown =>
          simp only [zeroless_item] at zeroless
          have walked : Ensures Zeroless (do
              let expr ← walkExpr visitor { selectBody := returnsRows } shown
              return SelectItem.expr expr :: (← walkProjection visitor returnsRows rest)) :=
            (plain.expr _ shown zeroless.1).bind fun _ first =>
              (plain.projection returnsRows rest zeroless.2).bind fun _ others =>
                .pure (by simp [first, others])
          simp only [walkProjection]
          split
          · exact .after fun _ => walked
          · exact walked
      | aliased shown aliasName =>
          simp only [zeroless_aliased] at zeroless
          have walked : Ensures Zeroless (do
              let expr ← walkExpr visitor { selectBody := returnsRows } shown
              return SelectItem.aliased expr aliasName ::
                (← walkProjection visitor returnsRows rest)) :=
            (plain.expr _ shown (by simp [zeroless])).bind fun _ first =>
              (plain.projection returnsRows rest zeroless.2).bind fun _ others =>
                .pure (by simp [zeroless, first, others])
          simp only [walkProjection]
          split
          · exact .after fun _ => walked
          · exact walked
      | wildcard qualifier =>
          exact .after fun _ => (plain.projection returnsRows rest zeroless.2).bind
            fun _ others => .pure (zeroless_cons.mpr ⟨zeroless.1, others⟩)
termination_by structural items

theorem enter (plain : visitor.Plain) (tables : TableWithJoins) (zeroless : Zeroless tables) :
    Ensures PlainEntry (ColumnVeil.enter visitor tables) := by
  cases tables with
  | mk relation joins =>
      simp only [zeroless_joined] at zeroless
      exact (plain.enterFactor relation zeroless.1).bind fun _ first =>
        (plain.enterJoins joins zeroless.2).bind fun _ second =>
          .pure ⟨by simp [first.1, second.1], first.2.bind fun _ relation =>
            second.2.bind fun _ joins => .pure (by simp [relation, joins])⟩
termination_by structural tables

theorem enterAll (plain : visitor.Plain) (relations : List TableWithJoins)
    (zeroless : Zeroless relations) :
    Ensures PlainEntry (ColumnVeil.enterAll visitor relations) := by
  cases relations with
  | nil =>
      exact .pure ⟨zeroless, .pure zeroless⟩
  | cons tables rest =>
      simp only [zeroless_cons] at zeroless
      exact (plain.enter tables zeroless.1).bind fun _ first =>
        (plain.enterAll rest zeroless.2).bind fun _ others =>
          .pure ⟨by simp [first.1, others.1], first.2.bind fun _ tables =>
            others.2.bind fun _ rest => .pure (by simp [tables, rest])⟩
termination_by structural relations

theorem enterJoins (plain : visitor.Plain) (joins : List Join) (zeroless : Zeroless joins) :
    Ensures PlainEntry (ColumnVeil.enterJoins visitor joins) := by
  cases joins with
  | nil =>
      exact .pure ⟨zeroless, .pure zeroless⟩
  | cons join rest =>
      cases join with
      | mk words relation matching constraint =>
          simp only [zeroless_cons, zeroless_joining] at zeroless
          exact (plain.enterFactor relation (by simp [zeroless])).bind fun _ first =>
            (plain.enterJoins rest zeroless.2).bind fun _ others =>
              .pure ⟨by simp [zeroless, first.1, others.1], first.2.bind fun _ relation =>
                (plain.constraint constraint (by simp [zeroless])).bind fun _ constraint =>
                  others.2.bind fun _ rest =>
                    .pure (by simp [zeroless, relation, constraint, rest])⟩
termination_by structural joins

theorem enterFactor (plain : visitor.Plain) (factor : TableFactor) (zeroless : Zeroless factor) :
    Ensures PlainEntry (ColumnVeil.enterFactor visitor factor) := by
  cases factor with
  | table name arguments aliasName tail =>
      simp only [ColumnVeil.enterFactor]
      split
      · exact .after fun _ => .pure ⟨zeroless, .pure zeroless⟩
      · exact .pure ⟨zeroless, .pure zeroless⟩
  | derived isLateral query aliasName =>
      simp only [zeroless_derived] at zeroless
      refine (plain.query false query (by simp [zeroless])).bind fun query first => ?_
      have derived : Zeroless (TableFactor.derived isLateral query aliasName) := by
        simp [zeroless, first]
      exact .after fun _ => .pure ⟨derived, .pure derived⟩
  | nestedJoin inner aliasName =>
      simp only [zeroless_nestedJoin] at zeroless
      exact (plain.enter inner zeroless.1).bind fun _ first =>
        .after fun _ => .pure ⟨by simp [zeroless, first.1], first.2.bind fun _ inner =>
          .pure (by simp [zeroless, inner])⟩
  | function parts aliasName tail =>
      exact .after fun _ => .after fun _ => .pure ⟨zeroless, .pure zeroless⟩
termination_by structural factor

theorem constraint (plain : visitor.Plain) (constraint : JoinConstraint)
    (zeroless : Zeroless constraint) : Ensures Zeroless (walkConstraint visitor constraint) := by
  cases constraint with
  | none =>
      exact .pure zeroless
  | on condition =>
      simp only [zeroless_on] at zeroless
      exact (plain.expr .ofJoin condition zeroless).bind fun _ first => .pure (by simp [first])
  | sharing columns =>
      exact .after fun _ => .pure zeroless
  | natural =>
      exact .after fun _ => .pure zeroless
termination_by structural constraint

end

/-! ## Statements -/

theorem assignments (plain : visitor.Plain) {assignments : List Assignment}
    (zeroless : Zeroless assignments) :
    Ensures Zeroless (walkAssignments visitor assignments) :=
  .mapM fun assignment member =>
    (plain.expr .plain assignment.value (zeroless assignment member).2).bind fun _ value =>
      .pure ⟨(zeroless assignment member).1, value⟩

theorem returning (plain : visitor.Plain) {items : Option (List SelectItem)}
    (zeroless : Zeroless items) : Ensures Zeroless (walkReturning visitor items) := by
  cases items with
  | none =>
      exact .pure zeroless
  | some items =>
      simp only [zeroless_some] at zeroless
      exact .after fun scope => (plain.projection scope.returnsRows items zeroless).bind
        fun _ shown => .pure (zeroless_some.mpr shown)

theorem source (plain : visitor.Plain) {source : Option Query} (zeroless : Zeroless source) :
    Ensures Zeroless (walkSource visitor source) := by
  unfold walkSource
  split
  · exact .pure zeroless
  · simp only [zeroless_some, zeroless_query, zeroless_values] at zeroless
    exact (plain.rows _ (by simp [zeroless])).bind fun _ rows => .pure (by simp [zeroless, rows])
  · simp only [zeroless_some] at zeroless
    exact (plain.query false _ zeroless).bind fun _ query => .pure (zeroless_some.mpr query)

theorem conflict (plain : visitor.Plain) (reference table : Option String) {rule : ConflictRule}
    (zeroless : Zeroless rule) :
    Ensures Zeroless (walkConflict visitor reference table rule) := by
  cases rule with
  | none =>
      exact .pure zeroless
  | words text =>
      exact .pure zeroless
  | assign words assignments condition =>
      simp only [zeroless_ruleAssign] at zeroless
      have walked : Ensures Zeroless (do
          let assignments ← walkAssignments visitor assignments
          let condition ← walkOption visitor .plain condition
          return ConflictRule.assign words assignments condition) :=
        (plain.assignments zeroless.2.1).bind fun _ assigned =>
          (plain.option .plain condition zeroless.2.2).bind fun _ conditioned =>
            .pure (by simp [zeroless, assigned, conditioned])
      refine .inFrame ?_
      cases table with
      | none =>
          exact .inFrame walked
      | some table =>
          refine .after fun _ => .inFrame ?_
          cases reference with
          | none => exact walked
          | some reference => exact .after fun _ => walked

theorem insertion (plain : visitor.Plain) {insert : Insert} (zeroless : Zeroless insert) :
    Ensures Zeroless (walkInsert visitor insert) := by
  refine (plain.insert zeroless).bind fun insert visited => ?_
  obtain ⟨words, table, aliasName, columns, partition, source, conflict, returning⟩ := visited
  have walked : Ensures Zeroless (do
      let source ← walkSource visitor insert.source
      let returning ← walkReturning visitor insert.returning
      return { insert with source, returning }) :=
    (plain.source source).bind fun _ source => (plain.returning returning).bind
      fun _ returning =>
        .pure ⟨words, table, aliasName, columns, partition, source, conflict, returning⟩
  refine Ensures.bind (.inFrame ?_ : Ensures Zeroless _) fun insert visited => ?_
  · split
    · split
      · exact .after fun _ => walked
      · exact walked
    · exact walked
  · obtain ⟨words, table, aliasName, columns, partition, source, conflict, returning⟩ := visited
    exact (plain.conflict _ _ conflict).bind fun _ conflict =>
      .pure ⟨words, table, aliasName, columns, partition, source, conflict, returning⟩

theorem alteration (plain : visitor.Plain) {update : Update} (zeroless : Zeroless update) :
    Ensures Zeroless (walkUpdate visitor update) := by
  refine (plain.update zeroless).bind fun update visited => .inFrame ?_
  obtain ⟨words, table, assignments, relations, condition, returning⟩ := visited
  have walked (tables : TableWithJoins) (others : Option (Bool × List TableWithJoins))
      (entered : Zeroless tables) (related : Zeroless others) : Ensures Zeroless (do
        let assignments ← walkAssignments visitor update.assignments
        let condition ← walkOption visitor .plain update.condition
        let returning ← walkReturning visitor update.returning
        return { update with
          table := tables, relations := others, assignments, condition, returning }) :=
    (plain.assignments assignments).bind fun _ assigned =>
      (plain.option .plain _ condition).bind fun _ conditioned =>
        (plain.returning returning).bind fun _ returned =>
          .pure ⟨words, entered, assigned, related, conditioned, returned⟩
  refine (plain.enter update.table table).bind fun first entered => ?_
  cases stated : update.relations with
  | none =>
      simp only [pure_bind]
      exact entered.2.bind fun table known => walked table none known zeroless_none
  | some further =>
      obtain ⟨early, further⟩ := further
      simp only [stated, zeroless_some, zeroless_pair] at relations
      simp only [pure_bind]
      exact (plain.enterAll further relations.2).bind fun second others =>
        entered.2.bind fun table known => others.2.bind fun further related =>
          walked table (some (early, further)) known (by simp [related])

theorem deletion (plain : visitor.Plain) {delete : Delete} (zeroless : Zeroless delete) :
    Ensures Zeroless (walkDelete visitor delete) := by
  obtain ⟨words, relations, further, condition, returning, tail⟩ := zeroless
  refine .inFrame ?_
  refine (plain.enterAll _ relations).bind fun first entered => ?_
  have walked (others : Option (List TableWithJoins)) (related : Zeroless others) :
      Ensures Zeroless (do
        let condition ← walkOption visitor .plain delete.condition
        let returning ← walkReturning visitor delete.returning
        return { delete with relations := first.1, further := others, condition, returning }) :=
    (plain.option .plain _ condition).bind fun _ conditioned =>
      (plain.returning returning).bind fun _ returned =>
        .pure ⟨words, entered.1, related, conditioned, returned, tail⟩
  cases stated : delete.further with
  | none =>
      simp only [pure_bind]
      exact walked none zeroless_none
  | some others =>
      simp only [stated, zeroless_some] at further
      simp only [pure_bind]
      exact (plain.enterAll others further).bind fun second known =>
        walked (some second.1) (zeroless_some.mpr known.1)

theorem statement (plain : visitor.Plain) (statement : Statement) (zeroless : Zeroless statement) :
    Ensures Zeroless (walkStatement visitor statement) := by
  induction statement with
  | query query =>
      simp only [zeroless_queryStatement] at zeroless
      exact (plain.query true query zeroless).bind fun _ first => .pure (by simp [first])
  | insert insert =>
      simp only [zeroless_insert] at zeroless
      exact (plain.insertion zeroless).bind fun _ first => .pure (by simp [first])
  | update update =>
      simp only [zeroless_update] at zeroless
      exact (plain.alteration zeroless).bind fun _ first => .pure (by simp [first])
  | delete delete =>
      simp only [zeroless_delete] at zeroless
      exact (plain.deletion zeroless).bind fun _ first => .pure (by simp [first])
  | explain words statement inductionHypothesis =>
      simp only [zeroless_explain] at zeroless
      exact (inductionHypothesis zeroless.2).bind fun _ first =>
        .pure (by simp [zeroless, first])
  | definition parts =>
      exact .throw _
  | utility parts =>
      exact .inFrame (.after fun _ => .after fun _ => .pure zeroless)

theorem statementsFrom (plain : visitor.Plain) {statements : List Statement}
    (zeroless : Zeroless statements) :
    Ensures Zeroless (walkStatementsFrom visitor statements) := by
  induction statements with
  | nil =>
      exact .pure zeroless
  | cons statement rest inductionHypothesis =>
      simp only [zeroless_cons] at zeroless
      exact .after fun _ => (plain.statement statement zeroless.1).bind fun _ first =>
        (inductionHypothesis zeroless.2).bind fun _ others => .pure (by simp [first, others])

/-- A walk through statements without a zero gives statements without one. -/
theorem statements (plain : visitor.Plain) {statements : List Statement}
    (zeroless : Zeroless statements) : Ensures Zeroless (walkStatements visitor statements) :=
  .after fun _ => plain.statementsFrom zeroless

end Visitor.Plain

end ColumnVeil
