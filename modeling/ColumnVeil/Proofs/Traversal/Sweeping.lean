import ColumnVeil.Proofs.Traversal.Run
import ColumnVeil.Traversal.Sweep

/-!
# What a sweep does

Whatever can be said about walks, and holds of a sequence if it holds of its parts, holds of a
loop if it holds of each round, and of a sweep if it holds at each reference and at each name.
Such a kind of statement is a `Walk.Logic`; the induction over the syntax is made here once for
all of them.
-/

namespace ColumnVeil

open Sql

variable {σ α β : Type}

/-- A kind of statement about walks, with what is known of their values, that carries over to
sequences.  Of a failure nothing is said. -/
structure Walk.Logic (σ : Type) where
  holds : {α : Type} → (α → Prop) → Walk σ α → Prop
  pure {α : Type} {ensured : α → Prop} {value : α} :
    ensured value → holds ensured (Pure.pure value)
  bind {α β : Type} {ensured : α → Prop} {concluded : β → Prop} {walk : Walk σ α}
    {next : α → Walk σ β} :
    holds ensured walk → (∀ value, ensured value → holds concluded (next value)) →
      holds concluded (walk >>= next)
  throw {α : Type} {ensured : α → Prop} (failure : Failure) :
    holds ensured (MonadExcept.throw failure)

namespace Walk.Logic

variable (logic : Walk.Logic σ)

/-- A walk that may be refused before it begins. -/
theorem refuseIf (condition : Prop) [Decidable condition] (failure : Failure)
    {ensured : α → Prop} {next : Walk σ α} (later : logic.holds ensured next) :
    logic.holds ensured (do
      if condition then MonadExcept.throw failure
      next) := by
  split
  · have refused : logic.holds (fun _ => True) (MonadExcept.throw failure : Walk σ PUnit) :=
      logic.throw failure
    exact logic.bind refused fun _ _ => later
  · exact later

theorem mapM {step : α → Walk σ β} (each : ∀ item, logic.holds (fun _ => True) (step item))
    (items : List α) : logic.holds (fun _ => True) (items.mapM step) := by
  induction items with
  | nil =>
      rw [List.mapM_nil]
      exact logic.pure trivial
  | cons item rest inductionHypothesis =>
      rw [List.mapM_cons]
      exact logic.bind (each item) fun _ _ => logic.bind inductionHypothesis fun _ _ =>
        logic.pure trivial

theorem foldlM {step : β → α → Walk σ β}
    (each : ∀ value item, logic.holds (fun _ => True) (step value item)) (start : β)
    (items : List α) : logic.holds (fun _ => True) (items.foldlM step start) := by
  induction items generalizing start with
  | nil =>
      exact logic.pure trivial
  | cons item rest inductionHypothesis =>
      rw [List.foldlM_cons]
      exact logic.bind (each start item) fun value _ => inductionHypothesis value

end Walk.Logic

/-- The result is the item itself, under a condition. -/
def Unaltered {α : Type} (idle : Prop) (item result : α) : Prop :=
  idle → result = item

/-- What is said holds at every reference and at every name that a sweep comes to. -/
structure Sweep.Obeys (logic : Walk.Logic σ) (idle : Prop) (sweep : Sweep (Walk σ)) : Prop where
  column : ∀ expr, expr.isColumn = true → logic.holds (Unaltered idle expr) (sweep.column expr)
  relation : ∀ name, logic.holds (fun _ => True) (sweep.relation name)

namespace Sweep.Obeys

variable {logic : Walk.Logic σ} {idle : Prop} {sweep : Sweep (Walk σ)}

mutual

theorem expr (obeys : Sweep.Obeys logic idle sweep) (expr : Expr) :
    logic.holds (Unaltered idle expr) (expr.sweep sweep) := by
  cases expr with
  | identifier ident =>
      exact obeys.column _ rfl
  | compound parts =>
      exact obeys.column _ rfl
  | value constant =>
      exact logic.pure fun _ => rfl
  | binary left operator right =>
      exact logic.bind (obeys.expr left) fun _ first =>
        logic.bind (obeys.expr right) fun _ second =>
          logic.pure fun still => by rw [first still, second still]
  | unary operator operand =>
      exact logic.bind (obeys.expr operand) fun _ first =>
        logic.pure fun still => by rw [first still]
  | nested inner =>
      exact logic.bind (obeys.expr inner) fun _ first =>
        logic.pure fun still => by rw [first still]
  | nullTest operand negated =>
      exact logic.bind (obeys.expr operand) fun _ first =>
        logic.pure fun still => by rw [first still]
  | inList operand negated items =>
      exact logic.bind (obeys.expr operand) fun _ first =>
        logic.bind (obeys.exprs items) fun _ second =>
          logic.pure fun still => by rw [first still, second still]
  | inQuery operand negated body =>
      exact logic.bind (obeys.expr operand) fun _ first =>
        logic.bind (obeys.body body) fun _ second =>
          logic.pure fun still => by rw [first still, second still]
  | between operand negated low high =>
      exact logic.bind (obeys.expr operand) fun _ first =>
        logic.bind (obeys.expr low) fun _ second =>
          logic.bind (obeys.expr high) fun _ third =>
            logic.pure fun still => by rw [first still, second still, third still]
  | like operand negated word pattern escape =>
      exact logic.bind (obeys.expr operand) fun _ first =>
        logic.bind (obeys.expr pattern) fun _ second =>
          logic.pure fun still => by rw [first still, second still]
  | array named elements =>
      exact logic.bind (obeys.exprs elements) fun _ first =>
        logic.pure fun still => by rw [first still]
  | subquery query =>
      exact logic.bind (obeys.query query) fun _ first =>
        logic.pure fun still => by rw [first still]
  | existence negated query =>
      exact logic.bind (obeys.query query) fun _ first =>
        logic.pure fun still => by rw [first still]
  | call name opening late closing =>
      exact logic.bind (obeys.parts opening) fun _ first =>
        logic.bind (obeys.parts closing) fun _ second =>
          logic.bind (obeys.parts late) fun _ third =>
            logic.pure fun still => by rw [first still, second still, third still]
  | form parts =>
      exact logic.bind (obeys.parts parts) fun _ first =>
        logic.pure fun still => by rw [first still]
termination_by structural expr

theorem exprs (obeys : Sweep.Obeys logic idle sweep) (exprs : List Expr) :
    logic.holds (Unaltered idle exprs) (Expr.sweepAll sweep exprs) := by
  cases exprs with
  | nil =>
      exact logic.pure fun _ => rfl
  | cons expr rest =>
      exact logic.bind (obeys.expr expr) fun _ first =>
        logic.bind (obeys.exprs rest) fun _ others =>
          logic.pure fun still => by rw [first still, others still]
termination_by structural exprs

theorem option (obeys : Sweep.Obeys logic idle sweep) (expr : Option Expr) :
    logic.holds (Unaltered idle expr) (Expr.sweepOption sweep expr) := by
  cases expr with
  | none =>
      exact logic.pure fun _ => rfl
  | some expr =>
      exact logic.bind (obeys.expr expr) fun _ first =>
        logic.pure fun still => by rw [first still]
termination_by structural expr

theorem part (obeys : Sweep.Obeys logic idle sweep) (part : Part) :
    logic.holds (Unaltered idle part) (part.sweep sweep) := by
  cases part with
  | words text =>
      exact logic.pure fun _ => rfl
  | expr expr =>
      exact logic.bind (obeys.expr expr) fun _ first =>
        logic.pure fun still => by rw [first still]
  | query query =>
      exact logic.bind (obeys.query query) fun _ first =>
        logic.pure fun still => by rw [first still]
  | tables tables =>
      exact logic.bind (obeys.tables tables) fun _ first =>
        logic.pure fun still => by rw [first still]
  | relation name =>
      exact logic.bind (obeys.relation name) fun _ _ => logic.pure fun _ => rfl
termination_by structural part

theorem parts (obeys : Sweep.Obeys logic idle sweep) (parts : List Part) :
    logic.holds (Unaltered idle parts) (Part.sweepAll sweep parts) := by
  cases parts with
  | nil =>
      exact logic.pure fun _ => rfl
  | cons part rest =>
      exact logic.bind (obeys.part part) fun _ first =>
        logic.bind (obeys.parts rest) fun _ others =>
          logic.pure fun still => by rw [first still, others still]
termination_by structural parts

theorem query (obeys : Sweep.Obeys logic idle sweep) (query : Query) :
    logic.holds (Unaltered idle query) (query.sweep sweep) := by
  cases query with
  | mk recursive ctes body order tail =>
      exact logic.bind (obeys.ctes ctes) fun _ first =>
        logic.bind (obeys.body body) fun _ second =>
          logic.bind (obeys.order order) fun _ third =>
            logic.bind (obeys.parts tail) fun _ fourth =>
              logic.pure fun still => by
                rw [first still, second still, third still, fourth still]
termination_by structural query

theorem ctes (obeys : Sweep.Obeys logic idle sweep) (ctes : List Cte) :
    logic.holds (Unaltered idle ctes) (Cte.sweepAll sweep ctes) := by
  cases ctes with
  | nil =>
      exact logic.pure fun _ => rfl
  | cons cte rest =>
      cases cte with
      | mk aliasName materialized query origin =>
          exact logic.bind (obeys.query query) fun _ first =>
            logic.bind (obeys.ctes rest) fun _ others =>
              logic.pure fun still => by rw [first still, others still]
termination_by structural ctes

theorem order (obeys : Sweep.Obeys logic idle sweep) (items : List OrderItem) :
    logic.holds (Unaltered idle items) (OrderItem.sweepAll sweep items) := by
  cases items with
  | nil =>
      exact logic.pure fun _ => rfl
  | cons item rest =>
      cases item with
      | mk expr direction =>
          exact logic.bind (obeys.expr expr) fun _ first =>
            logic.bind (obeys.order rest) fun _ others =>
              logic.pure fun still => by rw [first still, others still]
termination_by structural items

theorem body (obeys : Sweep.Obeys logic idle sweep) (body : QueryBody) :
    logic.holds (Unaltered idle body) (body.sweep sweep) := by
  cases body with
  | select select =>
      exact logic.bind (obeys.select select) fun _ first =>
        logic.pure fun still => by rw [first still]
  | parenthesized query =>
      exact logic.bind (obeys.query query) fun _ first =>
        logic.pure fun still => by rw [first still]
  | combination left operator right =>
      exact logic.bind (obeys.body left) fun _ first =>
        logic.bind (obeys.body right) fun _ second =>
          logic.pure fun still => by rw [first still, second still]
  | values explicitRow rows =>
      exact logic.bind (obeys.rows rows) fun _ first =>
        logic.pure fun still => by rw [first still]
  | table name =>
      exact logic.pure fun _ => rfl
  | change parts =>
      exact logic.bind (obeys.parts parts) fun _ first =>
        logic.pure fun still => by rw [first still]
termination_by structural body

theorem rows (obeys : Sweep.Obeys logic idle sweep) (rows : List (List Expr)) :
    logic.holds (Unaltered idle rows) (QueryBody.sweepRows sweep rows) := by
  cases rows with
  | nil =>
      exact logic.pure fun _ => rfl
  | cons row rest =>
      exact logic.bind (obeys.exprs row) fun _ first =>
        logic.bind (obeys.rows rest) fun _ others =>
          logic.pure fun still => by rw [first still, others still]
termination_by structural rows

theorem select (obeys : Sweep.Obeys logic idle sweep) (select : Select) :
    logic.holds (Unaltered idle select) (select.sweep sweep) := by
  cases select with
  | mk lead projection target relations views condition groups grouping having tail =>
      exact logic.bind (obeys.parts lead) fun _ leading =>
        logic.bind (obeys.items projection) fun _ projected =>
          logic.bind (obeys.tablesAll relations) fun _ related =>
            logic.bind (obeys.parts views) fun _ viewed =>
              logic.bind (obeys.option condition) fun _ conditioned =>
                logic.bind (obeys.exprs groups) fun _ grouped =>
                  logic.bind (obeys.parts grouping) fun _ gathered =>
                    logic.bind (obeys.option having) fun _ had =>
                      logic.bind (obeys.parts tail) fun _ trailing =>
                        logic.pure fun still => by
                          rw [leading still, projected still, related still, viewed still,
                            conditioned still, grouped still, gathered still, had still,
                            trailing still]
termination_by structural select

theorem items (obeys : Sweep.Obeys logic idle sweep) (items : List SelectItem) :
    logic.holds (Unaltered idle items) (SelectItem.sweepAll sweep items) := by
  cases items with
  | nil =>
      exact logic.pure fun _ => rfl
  | cons item rest =>
      cases item with
      | expr shown =>
          exact logic.bind (obeys.expr shown) fun _ first =>
            logic.bind (obeys.items rest) fun _ others =>
              logic.pure fun still => by rw [first still, others still]
      | aliased shown aliasName =>
          exact logic.bind (obeys.expr shown) fun _ first =>
            logic.bind (obeys.items rest) fun _ others =>
              logic.pure fun still => by rw [first still, others still]
      | wildcard qualifier =>
          exact logic.bind (obeys.items rest) fun _ others =>
            logic.pure fun still => by rw [others still]
termination_by structural items

theorem tables (obeys : Sweep.Obeys logic idle sweep) (tables : TableWithJoins) :
    logic.holds (Unaltered idle tables) (tables.sweep sweep) := by
  cases tables with
  | mk relation joins =>
      exact logic.bind (obeys.factor relation) fun _ first =>
        logic.bind (obeys.joins joins) fun _ second =>
          logic.pure fun still => by rw [first still, second still]
termination_by structural tables

theorem tablesAll (obeys : Sweep.Obeys logic idle sweep) (relations : List TableWithJoins) :
    logic.holds (Unaltered idle relations) (TableWithJoins.sweepAll sweep relations) := by
  cases relations with
  | nil =>
      exact logic.pure fun _ => rfl
  | cons tables rest =>
      exact logic.bind (obeys.tables tables) fun _ first =>
        logic.bind (obeys.tablesAll rest) fun _ others =>
          logic.pure fun still => by rw [first still, others still]
termination_by structural relations

theorem joins (obeys : Sweep.Obeys logic idle sweep) (joins : List Join) :
    logic.holds (Unaltered idle joins) (Join.sweepAll sweep joins) := by
  cases joins with
  | nil =>
      exact logic.pure fun _ => rfl
  | cons join rest =>
      cases join with
      | mk words relation matching constraint =>
          exact logic.bind (obeys.factor relation) fun _ first =>
            logic.bind (obeys.parts matching) fun _ second =>
              logic.bind (obeys.constraint constraint) fun _ third =>
                logic.bind (obeys.joins rest) fun _ others =>
                  logic.pure fun still => by
                    rw [first still, second still, third still, others still]
termination_by structural joins

theorem constraint (obeys : Sweep.Obeys logic idle sweep) (constraint : JoinConstraint) :
    logic.holds (Unaltered idle constraint) (constraint.sweep sweep) := by
  cases constraint with
  | none =>
      exact logic.pure fun _ => rfl
  | on condition =>
      exact logic.bind (obeys.expr condition) fun _ first =>
        logic.pure fun still => by rw [first still]
  | sharing columns =>
      exact logic.pure fun _ => rfl
  | natural =>
      exact logic.pure fun _ => rfl
termination_by structural constraint

theorem factor (obeys : Sweep.Obeys logic idle sweep) (factor : TableFactor) :
    logic.holds (Unaltered idle factor) (factor.sweep sweep) := by
  cases factor with
  | table name arguments aliasName tail =>
      exact logic.bind (obeys.relation name) fun _ _ =>
        logic.bind (obeys.parts arguments) fun _ first =>
          logic.bind (obeys.parts tail) fun _ second =>
            logic.pure fun still => by rw [first still, second still]
  | derived isLateral query aliasName =>
      exact logic.bind (obeys.query query) fun _ first =>
        logic.pure fun still => by rw [first still]
  | nestedJoin inner aliasName =>
      exact logic.bind (obeys.tables inner) fun _ first =>
        logic.pure fun still => by rw [first still]
  | function parts aliasName tail =>
      exact logic.bind (obeys.parts parts) fun _ first =>
        logic.pure fun still => by rw [first still]
termination_by structural factor

end

end Sweep.Obeys

end ColumnVeil
