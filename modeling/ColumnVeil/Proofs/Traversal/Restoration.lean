import ColumnVeil.Proofs.Traversal.Sweeping
import ColumnVeil.Traversal.Walk

/-!
# Walks restore the scope

Whoever enters a query leaves it again, whether the walk inside succeeds or fails.  So behind a
walk the frames are those before it, and all that may have changed in the scope is that the
current statement shows more columns.

What is entered one relation after the other brings names into the innermost frame, which is
dropped only with the query itself.  The induction over the syntax therefore says of each walk
which part of the frames it restores: all of them, or those around the innermost one.  What it
asks of a visitor is that the visitor restores the frames wherever it is asked
(`Visitor.Restoring`).
-/

namespace ColumnVeil

open Sql

variable {σ α β : Type}

/-! ## Scopes before and after -/

namespace Scope

/-- The output names of the current statement with their columns, the newest first. -/
def outputs (scope : Scope) : List (String × ColumnRef) :=
  (scope.current.getD {}).outputs

/-- The earlier statements show what they have shown, and the current one no less. -/
structure Grows (before after : Scope) : Prop where
  earlier : after.earlier = before.earlier
  begun : before.current.isSome → after.current.isSome
  outputs : before.outputs <:+ after.outputs
  named : ∀ name column, before.output? name = some column → after.output? name = some column

/-- A part of the frames is as it was before, and the statements show no less. -/
structure Restores (part : List Frame → List Frame) (before after : Scope) : Prop where
  frames : part after.frames = part before.frames
  grows : before.Grows after

variable {part : List Frame → List Frame} {before middle after : Scope}

theorem Grows.refl (scope : Scope) : scope.Grows scope where
  earlier := rfl
  begun := id
  outputs := List.suffix_refl _
  named _ _ := id

theorem Grows.trans (first : before.Grows middle) (second : middle.Grows after) :
    before.Grows after where
  earlier := second.earlier.trans first.earlier
  begun := second.begun ∘ first.begun
  outputs := first.outputs.trans second.outputs
  named name column shown := second.named name column (first.named name column shown)

theorem Restores.refl (scope : Scope) : scope.Restores part scope :=
  ⟨rfl, .refl scope⟩

theorem Restores.trans (first : before.Restores part middle)
    (second : middle.Restores part after) : before.Restores part after :=
  ⟨second.frames.trans first.frames, first.grows.trans second.grows⟩

/-- Leaving a query restores all frames if those around it have been restored inside. -/
theorem Restores.leave {returnsRows : Bool}
    (inside : (before.push returnsRows).Restores List.tail after) :
    before.Restores part after.pop where
  frames := congrArg part inside.frames
  grows := ⟨inside.grows.earlier, inside.grows.begun, inside.grows.outputs, inside.grows.named⟩

/-- A table comes into the innermost frame. -/
theorem restores_add (scope : Scope) (name table : String) :
    scope.Restores List.tail (scope.add name table) := by
  unfold add
  split
  · exact .refl scope
  · rename_i frame rest framed
    refine ⟨?_, rfl, id, List.suffix_refl _, fun _ _ => id⟩
    rw [framed]
    rfl

theorem output?_eq (scope : Scope) (name : String) :
    scope.output? name = scope.outputs.lookup name := by
  unfold output? outputs
  cases scope.current with
  | none => rfl
  | some results => rfl

/-- An output name comes in, unless it was there for the same column. -/
theorem restores_register {scope registered : Scope} {name : String} {column : ColumnRef}
    (recorded : scope.register name column = .ok registered) :
    scope.Restores part registered := by
  unfold register ResultColumns.register at recorded
  split at recorded
  · split at recorded
    · cases recorded
      refine ⟨rfl, rfl, fun _ => rfl, List.suffix_refl _, fun other shown known => ?_⟩
      rw [output?_eq] at known ⊢
      exact known
    · cases recorded
  · rename_i unknown
    cases recorded
    refine ⟨rfl, rfl, fun _ => rfl, List.suffix_cons _ _, fun other shown known => ?_⟩
    rw [output?_eq] at known ⊢
    have apart : other ≠ name := by
      rintro rfl
      exact absurd (known.symm.trans unknown) (Option.some_ne_none _)
    show List.lookup other ((name, column) :: scope.outputs) = some shown
    rw [List.lookup_cons, beq_false_of_ne apart]
    exact known

end Scope

/-! ## Walks -/

namespace Walk

/-- From every state, whether it succeeds or fails, a walk restores a part of the frames, and of
its value, if there is one, something is known. -/
def Restores (part : List Frame → List Frame) (ensured : α → Prop) (walk : Walk σ α) : Prop :=
  ∀ state : Traversal σ, state.scope.Restores part (walk.run.run state).2.scope ∧
    ∀ value, (walk.run.run state).1 = .ok value → ensured value

namespace Restores

variable {part : List Frame → List Frame} {ensured : α → Prop}

theorem pure {value : α} (holds : ensured value) :
    Restores part ensured (Pure.pure value : Walk σ α) := by
  intro state
  refine ⟨.refl _, fun result run => ?_⟩
  cases run
  exact holds

theorem throw (failure : Failure) :
    Restores part ensured (MonadExcept.throw failure : Walk σ α) := by
  intro state
  refine ⟨.refl _, fun result run => ?_⟩
  cases run

theorem bind {concluded : β → Prop} {walk : Walk σ α} {next : α → Walk σ β}
    (first : Restores part ensured walk)
    (second : ∀ value, ensured value → Restores part concluded (next value)) :
    Restores part concluded (walk >>= next) := by
  intro state
  obtain ⟨reached, holds⟩ := first state
  rw [run_bind]
  rcases run : walk.run.run state with ⟨outcome, middle⟩
  rw [run] at reached holds
  cases outcome with
  | error failure =>
      refine ⟨reached, fun result impossible => ?_⟩
      cases impossible
  | ok value =>
      obtain ⟨ended, concludes⟩ := second value (holds value rfl) middle
      exact ⟨reached.trans ended, concludes⟩

/-- A step of which only the frames matter. -/
theorem after {ensured : β → Prop} {walk : Walk σ α} {next : α → Walk σ β}
    (first : Restores part (fun _ => True) walk)
    (second : ∀ value, Restores part ensured (next value)) :
    Restores part ensured (walk >>= next) :=
  first.bind fun value _ => second value

theorem weaken {concluded : α → Prop} {walk : Walk σ α} (restores : Restores part ensured walk)
    (enough : ∀ value, ensured value → concluded value) : Restores part concluded walk :=
  fun state => ⟨(restores state).1, fun value run => enough value ((restores state).2 value run)⟩

/-- Statements about restored frames carry over to sequences. -/
def logic (part : List Frame → List Frame) : Walk.Logic σ where
  holds := Restores part
  pure := .pure
  bind := .bind
  throw := .throw

theorem scope : Restores part (fun _ => True) (Walk.scope : Walk σ Scope) :=
  fun _ => ⟨.refl _, fun _ _ => trivial⟩

/-- A visitor's own state is no part of the scope. -/
theorem modifyOwn (change : Traversal σ → σ) : Restores part (fun _ => True)
    (modify fun state => { state with own := change state } : Walk σ PUnit) :=
  fun _ => ⟨.refl _, fun _ _ => trivial⟩

theorem ofExcept (result : Except Failure α) :
    Restores part (fun _ => True) (Walk.ofExcept result : Walk σ α) := by
  intro state
  rw [run_ofExcept]
  exact ⟨.refl _, fun _ _ => trivial⟩

theorem addTable (name table : String) :
    Restores List.tail (fun _ => True) (Walk.addTable name table : Walk σ Unit) :=
  fun state => ⟨state.scope.restores_add name table, fun _ _ => trivial⟩

theorem addAlias (aliasName : Option TableAlias) :
    Restores List.tail (fun _ => True) (Walk.addAlias aliasName : Walk σ Unit) := by
  cases aliasName with
  | none => exact pure trivial
  | some aliasName => exact addTable _ _

/-- A query of its own is left again, even if the walk inside fails. -/
theorem inFrame (returnsRows : Bool) {body : Walk σ α} (inside : Restores List.tail ensured body) :
    Restores part ensured (Walk.inFrame returnsRows body) := by
  intro state
  obtain ⟨reached, holds⟩ := inside { state with scope := state.scope.push returnsRows }
  exact ⟨reached.leave, holds⟩

theorem resolve (expr : Expr) (context : Context) :
    Restores part (fun _ => True) (Walk.resolve expr context : Walk σ (Option ColumnRef)) :=
  scope.after fun _ => ofExcept _

/-- Recording an output name in the scope at hand. -/
theorem register (name : String) (column : ColumnRef) : Restores part (fun _ => True) (do
    let registered ← Walk.ofExcept ((← Walk.scope).register name column)
    Walk.changeScope fun _ => registered : Walk σ Unit) := by
  intro state
  have run : (do
      let registered ← Walk.ofExcept ((← Walk.scope).register name column)
      Walk.changeScope fun _ => registered : Walk σ Unit).run.run state =
      match state.scope.register name column with
      | .ok registered => (.ok (), { state with scope := registered })
      | .error failure => (.error failure, state) := by
    show (Walk.ofExcept (state.scope.register name column) >>= fun registered =>
      Walk.changeScope fun _ => registered : Walk σ Unit).run.run state = _
    rw [run_bind, run_ofExcept]
    cases state.scope.register name column with
    | error failure => rfl
    | ok registered => rfl
  rw [run]
  cases recorded : state.scope.register name column with
  | error failure => exact ⟨.refl _, fun _ _ => trivial⟩
  | ok registered => exact ⟨Scope.restores_register recorded, fun _ _ => trivial⟩

theorem registerOutput (expr : Expr) (aliasName : Option Ident) (context : Context) :
    Restores part (fun _ => True)
      (Walk.registerOutput expr aliasName context : Walk σ Unit) := by
  refine (resolve expr context).after fun found => ?_
  cases found with
  | none => exact pure trivial
  | some column => exact register _ column

end Restores

end Walk

/-! ## Visitors -/

/-- A visitor restores the frames, or whatever part of them, wherever it is asked. -/
structure Visitor.Restoring (visitor : Visitor σ) : Prop where
  insert {part} : ∀ insert, Walk.Restores part (fun _ => True) (visitor.insert insert)
  update {part} : ∀ update, Walk.Restores part (fun _ => True) (visitor.update update)
  membership {part} : ∀ operand items context,
    Walk.Restores part (fun _ => True) (visitor.membership operand items context)
  operation {part} : ∀ left operator right context,
    Walk.Restores part (fun _ => True) (visitor.operation left operator right context)
  column {part} : ∀ expr column context,
    Walk.Restores part (fun _ => True) (visitor.column expr column context)
  wildcard {part} : Walk.Restores part (fun _ => True) visitor.wildcard
  unsupported {part} : ∀ feature, Walk.Restores part (fun _ => True) (visitor.unsupported feature)
  other {part} : Walk.Restores part (fun _ => True) visitor.other

namespace Visitor.Restoring

variable {visitor : Visitor σ} {part : List Frame → List Frame}

theorem reference (restoring : visitor.Restoring) (context : Context) (expr : Expr) :
    Walk.Restores part (fun _ => True) (visitor.reference context expr) := by
  refine (Walk.Restores.resolve expr context).after fun found => ?_
  cases found with
  | none => exact .pure trivial
  | some column => exact restoring.column expr column context

theorem sweeps (restoring : visitor.Restoring) (context : Context) :
    Sweep.Obeys (Walk.Restores.logic part) False
      ⟨visitor.reference context, fun _ => pure ()⟩ where
  column expr _ := (restoring.reference context expr).weaken fun _ _ => False.elim
  relation _ := .pure trivial

/-- A construct that is not told apart is swept for references. -/
theorem swept (restoring : visitor.Restoring) (context : Context) (expr : Expr) :
    Walk.Restores part (fun _ => True)
      (expr.sweep ⟨visitor.reference context, fun _ => pure ()⟩) :=
  Walk.Restores.weaken ((restoring.sweeps context).expr expr) fun _ _ => trivial

end Visitor.Restoring

/-- What comes back with an entered relation, the walk through the conditions of its joins,
restores the frames as well. -/
structure Rejoins (entered : α × Walk σ α) : Prop where
  conditions : Walk.Restores List.tail (fun _ => True) entered.2

namespace Visitor.Restoring

variable {visitor : Visitor σ} {part : List Frame → List Frame}

/-! ## The syntax -/

mutual

theorem expr (restoring : visitor.Restoring) (part : List Frame → List Frame) (context : Context)
    (expr : Expr) : Walk.Restores part (fun _ => True) (walkExpr visitor context expr) := by
  cases expr with
  | identifier ident =>
      rw [walkExpr]
      exact restoring.reference context _
  | compound parts =>
      rw [walkExpr]
      exact restoring.reference context _
  | value constant =>
      exact .pure trivial
  | binary left operator right =>
      rw [walkExpr]
      refine (restoring.operation left operator right context).after fun found => ?_
      cases found with
      | some replacement =>
          exact .pure trivial
      | none =>
          exact (restoring.expr part context left).after fun _ =>
            (restoring.expr part context right).after fun _ => .pure trivial
  | unary operator operand =>
      rw [walkExpr]
      exact (restoring.expr part context operand).after fun _ => .pure trivial
  | nested inner =>
      rw [walkExpr]
      exact (restoring.expr part context inner).after fun _ => .pure trivial
  | nullTest operand negated =>
      rw [walkExpr]
      exact (restoring.expr part context operand).after fun _ => .pure trivial
  | inList operand negated items =>
      rw [walkExpr]
      refine (restoring.membership operand items context).after fun found => ?_
      cases found with
      | some replacement =>
          exact .pure trivial
      | none =>
          exact (restoring.expr part context operand).after fun _ =>
            (restoring.exprs part context items).after fun _ => .pure trivial
  | inQuery operand negated body =>
      rw [walkExpr]
      exact (restoring.expr part context operand).after fun _ =>
        (Walk.Restores.inFrame false (restoring.body false body)).after fun _ => .pure trivial
  | between operand negated low high =>
      rw [walkExpr]
      exact (restoring.expr part context operand).after fun _ =>
        (restoring.expr part context low).after fun _ =>
          (restoring.expr part context high).after fun _ => .pure trivial
  | like operand negated word pattern escape =>
      rw [walkExpr]
      exact (restoring.expr part context operand).after fun _ =>
        (restoring.expr part context pattern).after fun _ => .pure trivial
  | array named elements =>
      rw [walkExpr]
      exact (restoring.exprs part context elements).after fun _ => .pure trivial
  | subquery query =>
      rw [walkExpr]
      exact (restoring.query part false query).after fun _ => .pure trivial
  | existence negated query =>
      rw [walkExpr]
      exact (restoring.query part false query).after fun _ => .pure trivial
  | call name opening late closing =>
      rw [walkExpr]
      exact restoring.swept context _
  | form parts =>
      rw [walkExpr]
      exact restoring.swept context _
termination_by structural expr

theorem exprs (restoring : visitor.Restoring) (part : List Frame → List Frame) (context : Context)
    (exprs : List Expr) : Walk.Restores part (fun _ => True) (walkExprs visitor context exprs) := by
  cases exprs with
  | nil =>
      exact .pure trivial
  | cons expr rest =>
      rw [walkExprs]
      exact (restoring.expr part context expr).after fun _ =>
        (restoring.exprs part context rest).after fun _ => .pure trivial
termination_by structural exprs

theorem option (restoring : visitor.Restoring) (part : List Frame → List Frame)
    (context : Context) (expr : Option Expr) :
    Walk.Restores part (fun _ => True) (walkOption visitor context expr) := by
  cases expr with
  | none =>
      exact .pure trivial
  | some expr =>
      rw [walkOption]
      exact (restoring.expr part context expr).after fun _ => .pure trivial
termination_by structural expr

theorem query (restoring : visitor.Restoring) (part : List Frame → List Frame) (reaches : Bool)
    (query : Query) : Walk.Restores part (fun _ => True) (walkQuery visitor reaches query) := by
  cases query with
  | mk recursive ctes body order tail =>
      rw [walkQuery]
      exact (restoring.ctes part ctes).after fun _ =>
        .inFrame reaches ((restoring.body reaches body).after fun _ =>
          (restoring.order List.tail order).after fun _ => .pure trivial)
termination_by structural query

theorem ctes (restoring : visitor.Restoring) (part : List Frame → List Frame) (ctes : List Cte) :
    Walk.Restores part (fun _ => True) (walkCtes visitor ctes) := by
  cases ctes with
  | nil =>
      exact .pure trivial
  | cons cte rest =>
      cases cte with
      | mk aliasName materialized query origin =>
          rw [walkCtes]
          exact (restoring.query part false query).after fun _ =>
            (restoring.ctes part rest).after fun _ => .pure trivial
termination_by structural ctes

theorem order (restoring : visitor.Restoring) (part : List Frame → List Frame)
    (items : List OrderItem) : Walk.Restores part (fun _ => True) (walkOrder visitor items) := by
  cases items with
  | nil =>
      exact .pure trivial
  | cons item rest =>
      cases item with
      | mk expr direction =>
          rw [walkOrder]
          exact (restoring.expr part .ofOrderBy expr).after fun _ =>
            (restoring.order part rest).after fun _ => .pure trivial
termination_by structural items

theorem body (restoring : visitor.Restoring) (reaches : Bool) (body : QueryBody) :
    Walk.Restores List.tail (fun _ => True) (walkBody visitor reaches body) := by
  cases body with
  | select select =>
      rw [walkBody]
      exact (restoring.select select).after fun _ => .pure trivial
  | parenthesized query =>
      rw [walkBody]
      exact (restoring.query List.tail reaches query).after fun _ => .pure trivial
  | combination left operator right =>
      exact .throw _
  | values explicitRow rows =>
      rw [walkBody]
      exact (restoring.rows List.tail rows).after fun _ => .pure trivial
  | table name =>
      exact .throw _
  | change parts =>
      exact .throw _
termination_by structural body

theorem rows (restoring : visitor.Restoring) (part : List Frame → List Frame)
    (rows : List (List Expr)) :
    Walk.Restores part (fun _ => True) (walkRows visitor rows) := by
  cases rows with
  | nil =>
      exact .pure trivial
  | cons row rest =>
      rw [walkRows]
      exact (restoring.exprs part .plain row).after fun _ =>
        (restoring.rows part rest).after fun _ => .pure trivial
termination_by structural rows

/-- The relations of a selection stay in its frame. -/
theorem select (restoring : visitor.Restoring) (select : Select) :
    Walk.Restores List.tail (fun _ => True) (walkSelect visitor select) := by
  cases select with
  | mk lead projection target relations views condition groups grouping having tail =>
      rw [walkSelect]
      exact (restoring.enteringAll relations).bind fun entered rejoins =>
        Walk.Restores.scope.after fun scope =>
          (restoring.projection List.tail scope.returnsRows projection).after fun _ =>
            rejoins.conditions.after fun _ =>
              (restoring.option List.tail .plain condition).after fun _ =>
                (restoring.exprs List.tail .ofGroupBy groups).after fun _ =>
                  (restoring.option List.tail .ofGroupBy having).after fun _ => .pure trivial
termination_by structural select

theorem projection (restoring : visitor.Restoring) (part : List Frame → List Frame)
    (reaches : Bool) (items : List SelectItem) :
    Walk.Restores part (fun _ => True) (walkProjection visitor reaches items) := by
  cases items with
  | nil =>
      exact .pure trivial
  | cons item rest =>
      cases item with
      | expr shown =>
          rw [walkProjection]
          have shows : Walk.Restores part (fun _ => True) (do
              let newShown ← walkExpr visitor { selectBody := reaches } shown
              return SelectItem.expr newShown :: (← walkProjection visitor reaches rest)) :=
            (restoring.expr part _ shown).after fun _ =>
              (restoring.projection part reaches rest).after fun _ => .pure trivial
          cases reaches with
          | false =>
              exact shows
          | true =>
              exact (Walk.Restores.registerOutput shown none _).after fun _ => shows
      | aliased shown aliasName =>
          rw [walkProjection]
          have shows : Walk.Restores part (fun _ => True) (do
              let newShown ← walkExpr visitor { selectBody := reaches } shown
              return SelectItem.aliased newShown aliasName ::
                (← walkProjection visitor reaches rest)) :=
            (restoring.expr part _ shown).after fun _ =>
              (restoring.projection part reaches rest).after fun _ => .pure trivial
          cases reaches with
          | false =>
              exact shows
          | true =>
              exact (Walk.Restores.registerOutput shown (some aliasName) _).after fun _ => shows
      | wildcard qualifier =>
          rw [walkProjection]
          exact restoring.wildcard.after fun _ =>
            (restoring.projection part reaches rest).after fun _ => .pure trivial
termination_by structural items

theorem entering (restoring : visitor.Restoring) (tables : TableWithJoins) :
    Walk.Restores List.tail Rejoins (enter visitor tables) := by
  cases tables with
  | mk relation joins =>
      rw [enter]
      refine (restoring.factor relation).bind fun entered inner => ?_
      refine (restoring.joins joins).bind fun others further => ?_
      exact .pure ⟨inner.conditions.after fun _ =>
        further.conditions.after fun _ => .pure trivial⟩
termination_by structural tables

theorem enteringAll (restoring : visitor.Restoring) (relations : List TableWithJoins) :
    Walk.Restores List.tail Rejoins (enterAll visitor relations) := by
  cases relations with
  | nil =>
      exact .pure ⟨.pure trivial⟩
  | cons tables rest =>
      rw [enterAll]
      refine (restoring.entering tables).bind fun entered inner => ?_
      refine (restoring.enteringAll rest).bind fun others further => ?_
      exact .pure ⟨inner.conditions.after fun _ =>
        further.conditions.after fun _ => .pure trivial⟩
termination_by structural relations

theorem joins (restoring : visitor.Restoring) (joins : List Join) :
    Walk.Restores List.tail Rejoins (enterJoins visitor joins) := by
  cases joins with
  | nil =>
      exact .pure ⟨.pure trivial⟩
  | cons join rest =>
      cases join with
      | mk words relation matching constraint =>
          rw [enterJoins]
          refine (restoring.factor relation).bind fun entered inner => ?_
          refine (restoring.joins rest).bind fun others further => ?_
          exact .pure ⟨inner.conditions.after fun _ =>
            (restoring.constraint constraint).after fun _ =>
              further.conditions.after fun _ => .pure trivial⟩
termination_by structural joins

theorem factor (restoring : visitor.Restoring) (factor : TableFactor) :
    Walk.Restores List.tail Rejoins (enterFactor visitor factor) := by
  cases factor with
  | table name arguments aliasName tail =>
      rw [enterFactor]
      cases name.last? with
      | none =>
          exact .pure ⟨.pure trivial⟩
      | some table =>
          exact (Walk.Restores.addTable _ _).after fun _ => .pure ⟨.pure trivial⟩
  | derived isLateral query aliasName =>
      rw [enterFactor]
      exact (restoring.query List.tail false query).after fun _ =>
        (Walk.Restores.addAlias aliasName).after fun _ => .pure ⟨.pure trivial⟩
  | nestedJoin inner aliasName =>
      rw [enterFactor]
      refine (restoring.entering inner).bind fun entered rejoins => ?_
      refine (Walk.Restores.addAlias aliasName).after fun _ => ?_
      exact .pure ⟨rejoins.conditions.after fun _ => .pure trivial⟩
  | function parts aliasName tail =>
      rw [enterFactor]
      exact (Walk.Restores.addAlias aliasName).after fun _ =>
        (restoring.unsupported _).after fun _ => .pure ⟨.pure trivial⟩
termination_by structural factor

theorem constraint (restoring : visitor.Restoring) (constraint : JoinConstraint) :
    Walk.Restores List.tail (fun _ => True) (walkConstraint visitor constraint) := by
  cases constraint with
  | none =>
      exact .pure trivial
  | on condition =>
      rw [walkConstraint]
      exact (restoring.expr List.tail .ofJoin condition).after fun _ => .pure trivial
  | sharing columns =>
      rw [walkConstraint]
      exact (restoring.unsupported _).after fun _ => .pure trivial
  | natural =>
      rw [walkConstraint]
      exact (restoring.unsupported _).after fun _ => .pure trivial
termination_by structural constraint

end

/-! ## Statements -/

theorem assignments (restoring : visitor.Restoring) (part : List Frame → List Frame)
    (assignments : List Assignment) :
    Walk.Restores part (fun _ => True) (walkAssignments visitor assignments) := by
  refine (Walk.Restores.logic part).mapM (fun assignment => ?_) assignments
  exact (restoring.expr part .plain assignment.value).after fun _ => .pure trivial

theorem returning (restoring : visitor.Restoring) (part : List Frame → List Frame)
    (items : Option (List SelectItem)) :
    Walk.Restores part (fun _ => True) (walkReturning visitor items) := by
  cases items with
  | none =>
      exact .pure trivial
  | some items =>
      exact Walk.Restores.scope.after fun scope =>
        (restoring.projection part scope.returnsRows items).after fun _ => .pure trivial

theorem source (restoring : visitor.Restoring) (part : List Frame → List Frame)
    (source : Option Query) :
    Walk.Restores part (fun _ => True) (walkSource visitor source) := by
  unfold walkSource
  split
  · exact .pure trivial
  · exact (restoring.rows part _).after fun _ => .pure trivial
  · exact (restoring.query part false _).after fun _ => .pure trivial

/-- The target of an insertion stays in the frame of the insertion. -/
theorem target (table reference : Option String) {next : Walk σ α}
    (later : Walk.Restores List.tail (fun _ => True) next) :
    Walk.Restores List.tail (fun _ => True) (do
      if let some table := table then
        if let some reference := reference then Walk.addTable reference table
      next) := by
  cases table with
  | none =>
      exact later
  | some table =>
      cases reference with
      | none =>
          exact later
      | some reference =>
          exact (Walk.Restores.addTable reference table).after fun _ => later

/-- What happens to rows that exist is walked through in two frames, which are both left. -/
theorem conflict (restoring : visitor.Restoring) (part : List Frame → List Frame)
    (reference table : Option String) (rule : ConflictRule) :
    Walk.Restores part (fun _ => True) (walkConflict visitor reference table rule) := by
  cases rule with
  | none =>
      exact .pure trivial
  | words text =>
      exact .pure trivial
  | assign words assignments condition =>
      have settling : Walk.Restores List.tail (fun _ => True) (do
          let assignments ← walkAssignments visitor assignments
          let condition ← walkOption visitor .plain condition
          return ConflictRule.assign words assignments condition) :=
        (restoring.assignments List.tail assignments).after fun _ =>
          (restoring.option List.tail .plain condition).after fun _ => .pure trivial
      have inner := (Walk.Restores.inFrame false (target table reference settling) :
        Walk.Restores List.tail _ _)
      cases table with
      | none =>
          exact .inFrame false inner
      | some table =>
          exact .inFrame false ((Walk.Restores.addTable _ table).after fun _ => inner)

theorem insertion (restoring : visitor.Restoring) (part : List Frame → List Frame)
    (insert : Insert) : Walk.Restores part (fun _ => True) (walkInsert visitor insert) := by
  rw [walkInsert]
  refine (restoring.insert insert).after fun treated => ?_
  have inside : Walk.Restores List.tail (fun _ => True) (do
      let source ← walkSource visitor treated.source
      let returning ← walkReturning visitor treated.returning
      return { treated with source, returning }) :=
    (restoring.source List.tail treated.source).after fun _ =>
      (restoring.returning List.tail treated.returning).after fun _ => .pure trivial
  exact (Walk.Restores.inFrame true (target _ _ inside)).after fun filled =>
    (restoring.conflict part _ _ filled.conflict).after fun _ => .pure trivial

theorem alteration (restoring : visitor.Restoring) (part : List Frame → List Frame)
    (update : Update) : Walk.Restores part (fun _ => True) (walkUpdate visitor update) := by
  rw [walkUpdate]
  refine (restoring.update update).after fun treated => .inFrame true ?_
  refine (restoring.entering treated.table).bind fun own rejoins => ?_
  have ending (table : TableWithJoins) (relations : Option (Bool × List TableWithJoins)) :
      Walk.Restores List.tail (fun _ => True) (do
        let assignments ← walkAssignments visitor treated.assignments
        let condition ← walkOption visitor .plain treated.condition
        let returning ← walkReturning visitor treated.returning
        return { treated with table, relations, assignments, condition, returning }) :=
    (restoring.assignments List.tail treated.assignments).after fun _ =>
      (restoring.option List.tail .plain treated.condition).after fun _ =>
        (restoring.returning List.tail treated.returning).after fun _ => .pure trivial
  cases treated.relations with
  | none =>
      exact rejoins.conditions.after fun table => ending table none
  | some further =>
      exact (restoring.enteringAll further.2).bind fun others othersRejoin =>
        rejoins.conditions.after fun table =>
          othersRejoin.conditions.after fun relations =>
            ending table (some (further.1, relations))

theorem deletion (restoring : visitor.Restoring) (part : List Frame → List Frame)
    (delete : Delete) : Walk.Restores part (fun _ => True) (walkDelete visitor delete) := by
  rw [walkDelete]
  refine .inFrame true ?_
  refine (restoring.enteringAll delete.relations).bind fun relations _ => ?_
  have ending (further : Option (List TableWithJoins)) :
      Walk.Restores List.tail (fun _ => True) (do
        let condition ← walkOption visitor .plain delete.condition
        let returning ← walkReturning visitor delete.returning
        return { delete with relations := relations.1, further, condition, returning }) :=
    (restoring.option List.tail .plain delete.condition).after fun _ =>
      (restoring.returning List.tail delete.returning).after fun _ => .pure trivial
  cases delete.further with
  | none =>
      exact ending none
  | some further =>
      exact (restoring.enteringAll further).bind fun others _ => ending (some others.1)

theorem naming (tables : List String) {next : Walk σ α}
    (later : Walk.Restores List.tail (fun _ => True) next) :
    Walk.Restores List.tail (fun _ => True) (do
      for table in tables do Walk.addTable table table
      next) := by
  induction tables with
  | nil =>
      exact later
  | cons table rest inductionHypothesis =>
      simp only [List.forIn_cons, bind_assoc, pure_bind] at inductionHypothesis ⊢
      exact (Walk.Restores.addTable table table).after fun _ => inductionHypothesis

theorem statement (restoring : visitor.Restoring) (part : List Frame → List Frame)
    (statement : Statement) :
    Walk.Restores part (fun _ => True) (walkStatement visitor statement) := by
  induction statement with
  | query query =>
      exact (restoring.query part true query).after fun _ => .pure trivial
  | insert insert =>
      exact (restoring.insertion part insert).after fun _ => .pure trivial
  | update update =>
      exact (restoring.alteration part update).after fun _ => .pure trivial
  | delete delete =>
      exact (restoring.deletion part delete).after fun _ => .pure trivial
  | explain words statement inductionHypothesis =>
      exact inductionHypothesis.after fun _ => .pure trivial
  | definition parts =>
      exact .throw _
  | utility parts =>
      exact .inFrame false
        (naming _ (restoring.other.after fun _ => .pure trivial))

end Visitor.Restoring

/-- From every state, whether it succeeds or fails, a walk leaves the frames as they were and the
earlier statements too; the current statement may show more. -/
def Walk.RestoresScope (walk : Walk σ α) : Prop :=
  ∀ state : Traversal σ, state.scope.Restores id (walk.run.run state).2.scope

/-- Whatever is walked through with the visitor, the scope is restored behind it. -/
structure Visitor.RestoresScope (visitor : Visitor σ) : Prop where
  expr : ∀ context expr, (walkExpr visitor context expr).RestoresScope
  query : ∀ reaches query, (walkQuery visitor reaches query).RestoresScope
  insertion : ∀ insert, (walkInsert visitor insert).RestoresScope
  alteration : ∀ update, (walkUpdate visitor update).RestoresScope
  deletion : ∀ delete, (walkDelete visitor delete).RestoresScope
  statement : ∀ statement, (walkStatement visitor statement).RestoresScope

/-- A visitor that restores the frames where it is asked restores them wherever it is led. -/
theorem Visitor.Restoring.restoresScope {visitor : Visitor σ} (restoring : visitor.Restoring) :
    visitor.RestoresScope where
  expr context expr state := (restoring.expr id context expr state).1
  query reaches query state := (restoring.query id reaches query state).1
  insertion insert state := (restoring.insertion id insert state).1
  alteration update state := (restoring.alteration id update state).1
  deletion delete state := (restoring.deletion id delete state).1
  statement statement state := (restoring.statement id statement state).1

end ColumnVeil
