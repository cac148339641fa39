import ColumnVeil.Proofs.Traversal.Naming
import ColumnVeil.Proofs.Traversal.Sweeping
import ColumnVeil.Traversal.Walk

/-!
# Walks in parallel

Two walks through the same statement, begun in states that are alike, go the same way: they
have the same outcome, a failure included, and end in states that are alike again.  States are
alike if they have the same scope and the visitor cannot tell their own parts apart.  A visitor
that changes nothing also gives back the statement as it is.

One induction over the syntax says both.  What it asks of a visitor is said at the constructs
that the visitor is asked about (`Visitor.Parallel`), where every column that is met belongs to
an allowed table.
-/

namespace ColumnVeil

open Sql

variable {σ α β : Type}

/-- States with the same scope, in which only allowed tables are known, and own parts that are
alike. -/
structure Traversal.Alike (allowed : String → Prop) (like : σ → σ → Prop)
    (first second : Traversal σ) : Prop where
  scope : first.scope = second.scope
  within : first.scope.Within allowed
  own : like first.own second.own

namespace Walk

/-- From states that are alike a walk comes to one outcome and to states that are alike again,
and of its value, if there is one, something is known. -/
def Parallel (allowed : String → Prop) (like : σ → σ → Prop) (ensured : α → Prop)
    (walk : Walk σ α) : Prop :=
  ∀ ⦃first second : Traversal σ⦄, first.Alike allowed like second →
    (walk.run.run first).1 = (walk.run.run second).1 ∧
      (walk.run.run first).2.Alike allowed like (walk.run.run second).2 ∧
        ∀ value, (walk.run.run first).1 = .ok value → ensured value

variable {allowed : String → Prop} {like : σ → σ → Prop} {ensured concluded : α → Prop}

namespace Parallel

theorem pure {value : α} (holds : ensured value) :
    Parallel allowed like ensured (Pure.pure value : Walk σ α) := by
  intro first second alike
  refine ⟨rfl, alike, ?_⟩
  intro result run
  cases run
  exact holds

theorem throw (failure : Failure) :
    Parallel allowed like ensured (MonadExcept.throw failure : Walk σ α) := by
  intro first second alike
  refine ⟨rfl, alike, ?_⟩
  intro result run
  cases run

theorem bind {concluded : β → Prop} {walk : Walk σ α} {next : α → Walk σ β}
    (parallel : Parallel allowed like ensured walk)
    (later : ∀ value, ensured value → Parallel allowed like concluded (next value)) :
    Parallel allowed like concluded (walk >>= next) := by
  intro first second alike
  rcases parallel alike with ⟨same, reached, holds⟩
  rw [run_bind, run_bind]
  rcases firstRun : walk.run.run first with ⟨outcome, middle⟩
  rcases secondRun : walk.run.run second with ⟨other, otherMiddle⟩
  rw [firstRun, secondRun] at same reached
  rw [firstRun] at holds
  cases same
  cases outcome with
  | error failure =>
      refine ⟨rfl, reached, ?_⟩
      intro result run
      cases run
  | ok value =>
      exact later value (holds value rfl) reached

theorem weaken {walk : Walk σ α} (parallel : Parallel allowed like ensured walk)
    (enough : ∀ value, ensured value → concluded value) :
    Parallel allowed like concluded walk := by
  intro first second alike
  rcases parallel alike with ⟨same, reached, holds⟩
  exact ⟨same, reached, fun value run => enough value (holds value run)⟩

/-- Statements about walks in parallel carry over to sequences. -/
def logic (allowed : String → Prop) (like : σ → σ → Prop) : Walk.Logic σ where
  holds := Parallel allowed like
  pure := .pure
  bind := .bind
  throw := .throw

theorem ofExcept {result : Except Failure α} (holds : ∀ value, result = .ok value → ensured value) :
    Parallel allowed like ensured (Walk.ofExcept result : Walk σ α) := by
  cases result with
  | error failure =>
      exact throw failure
  | ok value =>
      exact pure (holds value rfl)

/-! ### Scopes -/

theorem scope :
    Parallel allowed like (fun scope => scope.Within allowed) (Walk.scope : Walk σ Scope) := by
  intro first second alike
  refine ⟨congrArg Except.ok alike.scope, alike, ?_⟩
  intro result run
  cases run
  exact alike.within

theorem changeScope {change : Scope → Scope}
    (keeps : ∀ scope : Scope, scope.Within allowed → (change scope).Within allowed) :
    Parallel allowed like (fun _ => True) (Walk.changeScope change : Walk σ Unit) := by
  intro first second alike
  refine ⟨rfl, ⟨congrArg change alike.scope, keeps _ alike.within, alike.own⟩, ?_⟩
  intro result run
  exact trivial

theorem addTable (name : String) {table : String} (known : allowed table) :
    Parallel allowed like (fun _ => True) (Walk.addTable name table : Walk σ Unit) :=
  changeScope fun _ within => within.add name known

theorem addAlias {aliasName : Option TableAlias}
    (known : ∀ table ∈ (aliasNames aliasName).map Prod.snd, allowed table) :
    Parallel allowed like (fun _ => True) (Walk.addAlias aliasName : Walk σ Unit) := by
  cases aliasName with
  | none =>
      exact pure trivial
  | some aliasName =>
      exact addTable _ (known _ (List.mem_singleton.mpr rfl))

theorem inFrame (returnsRows : Bool) {body : Walk σ α}
    (inside : Parallel allowed like ensured body) :
    Parallel allowed like ensured (Walk.inFrame returnsRows body) := by
  intro first second alike
  have entered : Traversal.Alike allowed like
      { first with scope := first.scope.push returnsRows }
      { second with scope := second.scope.push returnsRows } :=
    ⟨congrArg (Scope.push · returnsRows) alike.scope, alike.within.push returnsRows, alike.own⟩
  rcases inside entered with ⟨same, reached, holds⟩
  refine ⟨same, ?_, holds⟩
  exact ⟨congrArg Scope.pop reached.scope, reached.within.pop, reached.own⟩

/-- A column that a reference means belongs to an allowed table. -/
theorem resolve (expr : Expr) (context : Context) :
    Parallel allowed like (fun found => ∀ column ∈ found, allowed column.table)
      (Walk.resolve expr context : Walk σ (Option ColumnRef)) := by
  refine scope.bind fun scope within => ofExcept ?_
  intro found run column member
  rw [Option.mem_def] at member
  subst member
  exact within.resolve run

theorem registerOutput (expr : Expr) (aliasName : Option Ident) (context : Context) :
    Parallel allowed like (fun _ => True)
      (Walk.registerOutput expr aliasName context : Walk σ Unit) := by
  refine (resolve expr context).bind fun found known => ?_
  cases found with
  | none =>
      exact pure trivial
  | some column =>
      refine scope.bind fun scope within => ?_
      refine (ofExcept fun registered run =>
        within.register (known column rfl) run).bind fun registered recorded => ?_
      exact changeScope fun _ _ => recorded

/-- A loop that gives back every item as it is gives back the list. -/
theorem mapM {idle : Prop} {step : α → Walk σ α} {items : List α}
    (each : ∀ item ∈ items, Parallel allowed like (Unaltered idle item) (step item)) :
    Parallel allowed like (Unaltered idle items) (items.mapM step) := by
  induction items with
  | nil =>
      rw [List.mapM_nil]
      exact pure fun _ => rfl
  | cons item rest inductionHypothesis =>
      rw [List.mapM_cons]
      refine (each item List.mem_cons_self).bind fun _ first => ?_
      refine (inductionHypothesis fun later member =>
        each later (List.mem_cons_of_mem _ member)).bind fun _ others => ?_
      exact pure fun still => by rw [first still, others still]

end Parallel

end Walk

/-- A visitor that cannot tell states apart that are alike, and as long as it is idle changes
nothing, where every table is allowed.  A visitor that is not idle may bring in other names. -/
structure Visitor.Parallel (visitor : Visitor σ) (allowed : String → Prop)
    (like : σ → σ → Prop) (idle : Prop) : Prop where
  confined : idle ∨ ∀ table, allowed table
  insert : ∀ insert : Insert, (∀ table ∈ insert.relationNames, allowed table) →
    Walk.Parallel allowed like (Unaltered idle insert) (visitor.insert insert)
  update : ∀ update : Update, (∀ table ∈ update.relationNames, allowed table) →
    Walk.Parallel allowed like (Unaltered idle update) (visitor.update update)
  membership : ∀ operand items context,
    Walk.Parallel allowed like (Unaltered idle none) (visitor.membership operand items context)
  operation : ∀ left operator right context,
    Walk.Parallel allowed like (Unaltered idle none) (visitor.operation left operator right context)
  column : ∀ expr (column : ColumnRef) context, allowed column.table →
    Walk.Parallel allowed like (Unaltered idle expr) (visitor.column expr column context)
  wildcard : Walk.Parallel allowed like (fun _ => True) visitor.wildcard
  unsupported : ∀ feature, Walk.Parallel allowed like (fun _ => True) (visitor.unsupported feature)
  other : Walk.Parallel allowed like (fun _ => True) visitor.other

namespace Visitor.Parallel

variable {visitor : Visitor σ} {allowed : String → Prop} {like : σ → σ → Prop} {idle : Prop}

theorem reference (parallel : visitor.Parallel allowed like idle) (context : Context)
    (expr : Expr) :
    Walk.Parallel allowed like (Unaltered idle expr) (visitor.reference context expr) := by
  refine (Walk.Parallel.resolve expr context).bind fun found known => ?_
  cases found with
  | none =>
      exact .pure fun _ => rfl
  | some column =>
      exact parallel.column expr column context (known column rfl)

theorem sweeps (parallel : visitor.Parallel allowed like idle) (context : Context) :
    Sweep.Obeys (Walk.Parallel.logic allowed like) idle
      ⟨visitor.reference context, fun _ => pure ()⟩ where
  column expr _ := parallel.reference context expr
  relation _ := .pure trivial

end Visitor.Parallel

/-- What is entered is the relation itself, and the walk through its conditions gives it back. -/
def Enters (allowed : String → Prop) (like : σ → σ → Prop) (idle : Prop) (relation : α)
    (entered : α × Walk σ α) : Prop :=
  Unaltered idle relation entered.1 ∧ Walk.Parallel allowed like (Unaltered idle relation) entered.2

namespace Visitor.Parallel

variable {visitor : Visitor σ} {allowed : String → Prop} {like : σ → σ → Prop} {idle : Prop}

/-! ## The syntax -/

mutual

theorem expr (parallel : visitor.Parallel allowed like idle) (context : Context) (expr : Expr)
    (known : ∀ table ∈ expr.relationNames, allowed table) :
    Walk.Parallel allowed like (Unaltered idle expr) (walkExpr visitor context expr) := by
  cases expr with
  | identifier ident =>
      rw [walkExpr]
      exact parallel.reference context _
  | compound parts =>
      rw [walkExpr]
      exact parallel.reference context _
  | value constant =>
      exact .pure fun _ => rfl
  | binary left operator right =>
      rw [walkExpr]
      rcases List.forall_mem_append.mp known with ⟨leftKnown, rightKnown⟩
      refine (parallel.operation left operator right context).bind fun found unchanged => ?_
      cases found with
      | some replacement =>
          exact .pure fun still => absurd (unchanged still) (Option.some_ne_none _)
      | none =>
          exact (parallel.expr context left leftKnown).bind fun _ first =>
            (parallel.expr context right rightKnown).bind fun _ second =>
              .pure fun still => by rw [first still, second still]
  | unary operator operand =>
      rw [walkExpr]
      exact (parallel.expr context operand known).bind fun _ first =>
        .pure fun still => by rw [first still]
  | nested inner =>
      rw [walkExpr]
      exact (parallel.expr context inner known).bind fun _ first =>
        .pure fun still => by rw [first still]
  | nullTest operand negated =>
      rw [walkExpr]
      exact (parallel.expr context operand known).bind fun _ first =>
        .pure fun still => by rw [first still]
  | inList operand negated items =>
      rw [walkExpr]
      rcases List.forall_mem_append.mp known with ⟨operandKnown, itemsKnown⟩
      refine (parallel.membership operand items context).bind fun found unchanged => ?_
      cases found with
      | some replacement =>
          exact .pure fun still => absurd (unchanged still) (Option.some_ne_none _)
      | none =>
          exact (parallel.expr context operand operandKnown).bind fun _ first =>
            (parallel.exprs context items itemsKnown).bind fun _ second =>
              .pure fun still => by rw [first still, second still]
  | inQuery operand negated body =>
      rw [walkExpr]
      rcases List.forall_mem_append.mp known with ⟨operandKnown, bodyKnown⟩
      exact (parallel.expr context operand operandKnown).bind fun _ first =>
        (Walk.Parallel.inFrame false (parallel.body false body bodyKnown)).bind fun _ second =>
          .pure fun still => by rw [first still, second still]
  | between operand negated low high =>
      rw [walkExpr]
      rcases List.forall_mem_append.mp known with ⟨lowerKnown, highKnown⟩
      rcases List.forall_mem_append.mp lowerKnown with ⟨operandKnown, lowKnown⟩
      exact (parallel.expr context operand operandKnown).bind fun _ first =>
        (parallel.expr context low lowKnown).bind fun _ second =>
          (parallel.expr context high highKnown).bind fun _ third =>
            .pure fun still => by rw [first still, second still, third still]
  | like operand negated word pattern escape =>
      rw [walkExpr]
      rcases List.forall_mem_append.mp known with ⟨operandKnown, patternKnown⟩
      exact (parallel.expr context operand operandKnown).bind fun _ first =>
        (parallel.expr context pattern patternKnown).bind fun _ second =>
          .pure fun still => by rw [first still, second still]
  | array named elements =>
      rw [walkExpr]
      exact (parallel.exprs context elements known).bind fun _ first =>
        .pure fun still => by rw [first still]
  | subquery query =>
      rw [walkExpr]
      exact (parallel.query false query known).bind fun _ first =>
        .pure fun still => by rw [first still]
  | existence negated query =>
      rw [walkExpr]
      exact (parallel.query false query known).bind fun _ first =>
        .pure fun still => by rw [first still]
  | call name opening late closing =>
      rw [walkExpr]
      exact (parallel.sweeps context).expr _
  | form parts =>
      rw [walkExpr]
      exact (parallel.sweeps context).expr _
termination_by structural expr

theorem exprs (parallel : visitor.Parallel allowed like idle) (context : Context)
    (exprs : List Expr) (known : ∀ table ∈ Expr.relationNamesAll exprs, allowed table) :
    Walk.Parallel allowed like (Unaltered idle exprs) (walkExprs visitor context exprs) := by
  cases exprs with
  | nil =>
      exact .pure fun _ => rfl
  | cons expr rest =>
      rw [walkExprs]
      rcases List.forall_mem_append.mp known with ⟨exprKnown, restKnown⟩
      exact (parallel.expr context expr exprKnown).bind fun _ first =>
        (parallel.exprs context rest restKnown).bind fun _ others =>
          .pure fun still => by rw [first still, others still]
termination_by structural exprs

theorem option (parallel : visitor.Parallel allowed like idle) (context : Context)
    (expr : Option Expr) (known : ∀ table ∈ Expr.relationNamesOption expr, allowed table) :
    Walk.Parallel allowed like (Unaltered idle expr) (walkOption visitor context expr) := by
  cases expr with
  | none =>
      exact .pure fun _ => rfl
  | some expr =>
      rw [walkOption]
      exact (parallel.expr context expr known).bind fun _ first =>
        .pure fun still => by rw [first still]
termination_by structural expr

theorem query (parallel : visitor.Parallel allowed like idle) (reaches : Bool) (query : Query)
    (known : ∀ table ∈ query.relationNames, allowed table) :
    Walk.Parallel allowed like (Unaltered idle query) (walkQuery visitor reaches query) := by
  cases query with
  | mk recursive ctes body order tail =>
      rw [walkQuery]
      rcases List.forall_mem_append.mp known with ⟨innerKnown, orderKnown⟩
      rcases List.forall_mem_append.mp innerKnown with ⟨ctesKnown, bodyKnown⟩
      exact (parallel.ctes ctes ctesKnown).bind fun _ first =>
        .inFrame reaches ((parallel.body reaches body bodyKnown).bind fun _ second =>
          (parallel.order order orderKnown).bind fun _ third =>
            .pure fun still => by rw [first still, second still, third still])
termination_by structural query

theorem ctes (parallel : visitor.Parallel allowed like idle) (ctes : List Cte)
    (known : ∀ table ∈ Cte.relationNamesAll ctes, allowed table) :
    Walk.Parallel allowed like (Unaltered idle ctes) (walkCtes visitor ctes) := by
  cases ctes with
  | nil =>
      exact .pure fun _ => rfl
  | cons cte rest =>
      cases cte with
      | mk aliasName materialized query origin =>
          rw [walkCtes]
          rcases List.forall_mem_append.mp known with ⟨queryKnown, restKnown⟩
          exact (parallel.query false query queryKnown).bind fun _ first =>
            (parallel.ctes rest restKnown).bind fun _ others =>
              .pure fun still => by rw [first still, others still]
termination_by structural ctes

theorem order (parallel : visitor.Parallel allowed like idle) (items : List OrderItem)
    (known : ∀ table ∈ OrderItem.relationNamesAll items, allowed table) :
    Walk.Parallel allowed like (Unaltered idle items) (walkOrder visitor items) := by
  cases items with
  | nil =>
      exact .pure fun _ => rfl
  | cons item rest =>
      cases item with
      | mk expr direction =>
          rw [walkOrder]
          rcases List.forall_mem_append.mp known with ⟨exprKnown, restKnown⟩
          exact (parallel.expr .ofOrderBy expr exprKnown).bind fun _ first =>
            (parallel.order rest restKnown).bind fun _ others =>
              .pure fun still => by rw [first still, others still]
termination_by structural items

theorem body (parallel : visitor.Parallel allowed like idle) (reaches : Bool) (body : QueryBody)
    (known : ∀ table ∈ body.relationNames, allowed table) :
    Walk.Parallel allowed like (Unaltered idle body) (walkBody visitor reaches body) := by
  cases body with
  | select select =>
      rw [walkBody]
      exact (parallel.select select known).bind fun _ first =>
        .pure fun still => by rw [first still]
  | parenthesized query =>
      rw [walkBody]
      exact (parallel.query reaches query known).bind fun _ first =>
        .pure fun still => by rw [first still]
  | combination left operator right =>
      exact .throw _
  | values explicitRow rows =>
      rw [walkBody]
      exact (parallel.rows rows known).bind fun _ first =>
        .pure fun still => by rw [first still]
  | table name =>
      exact .throw _
  | change parts =>
      exact .throw _
termination_by structural body

theorem rows (parallel : visitor.Parallel allowed like idle) (rows : List (List Expr))
    (known : ∀ table ∈ QueryBody.relationNamesOfRows rows, allowed table) :
    Walk.Parallel allowed like (Unaltered idle rows) (walkRows visitor rows) := by
  cases rows with
  | nil =>
      exact .pure fun _ => rfl
  | cons row rest =>
      rw [walkRows]
      rcases List.forall_mem_append.mp known with ⟨rowKnown, restKnown⟩
      exact (parallel.exprs .plain row rowKnown).bind fun _ first =>
        (parallel.rows rest restKnown).bind fun _ others =>
          .pure fun still => by rw [first still, others still]
termination_by structural rows

theorem select (parallel : visitor.Parallel allowed like idle) (select : Select)
    (known : ∀ table ∈ select.relationNames, allowed table) :
    Walk.Parallel allowed like (Unaltered idle select) (walkSelect visitor select) := by
  cases select with
  | mk lead projection target relations views condition groups grouping having tail =>
      rw [walkSelect]
      rcases List.forall_mem_append.mp known with ⟨groupsKnown, havingKnown⟩
      rcases List.forall_mem_append.mp groupsKnown with ⟨conditionKnown, groupsKnown⟩
      rcases List.forall_mem_append.mp conditionKnown with ⟨projectionKnown, conditionKnown⟩
      rcases List.forall_mem_append.mp projectionKnown with ⟨relationsKnown, projectionKnown⟩
      refine (parallel.enteringAll relations relationsKnown).bind fun entered enters => ?_
      exact Walk.Parallel.scope.bind fun scope _ =>
        (parallel.projection scope.returnsRows projection projectionKnown).bind fun _ projected =>
          enters.2.bind fun _ related =>
            (parallel.option .plain condition conditionKnown).bind fun _ conditioned =>
              (parallel.exprs .ofGroupBy groups groupsKnown).bind fun _ grouped =>
                (parallel.option .ofGroupBy having havingKnown).bind fun _ had =>
                  .pure fun still => by
                    rw [projected still, related still, conditioned still, grouped still,
                      had still]
termination_by structural select

theorem projection (parallel : visitor.Parallel allowed like idle) (reaches : Bool)
    (items : List SelectItem) (known : ∀ table ∈ SelectItem.relationNamesAll items, allowed table) :
    Walk.Parallel allowed like (Unaltered idle items) (walkProjection visitor reaches items) := by
  cases items with
  | nil =>
      exact .pure fun _ => rfl
  | cons item rest =>
      cases item with
      | expr shown =>
          rw [walkProjection]
          rcases List.forall_mem_append.mp known with ⟨shownKnown, restKnown⟩
          have shows : Walk.Parallel allowed like (Unaltered idle (.expr shown :: rest)) (do
              let newShown ← walkExpr visitor { selectBody := reaches } shown
              return .expr newShown :: (← walkProjection visitor reaches rest)) :=
            (parallel.expr _ shown shownKnown).bind fun _ first =>
              (parallel.projection reaches rest restKnown).bind fun _ others =>
                .pure fun still => by rw [first still, others still]
          cases reaches with
          | false =>
              exact shows
          | true =>
              exact (Walk.Parallel.registerOutput shown none _).bind fun _ _ => shows
      | aliased shown aliasName =>
          rw [walkProjection]
          rcases List.forall_mem_append.mp known with ⟨shownKnown, restKnown⟩
          have shows : Walk.Parallel allowed like
              (Unaltered idle (.aliased shown aliasName :: rest)) (do
              let newShown ← walkExpr visitor { selectBody := reaches } shown
              return .aliased newShown aliasName :: (← walkProjection visitor reaches rest)) :=
            (parallel.expr _ shown shownKnown).bind fun _ first =>
              (parallel.projection reaches rest restKnown).bind fun _ others =>
                .pure fun still => by rw [first still, others still]
          cases reaches with
          | false =>
              exact shows
          | true =>
              exact (Walk.Parallel.registerOutput shown (some aliasName) _).bind fun _ _ => shows
      | wildcard qualifier =>
          rw [walkProjection]
          exact parallel.wildcard.bind fun _ _ =>
            (parallel.projection reaches rest known).bind fun _ others =>
              .pure fun still => by rw [others still]
termination_by structural items

theorem entering (parallel : visitor.Parallel allowed like idle) (tables : TableWithJoins)
    (known : ∀ table ∈ tables.relationNames, allowed table) :
    Walk.Parallel allowed like (Enters allowed like idle tables) (enter visitor tables) := by
  cases tables with
  | mk relation joins =>
      rw [enter]
      rcases List.forall_mem_append.mp known with ⟨relationKnown, joinsKnown⟩
      refine (parallel.factor relation relationKnown).bind fun entered enters => ?_
      refine (parallel.joins joins joinsKnown).bind fun others entersOthers => ?_
      refine .pure ⟨fun still => ?_, ?_⟩
      · rw [enters.1 still, entersOthers.1 still]
      · exact enters.2.bind fun _ first => entersOthers.2.bind fun _ second =>
          .pure fun still => by rw [first still, second still]
termination_by structural tables

theorem enteringAll (parallel : visitor.Parallel allowed like idle)
    (relations : List TableWithJoins)
    (known : ∀ table ∈ TableWithJoins.relationNamesAll relations, allowed table) :
    Walk.Parallel allowed like (Enters allowed like idle relations)
      (enterAll visitor relations) := by
  cases relations with
  | nil =>
      exact .pure ⟨fun _ => rfl, .pure fun _ => rfl⟩
  | cons tables rest =>
      rw [enterAll]
      rcases List.forall_mem_append.mp known with ⟨tablesKnown, restKnown⟩
      refine (parallel.entering tables tablesKnown).bind fun entered enters => ?_
      refine (parallel.enteringAll rest restKnown).bind fun others entersOthers => ?_
      refine .pure ⟨fun still => ?_, ?_⟩
      · rw [enters.1 still, entersOthers.1 still]
      · exact enters.2.bind fun _ first => entersOthers.2.bind fun _ second =>
          .pure fun still => by rw [first still, second still]
termination_by structural relations

theorem joins (parallel : visitor.Parallel allowed like idle) (joins : List Join)
    (known : ∀ table ∈ Join.relationNamesAll joins, allowed table) :
    Walk.Parallel allowed like (Enters allowed like idle joins) (enterJoins visitor joins) := by
  cases joins with
  | nil =>
      exact .pure ⟨fun _ => rfl, .pure fun _ => rfl⟩
  | cons join rest =>
      cases join with
      | mk words relation matching constraint =>
          rw [enterJoins]
          rcases List.forall_mem_append.mp known with ⟨innerKnown, restKnown⟩
          rcases List.forall_mem_append.mp innerKnown with ⟨relationKnown, constraintKnown⟩
          refine (parallel.factor relation relationKnown).bind fun entered enters => ?_
          refine (parallel.joins rest restKnown).bind fun others entersOthers => ?_
          refine .pure ⟨fun still => ?_, ?_⟩
          · rw [enters.1 still, entersOthers.1 still]
          · exact enters.2.bind fun _ first =>
              (parallel.constraint constraint constraintKnown).bind fun _ second =>
                entersOthers.2.bind fun _ third =>
                  .pure fun still => by rw [first still, second still, third still]
termination_by structural joins

theorem factor (parallel : visitor.Parallel allowed like idle) (factor : TableFactor)
    (known : ∀ table ∈ factor.relationNames, allowed table) :
    Walk.Parallel allowed like (Enters allowed like idle factor) (enterFactor visitor factor) := by
  cases factor with
  | table name arguments aliasName tail =>
      rw [enterFactor]
      cases named : name.last? with
      | none =>
          exact .pure ⟨fun _ => rfl, .pure fun _ => rfl⟩
      | some table =>
          have tableKnown : allowed table := by
            apply known
            simp [TableFactor.relationNames, named]
          exact (Walk.Parallel.addTable _ tableKnown).bind fun _ _ =>
            .pure ⟨fun _ => rfl, .pure fun _ => rfl⟩
  | derived isLateral query aliasName =>
      rw [enterFactor]
      rcases List.forall_mem_append.mp known with ⟨queryKnown, aliasKnown⟩
      exact (parallel.query false query queryKnown).bind fun _ first =>
        (Walk.Parallel.addAlias aliasKnown).bind fun _ _ =>
          .pure ⟨fun still => by rw [first still], .pure fun still => by rw [first still]⟩
  | nestedJoin inner aliasName =>
      rw [enterFactor]
      rcases List.forall_mem_append.mp known with ⟨innerKnown, aliasKnown⟩
      refine (parallel.entering inner innerKnown).bind fun entered enters => ?_
      refine (Walk.Parallel.addAlias aliasKnown).bind fun _ _ => ?_
      refine .pure ⟨fun still => ?_, ?_⟩
      · rw [enters.1 still]
      · exact enters.2.bind fun _ first => .pure fun still => by rw [first still]
  | function parts aliasName tail =>
      rw [enterFactor]
      exact (Walk.Parallel.addAlias known).bind fun _ _ =>
        (parallel.unsupported _).bind fun _ _ => .pure ⟨fun _ => rfl, .pure fun _ => rfl⟩
termination_by structural factor

theorem constraint (parallel : visitor.Parallel allowed like idle) (constraint : JoinConstraint)
    (known : ∀ table ∈ constraint.relationNames, allowed table) :
    Walk.Parallel allowed like (Unaltered idle constraint) (walkConstraint visitor constraint) := by
  cases constraint with
  | none =>
      exact .pure fun _ => rfl
  | on condition =>
      rw [walkConstraint]
      exact (parallel.expr .ofJoin condition known).bind fun _ first =>
        .pure fun still => by rw [first still]
  | sharing columns =>
      rw [walkConstraint]
      exact (parallel.unsupported _).bind fun _ _ => .pure fun _ => rfl
  | natural =>
      rw [walkConstraint]
      exact (parallel.unsupported _).bind fun _ _ => .pure fun _ => rfl
termination_by structural constraint

end

/-! ## Statements -/

/-- The names in what is given back are known if those of the item are. -/
theorem known_of_unaltered (parallel : visitor.Parallel allowed like idle) (names : α → List String)
    {item result : α} (known : ∀ table ∈ names item, allowed table)
    (returned : Unaltered idle item result) : ∀ table ∈ names result, allowed table := by
  rcases parallel.confined with still | every
  · rw [returned still]
    exact known
  · exact fun table _ => every table

theorem assignments (parallel : visitor.Parallel allowed like idle)
    (assignments : List Assignment)
    (known : ∀ table ∈ Assignment.relationNamesAll assignments, allowed table) :
    Walk.Parallel allowed like (Unaltered idle assignments)
      (walkAssignments visitor assignments) := by
  rw [walkAssignments]
  refine .mapM fun assignment member => ?_
  have valueKnown : ∀ table ∈ assignment.value.relationNames, allowed table := by
    intro table inside
    exact known table (List.mem_flatMap.mpr ⟨assignment, member, inside⟩)
  exact (parallel.expr .plain assignment.value valueKnown).bind fun _ first =>
    .pure fun still => by rw [first still]

theorem returning (parallel : visitor.Parallel allowed like idle)
    (items : Option (List SelectItem))
    (known : ∀ table ∈ SelectItem.relationNamesReturned items, allowed table) :
    Walk.Parallel allowed like (Unaltered idle items) (walkReturning visitor items) := by
  cases items with
  | none =>
      exact .pure fun _ => rfl
  | some items =>
      exact Walk.Parallel.scope.bind fun scope _ =>
        (parallel.projection scope.returnsRows items known).bind fun _ first =>
          .pure fun still => by rw [first still]

theorem source (parallel : visitor.Parallel allowed like idle) (source : Option Query)
    (known : ∀ table ∈ source.toList.flatMap Query.relationNames, allowed table) :
    Walk.Parallel allowed like (Unaltered idle source) (walkSource visitor source) := by
  unfold walkSource
  split
  · exact .pure fun _ => rfl
  · rename_i recursive ctes explicitRow rows order tail
    have rowsKnown : ∀ table ∈ QueryBody.relationNamesOfRows rows, allowed table := by
      intro table inside
      apply known
      simp [Query.relationNames, QueryBody.relationNames, inside]
    exact (parallel.rows rows rowsKnown).bind fun _ first =>
      .pure fun still => by rw [first still]
  · rename_i query _
    have queryKnown : ∀ table ∈ query.relationNames, allowed table := by
      simpa using known
    exact (parallel.query false query queryKnown).bind fun _ first =>
      .pure fun still => by rw [first still]

/-- The target of an insertion comes into scope, if it has names. -/
theorem target (table reference : Option String) {ensured : α → Prop} {next : Walk σ α}
    (known : ∀ name ∈ table, allowed name) (later : Walk.Parallel allowed like ensured next) :
    Walk.Parallel allowed like ensured (do
      if let some table := table then
        if let some reference := reference then Walk.addTable reference table
      next) := by
  cases table with
  | none =>
      exact later
  | some table =>
      cases reference with
      | none =>
          exact later
      | some reference =>
          exact (Walk.Parallel.addTable reference (known table rfl)).bind fun _ _ => later

theorem conflict (parallel : visitor.Parallel allowed like idle) {reference table : Option String}
    (rule : ConflictRule) (tableKnown : ∀ name ∈ table, allowed name)
    (known : ∀ table ∈ rule.relationNames, allowed table) :
    Walk.Parallel allowed like (Unaltered idle rule)
      (walkConflict visitor reference table rule) := by
  cases rule with
  | none =>
      exact .pure fun _ => rfl
  | words text =>
      exact .pure fun _ => rfl
  | assign words assignments condition =>
      rcases List.forall_mem_append.mp known with ⟨assignmentsKnown, conditionKnown⟩
      have settling : Walk.Parallel allowed like
          (Unaltered idle (ConflictRule.assign words assignments condition)) (do
            let assignments ← walkAssignments visitor assignments
            let condition ← walkOption visitor .plain condition
            return ConflictRule.assign words assignments condition) :=
        (parallel.assignments assignments assignmentsKnown).bind fun _ first =>
          (parallel.option .plain condition conditionKnown).bind fun _ second =>
            .pure fun still => by rw [first still, second still]
      have inner := Walk.Parallel.inFrame false (target table reference tableKnown settling)
      cases table with
      | none =>
          exact .inFrame false inner
      | some table =>
          exact .inFrame false
            ((Walk.Parallel.addTable _ (tableKnown table rfl)).bind fun _ _ => inner)

theorem insertion (parallel : visitor.Parallel allowed like idle) (insert : Insert)
    (known : ∀ table ∈ insert.relationNames, allowed table) :
    Walk.Parallel allowed like (Unaltered idle insert) (walkInsert visitor insert) := by
  rw [walkInsert]
  refine (parallel.insert insert known).bind fun treated returned => ?_
  have treatedKnown := parallel.known_of_unaltered _ known returned
  rcases List.forall_mem_append.mp treatedKnown with ⟨treatedKnown, returningKnown⟩
  rcases List.forall_mem_append.mp treatedKnown with ⟨treatedKnown, conflictKnown⟩
  rcases List.forall_mem_append.mp treatedKnown with ⟨targetKnown, sourceKnown⟩
  have tableKnown : ∀ name ∈ treated.table.last?, allowed name := by
    intro name member
    exact targetKnown name (Option.mem_toList.mpr member)
  have inside : Walk.Parallel allowed like (Unaltered idle treated) (do
      let source ← walkSource visitor treated.source
      let returning ← walkReturning visitor treated.returning
      return { treated with source, returning }) :=
    (parallel.source treated.source sourceKnown).bind fun _ first =>
      (parallel.returning treated.returning returningKnown).bind fun _ second =>
        .pure fun still => by rw [first still, second still]
  refine (Walk.Parallel.inFrame true (target _ _ tableKnown inside)).bind fun filled same => ?_
  have filledKnown := parallel.known_of_unaltered (fun insert => insert.conflict.relationNames)
    conflictKnown same
  exact (parallel.conflict filled.conflict tableKnown filledKnown).bind fun _ settled =>
    .pure fun still => by rw [settled still, same still, returned still]

theorem alteration (parallel : visitor.Parallel allowed like idle) (update : Update)
    (known : ∀ table ∈ update.relationNames, allowed table) :
    Walk.Parallel allowed like (Unaltered idle update) (walkUpdate visitor update) := by
  rw [walkUpdate]
  refine (parallel.update update known).bind fun treated returned => .inFrame true ?_
  have treatedKnown := parallel.known_of_unaltered _ known returned
  rcases List.forall_mem_append.mp treatedKnown with ⟨treatedKnown, returningKnown⟩
  rcases List.forall_mem_append.mp treatedKnown with ⟨treatedKnown, conditionKnown⟩
  rcases List.forall_mem_append.mp treatedKnown with ⟨treatedKnown, assignmentsKnown⟩
  rcases List.forall_mem_append.mp treatedKnown with ⟨tableKnown, relationsKnown⟩
  refine (parallel.entering treated.table tableKnown).bind fun own ownEnters => ?_
  have ending {table : TableWithJoins} {relations : Option (Bool × List TableWithJoins)}
      (sameTable : Unaltered idle treated.table table)
      (sameRelations : Unaltered idle treated.relations relations) :
      Walk.Parallel allowed like (Unaltered idle update) (do
        let assignments ← walkAssignments visitor treated.assignments
        let condition ← walkOption visitor .plain treated.condition
        let returning ← walkReturning visitor treated.returning
        return { treated with table, relations, assignments, condition, returning }) :=
    (parallel.assignments treated.assignments assignmentsKnown).bind fun _ first =>
      (parallel.option .plain treated.condition conditionKnown).bind fun _ second =>
        (parallel.returning treated.returning returningKnown).bind fun _ third =>
          .pure fun still => by
            rw [first still, second still, third still, sameTable still, sameRelations still,
              returned still]
  cases found : treated.relations with
  | none =>
      rw [found] at ending
      exact ownEnters.2.bind fun table sameTable => ending sameTable fun _ => rfl
  | some further =>
      rw [found] at ending relationsKnown
      refine (parallel.enteringAll further.2 (by simpa using relationsKnown)).bind
        fun others othersEnter => ?_
      exact ownEnters.2.bind fun table sameTable =>
        othersEnter.2.bind fun relations sameRelations =>
          ending sameTable fun still => by rw [sameRelations still]

theorem deletion (parallel : visitor.Parallel allowed like idle) (delete : Delete)
    (known : ∀ table ∈ delete.relationNames, allowed table) :
    Walk.Parallel allowed like (Unaltered idle delete) (walkDelete visitor delete) := by
  rw [walkDelete]
  refine .inFrame true ?_
  rcases List.forall_mem_append.mp known with ⟨known, returningKnown⟩
  rcases List.forall_mem_append.mp known with ⟨known, conditionKnown⟩
  rcases List.forall_mem_append.mp known with ⟨relationsKnown, furtherKnown⟩
  refine (parallel.enteringAll delete.relations relationsKnown).bind fun relations enters => ?_
  have ending {further : Option (List TableWithJoins)}
      (sameFurther : Unaltered idle delete.further further) :
      Walk.Parallel allowed like (Unaltered idle delete) (do
        let condition ← walkOption visitor .plain delete.condition
        let returning ← walkReturning visitor delete.returning
        return { delete with relations := relations.1, further, condition, returning }) :=
    (parallel.option .plain delete.condition conditionKnown).bind fun _ first =>
      (parallel.returning delete.returning returningKnown).bind fun _ second =>
        .pure fun still => by
          rw [enters.1 still, first still, second still, sameFurther still]
  cases found : delete.further with
  | none =>
      rw [found] at ending
      exact ending fun _ => rfl
  | some further =>
      rw [found] at ending furtherKnown
      exact (parallel.enteringAll further (by simpa using furtherKnown)).bind
        fun others othersEnter => ending fun still => by rw [othersEnter.1 still]

theorem naming {tables : List String} (known : ∀ table ∈ tables, allowed table)
    {ensured : α → Prop} {next : Walk σ α} (later : Walk.Parallel allowed like ensured next) :
    Walk.Parallel allowed like ensured (do
      for table in tables do Walk.addTable table table
      next) := by
  induction tables with
  | nil =>
      exact later
  | cons table rest inductionHypothesis =>
      simp only [List.forIn_cons, bind_assoc, pure_bind] at inductionHypothesis ⊢
      refine (Walk.Parallel.addTable table (known table List.mem_cons_self)).bind fun _ _ => ?_
      exact inductionHypothesis fun later member => known later (List.mem_cons_of_mem _ member)

theorem statement (parallel : visitor.Parallel allowed like idle) (statement : Statement)
    (known : ∀ table ∈ statement.relationNames, allowed table) :
    Walk.Parallel allowed like (Unaltered idle statement) (walkStatement visitor statement) := by
  induction statement with
  | query query =>
      exact (parallel.query true query known).bind fun _ first =>
        .pure fun still => by rw [first still]
  | insert insert =>
      exact (parallel.insertion insert known).bind fun _ first =>
        .pure fun still => by rw [first still]
  | update update =>
      exact (parallel.alteration update known).bind fun _ first =>
        .pure fun still => by rw [first still]
  | delete delete =>
      exact (parallel.deletion delete known).bind fun _ first =>
        .pure fun still => by rw [first still]
  | explain words statement inductionHypothesis =>
      exact (inductionHypothesis known).bind fun _ first =>
        .pure fun still => by rw [first still]
  | definition parts =>
      exact .throw _
  | utility parts =>
      exact .inFrame false (naming known (parallel.other.bind fun _ _ => .pure fun _ => rfl))

/-- The run lemma for texts: their statements go in parallel, one behind the other. -/
theorem statementsFrom (parallel : visitor.Parallel allowed like idle)
    {statements : List Statement}
    (known : ∀ statement ∈ statements, ∀ table ∈ statement.relationNames, allowed table) :
    Walk.Parallel allowed like (Unaltered idle statements)
      (walkStatementsFrom visitor statements) := by
  induction statements with
  | nil =>
      exact .pure fun _ => rfl
  | cons statement rest inductionHypothesis =>
      refine (Walk.Parallel.changeScope fun _ within => within.beginStatement).bind fun _ _ => ?_
      refine (parallel.statement statement (known statement List.mem_cons_self)).bind
        fun _ first => ?_
      refine (inductionHypothesis fun later member =>
        known later (List.mem_cons_of_mem _ member)).bind fun _ others => ?_
      exact .pure fun still => by rw [first still, others still]

/-- Whatever was in scope before, a text is walked through in a new scope. -/
theorem run_walkStatements (parallel : visitor.Parallel allowed like idle)
    (statements : List Statement)
    (known : ∀ statement ∈ statements, ∀ table ∈ statement.relationNames, allowed table)
    (first second : Traversal σ) (alike : like first.own second.own) :
    ((walkStatements visitor statements).run.run first).1 =
        ((walkStatements visitor statements).run.run second).1 ∧
      ((walkStatements visitor statements).run.run first).2.Alike allowed like
        ((walkStatements visitor statements).run.run second).2 ∧
      ∀ results, ((walkStatements visitor statements).run.run first).1 = .ok results →
        Unaltered idle statements results := by
  have reset : Traversal.Alike allowed like { first with scope := {} }
      { second with scope := {} } := ⟨rfl, Scope.within_empty, alike⟩
  exact parallel.statementsFrom known reset

end Visitor.Parallel

end ColumnVeil
