import ColumnVeil.Proofs.Traversal.Selection
import ColumnVeil.Proofs.Traversal.Insertion

/-!
# Statements of a text

What holds behind every step of a walk holds behind every statement, and so behind every
statement of a text.  The statement at an index is walked through behind those before it, in
a scope of its own.
-/

namespace ColumnVeil

open Sql

variable {σ α β : Type} {related : Traversal σ → Traversal σ → Prop}

namespace Walk

/-- A successful walk relates the states before and after it. -/
def Keeps (related : Traversal σ → Traversal σ → Prop) (walk : Walk σ α) : Prop :=
  ∀ ⦃before after : Traversal σ⦄ ⦃value : α⦄, Gives walk before value after → related before after

namespace Keeps

theorem of_moves {change : Scope → Scope} {ensured : α → Prop} {walk : Walk σ α}
    (moves : Moves change related ensured walk) : Keeps related walk := by
  intro before after value run
  exact (moves run).2.1

theorem throw (failure : Failure) : Keeps related (MonadExcept.throw failure : Walk σ α) := by
  intro before after result run
  exact absurd run not_gives_throw

variable [Steady related]

theorem pure (value : α) : Keeps related (Pure.pure value : Walk σ α) := by
  intro before after result run
  rcases gives_pure_iff.mp run with ⟨rfl, rfl⟩
  exact Steady.refl before

theorem bind {walk : Walk σ α} {next : α → Walk σ β} (first : Keeps related walk)
    (second : ∀ value, Keeps related (next value)) : Keeps related (walk >>= next) := by
  intro before after result run
  rcases gives_bind_iff.mp run with ⟨value, middle, firstRun, secondRun⟩
  exact Steady.trans (first firstRun) (second value secondRun)

/-- What a walk is known to give matters to the walk behind it. -/
theorem bind_of_moves {change : Scope → Scope} {ensured : α → Prop} {walk : Walk σ α}
    {next : α → Walk σ β} (first : Moves change related ensured walk)
    (second : ∀ value, ensured value → Keeps related (next value)) :
    Keeps related (walk >>= next) := by
  intro before after result run
  rcases gives_bind_iff.mp run with ⟨value, middle, firstRun, secondRun⟩
  rcases first firstRun with ⟨-, states, holds⟩
  exact Steady.trans states (second value holds secondRun)

theorem scope : Keeps related (Walk.scope : Walk σ Scope) := by
  intro before after result run
  rcases gives_scope_iff.mp run with ⟨-, rfl⟩
  exact Steady.refl before

theorem addTable (name table : String) : Keeps related (Walk.addTable name table : Walk σ Unit) := by
  intro before after result run
  rcases gives_addTable_iff.mp run with rfl
  exact Steady.add before name table

theorem inFrame {returnsRows : Bool} {body : Walk σ α} (inside : Keeps related body) :
    Keeps related (Walk.inFrame returnsRows body) := by
  intro before after result run
  rcases gives_inFrame_iff.mp run with ⟨inner, bodyRun, rfl⟩
  exact Steady.trans (Steady.frames before _)
    (Steady.trans (inside bodyRun) (Steady.frames inner _))

theorem mapM {step : α → Walk σ β} (each : ∀ item, Keeps related (step item)) (items : List α) :
    Keeps related (items.mapM step) := by
  induction items with
  | nil =>
      rw [List.mapM_nil]
      exact pure []
  | cons item rest inductionHypothesis =>
      rw [List.mapM_cons]
      exact (each item).bind fun _ => inductionHypothesis.bind fun _ => pure _

/-- What is said of walks by `Keeps` can be said of sequences and loops. -/
def logic (related : Traversal σ → Traversal σ → Prop) [Steady related] : Walk.Logic σ where
  holds ensured walk := ∀ ⦃before after value⦄, Gives walk before value after →
    related before after ∧ ensured value
  pure holds before after result run := by
    rcases gives_pure_iff.mp run with ⟨rfl, rfl⟩
    exact ⟨Steady.refl before, holds⟩
  bind first second before after result run := by
    rcases gives_bind_iff.mp run with ⟨value, middle, firstRun, secondRun⟩
    rcases first firstRun with ⟨firstRelated, holds⟩
    rcases second value holds secondRun with ⟨secondRelated, ends⟩
    exact ⟨Steady.trans firstRelated secondRelated, ends⟩
  throw _ _ _ _ run := absurd run not_gives_throw

end Keeps

end Walk

/-- A visitor that respects a relation between states wherever it is asked. -/
structure Visitor.Steadfast (visitor : Visitor σ) (related : Traversal σ → Traversal σ → Prop) :
    Prop where
  tame : visitor.Tame (fun _ => false) related
  insert : ∀ insert, Walk.Keeps related (visitor.insert insert)
  update : ∀ update, Walk.Keeps related (visitor.update update)
  other : Walk.Keeps related visitor.other

namespace Visitor.Steadfast

variable [Steady related] {visitor : Visitor σ}

theorem unmarked (operations : List Operation) : Harmless (fun _ => false) operations :=
  fun operation _ => operation.harmless_of_unmarked

theorem expr (steadfast : visitor.Steadfast related) (context : Context) (expr : Expr) :
    Walk.Keeps related (walkExpr visitor context expr) :=
  .of_moves (walkExpr_stays steadfast.tame context expr (unmarked _))

theorem option (steadfast : visitor.Steadfast related) (context : Context) (expr : Option Expr) :
    Walk.Keeps related (walkOption visitor context expr) :=
  .of_moves (walkOption_stays steadfast.tame context expr (unmarked _))

theorem query (steadfast : visitor.Steadfast related) (reaches : Bool) (query : Query) :
    Walk.Keeps related (walkQuery visitor reaches query) :=
  .of_moves (walkQuery_moves steadfast.tame reaches query (unmarked _))

theorem assignments (steadfast : visitor.Steadfast related) (assignments : List Assignment) :
    Walk.Keeps related (walkAssignments visitor assignments) := by
  rw [walkAssignments]
  refine .mapM (fun assignment => ?_) assignments
  exact (steadfast.expr .plain assignment.value).bind fun _ => .pure _

theorem returning (steadfast : visitor.Steadfast related) (items : Option (List SelectItem)) :
    Walk.Keeps related (walkReturning visitor items) := by
  cases items with
  | none =>
      exact .pure none
  | some items =>
      exact Walk.Keeps.scope.bind fun scope =>
        (Walk.Keeps.of_moves (walkProjection_moves steadfast.tame scope.returnsRows items
          (unmarked _))).bind fun _ => .pure _

theorem source (steadfast : visitor.Steadfast related) (source : Option Query) :
    Walk.Keeps related (walkSource visitor source) := by
  unfold walkSource
  split
  · exact .pure none
  · rename_i recursive ctes explicitRow rows order tail
    exact (Walk.Keeps.of_moves (walkRows_stays steadfast.tame rows (unmarked _))).bind
      fun _ => .pure _
  · exact (steadfast.query false _).bind fun _ => .pure _

/-- What is left of a walk after relations have been entered. -/
theorem entry (steadfast : visitor.Steadfast related) {τ : Type}
    {names : τ → List (String × String)} {conditions : τ → List Expr}
    {derived : τ → List Operation} {entered : τ} {later : Walk σ τ}
    (entry : Entry visitor (fun _ => false) names conditions derived entered later) :
    Walk.Keeps related later := by
  intro before after result run
  have walk := (entry.walks run).1
  exact (walkExprs_stays steadfast.tame .ofJoin _ (unmarked _) walk).2.1

/-- The target of an insertion comes into scope, if it has names. -/
theorem target (table reference : Option String) {next : Walk σ α}
    (keeps : Walk.Keeps related next) :
    Walk.Keeps related (do
      if let some table := table then
        if let some reference := reference then Walk.addTable reference table
      next) := by
  cases table with
  | none =>
      exact keeps
  | some table =>
      cases reference with
      | none =>
          exact keeps
      | some reference =>
          exact (Walk.Keeps.addTable reference table).bind fun _ => keeps

theorem conflict (steadfast : visitor.Steadfast related) (reference table : Option String)
    (rule : ConflictRule) : Walk.Keeps related (walkConflict visitor reference table rule) := by
  cases rule with
  | assign words assignments condition =>
      have settling : Walk.Keeps related (do
          let assignments ← walkAssignments visitor assignments
          let condition ← walkOption visitor .plain condition
          return ConflictRule.assign words assignments condition) :=
        (steadfast.assignments assignments).bind fun _ =>
          (steadfast.option .plain condition).bind fun _ => .pure _
      cases table with
      | none =>
          exact .inFrame (.inFrame (target none reference settling))
      | some table =>
          exact .inFrame ((Walk.Keeps.addTable _ _).bind fun _ =>
            .inFrame (target (some table) reference settling))
  | none =>
      exact .pure _
  | words text =>
      exact .pure _

theorem insertion (steadfast : visitor.Steadfast related) (insert : Insert) :
    Walk.Keeps related (walkInsert visitor insert) := by
  rw [walkInsert]
  refine (steadfast.insert insert).bind fun insert => ?_
  have inside : Walk.Keeps related (do
      let source ← walkSource visitor insert.source
      let returning ← walkReturning visitor insert.returning
      return { insert with source, returning }) :=
    (steadfast.source insert.source).bind fun _ =>
      (steadfast.returning insert.returning).bind fun _ => .pure _
  exact (Walk.Keeps.inFrame (target _ _ inside)).bind fun target =>
    (steadfast.conflict _ _ target.conflict).bind fun _ => .pure _

theorem alteration (steadfast : visitor.Steadfast related) (update : Update) :
    Walk.Keeps related (walkUpdate visitor update) := by
  rw [walkUpdate]
  refine (steadfast.update update).bind fun update => .inFrame ?_
  refine .bind_of_moves (enter_moves steadfast.tame update.table (unmarked _))
    fun own ownEntry => ?_
  have ending (table : TableWithJoins) (relations : Option (Bool × List TableWithJoins)) :
      Walk.Keeps related (do
        let assignments ← walkAssignments visitor update.assignments
        let condition ← walkOption visitor .plain update.condition
        let returning ← walkReturning visitor update.returning
        return { update with table, relations, assignments, condition, returning }) :=
    (steadfast.assignments update.assignments).bind fun _ =>
      (steadfast.option .plain update.condition).bind fun _ =>
        (steadfast.returning update.returning).bind fun _ => .pure _
  cases found : update.relations with
  | none =>
      exact (steadfast.entry ownEntry).bind fun table => ending table none
  | some further =>
      refine .bind_of_moves (enterAll_moves steadfast.tame further.2 (unmarked _))
        fun others othersEntry => ?_
      exact (steadfast.entry ownEntry).bind fun table =>
        (steadfast.entry othersEntry).bind fun relations => ending table _

theorem deletion (steadfast : visitor.Steadfast related) (delete : Delete) :
    Walk.Keeps related (walkDelete visitor delete) := by
  rw [walkDelete]
  refine .inFrame ?_
  refine .bind_of_moves (enterAll_moves steadfast.tame delete.relations (unmarked _))
    fun relations _ => ?_
  have ending (relations : List TableWithJoins) (further : Option (List TableWithJoins)) :
      Walk.Keeps related (do
        let condition ← walkOption visitor .plain delete.condition
        let returning ← walkReturning visitor delete.returning
        return { delete with relations, further, condition, returning }) :=
    (steadfast.option .plain delete.condition).bind fun _ =>
      (steadfast.returning delete.returning).bind fun _ => .pure _
  cases found : delete.further with
  | none =>
      exact ending relations.1 none
  | some further =>
      exact .bind_of_moves (enterAll_moves steadfast.tame further (unmarked _))
        fun others _ => ending relations.1 (some others.1)

theorem naming (tables : List String) (next : Walk σ α) (keeps : Walk.Keeps related next) :
    Walk.Keeps related (do
      for table in tables do Walk.addTable table table
      next) := by
  induction tables with
  | nil =>
      exact keeps
  | cons table rest inductionHypothesis =>
      simp only [List.forIn_cons, bind_assoc, pure_bind] at inductionHypothesis ⊢
      exact (Walk.Keeps.addTable table table).bind fun _ => inductionHypothesis

/-- Every statement relates the states before and after it. -/
theorem statement (steadfast : visitor.Steadfast related) (statement : Statement) :
    Walk.Keeps related (walkStatement visitor statement) := by
  induction statement with
  | query query =>
      exact (steadfast.query true query).bind fun _ => .pure _
  | insert insert =>
      exact (steadfast.insertion insert).bind fun _ => .pure _
  | update update =>
      exact (steadfast.alteration update).bind fun _ => .pure _
  | delete delete =>
      exact (steadfast.deletion delete).bind fun _ => .pure _
  | explain words statement inductionHypothesis =>
      exact inductionHypothesis.bind fun _ => .pure _
  | definition parts =>
      exact .throw _
  | utility parts =>
      exact .inFrame (naming _ _ (steadfast.other.bind fun _ => .pure _))

end Visitor.Steadfast

/-! ## Texts -/

/-- A property of the states between statements, by their number, that each one preserves. -/
theorem holds_of_gives_walkStatementsFrom {visitor : Visitor σ} {holds : Nat → Traversal σ → Prop}
    (step : ∀ {count statement walked} {before after : Traversal σ}, holds count before →
      Gives (walkStatement visitor statement)
        { before with scope := before.scope.beginStatement } walked after →
          holds (count + 1) after)
    {statements result : List Statement} {count : Nat} {before after : Traversal σ}
    (start : holds count before)
    (run : Gives (walkStatementsFrom visitor statements) before result after) :
    holds (count + statements.length) after := by
  induction statements generalizing count before result with
  | nil =>
      rcases gives_pure_iff.mp run with ⟨rfl, rfl⟩
      exact start
  | cons statement rest inductionHypothesis =>
      simp only [walkStatementsFrom, gives_bind_iff, gives_pure_iff,
        Walk.gives_changeScope_iff] at run
      rcases run with ⟨_, _, rfl, walked, middle, walk, others, _, restRun, rfl, rfl⟩
      have later := inductionHypothesis (step start walk) restRun
      rw [List.length_cons, Nat.add_comm rest.length, ← Nat.add_assoc]
      exact later

/--
The walk through a text, taken apart at the statement at an index: the statements before it, the
statement in a scope that it begins, and those behind it.  The statements up to this one and with
it are texts of their own.
-/
theorem exists_visit_at {visitor : Visitor σ} {statements result : List Statement}
    {before after : Traversal σ} {index : Nat} {statement : Statement}
    (run : Gives (walkStatementsFrom visitor statements) before result after)
    (found : statements[index]? = some statement) :
    ∃ start walked last, result[index]? = some walked ∧
      Gives (walkStatementsFrom visitor (statements.take index)) before (result.take index) start ∧
        Gives (walkStatement visitor statement)
          { start with scope := start.scope.beginStatement } walked last ∧
          Gives (walkStatementsFrom visitor (statements.take (index + 1))) before
            (result.take (index + 1)) last ∧
            Gives (walkStatementsFrom visitor (statements.drop (index + 1))) last
              (result.drop (index + 1)) after := by
  induction statements generalizing index before result with
  | nil =>
      cases found
  | cons head rest inductionHypothesis =>
      simp only [walkStatementsFrom, gives_bind_iff, gives_pure_iff,
        Walk.gives_changeScope_iff] at run
      rcases run with ⟨_, _, rfl, walked, middle, walk, others, last, restRun, rfl, rfl⟩
      -- What a walk comes to behind the first statement is what it comes to from the start.
      have behind {statements results : List Statement} {reached : Traversal σ}
          (later : Gives (walkStatementsFrom visitor statements) middle results reached) :
          Gives (walkStatementsFrom visitor (head :: statements)) before (walked :: results)
            reached := by
        simp only [walkStatementsFrom, gives_bind_iff, gives_pure_iff,
          Walk.gives_changeScope_iff]
        exact ⟨(), _, rfl, walked, middle, walk, results, reached, later, rfl, rfl⟩
      cases index with
      | zero =>
          cases found
          exact ⟨before, walked, middle, rfl, gives_pure_iff.mpr ⟨rfl, rfl⟩, walk,
            behind (gives_pure_iff.mpr ⟨rfl, rfl⟩), restRun⟩
      | succ index =>
          rcases inductionHypothesis restRun found with
            ⟨start, newStatement, reached, place, earlierRun, statementRun, throughRun, laterRun⟩
          exact ⟨start, newStatement, reached, place, behind earlierRun, statementRun,
            behind throughRun, laterRun⟩

/--
The walk through a text, taken apart at the statement at an index: those before it,
the statement in a scope that it begins, and those behind it.
-/
theorem exists_walk_at {visitor : Visitor σ} {statements result : List Statement}
    {before after : Traversal σ} {index : Nat} {statement : Statement}
    (run : Gives (walkStatementsFrom visitor statements) before result after)
    (found : statements[index]? = some statement) :
    ∃ earlier newEarlier start walked last later newLater,
      earlier.length = index ∧ result[index]? = some walked ∧
        Gives (walkStatementsFrom visitor earlier) before newEarlier start ∧
          Gives (walkStatement visitor statement)
            { start with scope := start.scope.beginStatement } walked last ∧
              Gives (walkStatementsFrom visitor later) last newLater after := by
  rcases exists_visit_at run found with
    ⟨start, walked, last, place, earlierRun, walk, -, laterRun⟩
  have length : (statements.take index).length = index := by
    rw [List.length_take]
    exact Nat.min_eq_left (Nat.le_of_lt (List.getElem?_eq_some_iff.mp found).1)
  exact ⟨_, _, start, walked, last, _, _, length, place, earlierRun, walk, laterRun⟩

/-! ## Results of statements -/

/-- Between two states of one statement: no other statement has begun, and this one has not been
left. -/
structure Inside (before after : Traversal σ) : Prop where
  earlier : after.scope.earlier = before.scope.earlier
  begun : before.scope.current.isSome = true → after.scope.current.isSome = true

instance : Steady (Inside (σ := σ)) where
  trans first second := ⟨second.earlier.trans first.earlier, second.begun ∘ first.begun⟩
  frames _ _ := ⟨rfl, id⟩
  register := by
    intro state name column registered accepted
    rcases Scope.register_ok_iff.mp accepted with ⟨results, -, rfl⟩
    exact ⟨rfl, fun _ => rfl⟩

/-- Between two states of a text: the results of the statements before stay. -/
structure Scope.Extends (before after : Scope) : Prop where
  count : before.statementCount ≤ after.statementCount
  results : ∀ index < before.statementCount, after.results? index = before.results? index

theorem Scope.Extends.refl (scope : Scope) : scope.Extends scope :=
  ⟨Nat.le_refl _, fun _ _ => rfl⟩

theorem Scope.Extends.trans {first second third : Scope} (former : first.Extends second)
    (latter : second.Extends third) : first.Extends third where
  count := Nat.le_trans former.count latter.count
  results index earlier :=
    (latter.results index (Nat.lt_of_lt_of_le earlier former.count)).trans
      (former.results index earlier)

/-- The number of statements that have begun before another one begins. -/
theorem Scope.length_earlier_beginStatement (scope : Scope) :
    scope.beginStatement.earlier.length = scope.statementCount := by
  rw [beginStatement, List.length_append, statementCount]

/-- A statement registers its results under its number, and leaves those before it. -/
theorem Inside.extends {before after : Traversal σ}
    (inside : Inside { before with scope := before.scope.beginStatement } after) :
    before.scope.Extends after.scope ∧
      after.scope.statementCount = before.scope.statementCount + 1 ∧
        after.scope.results? before.scope.statementCount = after.scope.current := by
  rcases Option.isSome_iff_exists.mp (inside.begun rfl) with ⟨results, current⟩
  have earlier : after.scope.earlier = before.scope.earlier ++ before.scope.current.toList :=
    inside.earlier
  have length : after.scope.earlier.length = before.scope.statementCount := by
    rw [inside.earlier, Scope.length_earlier_beginStatement]
  have count : after.scope.statementCount = before.scope.statementCount + 1 := by
    rw [Scope.statementCount, length, current]
    rfl
  refine ⟨⟨by omega, ?_⟩, count, ?_⟩
  · intro index earlierIndex
    rw [Scope.results?, List.getElem?_append_left (by omega), earlier, Scope.results?]
  · rw [Scope.results?, List.getElem?_append_right (by omega), length, Nat.sub_self, current]
    rfl

/-- The statements of a text are counted, and leave the results of those before them. -/
theorem Visitor.Steadfast.extends {visitor : Visitor σ} (steadfast : visitor.Steadfast Inside)
    {statements result : List Statement} {before after : Traversal σ}
    (run : Gives (walkStatementsFrom visitor statements) before result after) :
    before.scope.Extends after.scope ∧
      after.scope.statementCount = before.scope.statementCount + statements.length := by
  let holds (count : Nat) (state : Traversal σ) : Prop :=
    before.scope.Extends state.scope ∧ state.scope.statementCount = count
  have start : holds before.scope.statementCount before := ⟨.refl _, rfl⟩
  refine holds_of_gives_walkStatementsFrom ?_ start run
  intro count statement walked first last known walk
  rcases (steadfast.statement statement walk).extends with ⟨further, next, -⟩
  refine ⟨known.1.trans further, ?_⟩
  rw [next, known.2]

/-- A visitor that respects a relation respects every coarser one. -/
theorem Visitor.Steadfast.coarsen {visitor : Visitor σ} {coarser : Traversal σ → Traversal σ → Prop}
    (steadfast : visitor.Steadfast related)
    (coarse : ∀ {before after}, related before after → coarser before after) :
    visitor.Steadfast coarser := by
  have stays {γ : Type} {ensured : γ → Prop} {walk : Walk σ γ}
      (stayed : Walk.Stays related ensured walk) : Walk.Stays coarser ensured walk := by
    intro before after value run
    rcases stayed run with ⟨scope, states, holds⟩
    exact ⟨scope, coarse states, holds⟩
  constructor
  case tame =>
    exact
      { columns := steadfast.tame.columns
        reference := fun context expr isColumn =>
          stays (steadfast.tame.reference context expr isColumn)
        operation := fun left operator right context harmless =>
          stays (steadfast.tame.operation left operator right context harmless)
        membership := fun operand items context =>
          stays (steadfast.tame.membership operand items context)
        wildcard := stays steadfast.tame.wildcard
        unsupported := steadfast.tame.unsupported }
  case insert =>
    exact fun insert _ _ _ run => coarse (steadfast.insert insert run)
  case update =>
    exact fun update _ _ _ run => coarse (steadfast.update update run)
  case other =>
    exact fun _ _ _ run => coarse (steadfast.other run)

/--
Behind a text, the results of the statement at an index are those that the statement has
registered behind the statements before it.
-/
theorem Visitor.Steadfast.exists_visit {visitor : Visitor σ} (steadfast : visitor.Steadfast Inside)
    {statements result : List Statement} {own : σ} {after : Traversal σ} {index : Nat}
    (run : Gives (walkStatementsFrom visitor statements) { own } result after)
    (within : index < statements.length) :
    index < result.length ∧ ∃ start walked last registered,
      start.scope.statementCount = index ∧
        Gives (walkStatementsFrom visitor (statements.take index)) { own } (result.take index)
          start ∧
          Gives (walkStatement visitor statements[index])
            { start with scope := start.scope.beginStatement } walked last ∧
            Gives (walkStatementsFrom visitor (statements.take (index + 1))) { own }
              (result.take (index + 1)) last ∧
              Gives (walkStatementsFrom visitor (statements.drop (index + 1))) last
                (result.drop (index + 1)) after ∧
                last.scope.current = some registered ∧
                  after.scope.results? index = some registered := by
  rcases exists_visit_at run (List.getElem?_eq_getElem within) with
    ⟨start, walked, last, place, earlierRun, walk, throughRun, laterRun⟩
  rcases steadfast.extends earlierRun with ⟨-, count⟩
  have number : start.scope.statementCount = index := by
    rw [count, List.length_take, Nat.min_eq_left (Nat.le_of_lt within)]
    exact Nat.zero_add index
  have inside := steadfast.statement _ walk
  rcases inside.extends with ⟨-, next, results⟩
  rcases steadfast.extends laterRun with ⟨further, -⟩
  rcases Option.isSome_iff_exists.mp (inside.begun rfl) with ⟨registered, current⟩
  refine ⟨(List.getElem?_eq_some_iff.mp place).1, start, walked, last, registered, number,
    earlierRun, walk, throughRun, laterRun, current, ?_⟩
  rw [further.results index (by omega), ← number, results, current]

end ColumnVeil
