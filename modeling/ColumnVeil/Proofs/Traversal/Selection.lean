import ColumnVeil.Proofs.Traversal.Replacement

/-!
# Selections and their scopes

The conditions of a selection are walked through in one scope: that of its relations, with
the output names of its projection.  `Select.shown` reads this scope off the selection alone.
A selection that stands in parentheses, or behind other statements, is walked through in a
scope that means the same by every name.

The main statements take the walk through a query apart at its selection, and the walk
through a selection at its projection and its conditions.
-/

namespace ColumnVeil

open Sql

/-! ## Output names -/

namespace ResultColumns

theorem column?_of_register {results registered : ResultColumns} {name : String}
    {column : ColumnRef} (accepted : results.register name column = .ok registered) :
    registered.column? name = some column := by
  unfold register at accepted
  split at accepted
  · rename_i existing known
    split at accepted
    · rename_i same
      cases accepted
      rw [known, same]
    · cases accepted
  · cases accepted
    simp [column?]

/-- An output name stands for one column, whatever is recorded later. -/
theorem column?_register {results registered : ResultColumns} {name other : String}
    {column shown : ColumnRef} (accepted : results.register name column = .ok registered)
    (known : results.column? other = some shown) : registered.column? other = some shown := by
  unfold register at accepted
  split at accepted
  · split at accepted
    · cases accepted
      exact known
    · cases accepted
  · rename_i unknown
    cases accepted
    have different : (other == name) = false := by
      rw [beq_eq_false_iff_ne]
      rintro rfl
      rw [unknown] at known
      cases known
    rw [column?, List.lookup_cons, different]
    exact known

end ResultColumns

namespace Scope

theorem register_ok_iff {scope registered : Scope} {name : String} {column : ColumnRef} :
    scope.register name column = .ok registered ↔
      ∃ results, (scope.current.getD {}).register name column = .ok results ∧
        { scope with current := some results } = registered := by
  unfold register
  cases (scope.current.getD {}).register name column with
  | error failure =>
      constructor
      · intro accepted
        cases accepted
      · rintro ⟨_, impossible, _⟩
        cases impossible
  | ok results =>
      constructor
      · intro accepted
        cases accepted
        exact ⟨results, rfl, rfl⟩
      · rintro ⟨_, same, rfl⟩
        cases same
        rfl

theorem output?_of_register {scope registered : Scope} {name : String} {column : ColumnRef}
    (accepted : scope.register name column = .ok registered) :
    registered.output? name = some column := by
  rcases register_ok_iff.mp accepted with ⟨results, recorded, rfl⟩
  exact ResultColumns.column?_of_register recorded

theorem output?_register {scope registered : Scope} {name other : String}
    {column shown : ColumnRef} (accepted : scope.register name column = .ok registered)
    (known : scope.output? other = some shown) : registered.output? other = some shown := by
  rcases register_ok_iff.mp accepted with ⟨results, recorded, rfl⟩
  have begun : (scope.current.getD {}).column? other = some shown := by
    cases current : scope.current with
    | none =>
        simp [output?, current] at known
    | some outputs =>
        simpa [output?, current] using known
  exact ResultColumns.column?_register recorded begun

theorem output?_showing {scope : Scope} {reaches : Bool} {expr : Expr}
    {aliasName : Option Ident} {other : String} {shown : ColumnRef}
    (known : scope.output? other = some shown) :
    (scope.showing reaches expr aliasName).output? other = some shown := by
  rcases scope.showing_cases reaches expr aliasName with same | ⟨name, column, registered⟩
  · rw [same]
    exact known
  · exact output?_register registered known

theorem frames_showing (scope : Scope) (reaches : Bool) (expr : Expr)
    (aliasName : Option Ident) : (scope.showing reaches expr aliasName).frames = scope.frames := by
  rcases scope.showing_cases reaches expr aliasName with same | ⟨name, column, registered⟩
  · rw [same]
  · rcases register_ok_iff.mp registered with ⟨results, -, recorded⟩
    rw [← recorded]

theorem isSome_current_showing {scope : Scope} {reaches : Bool} {expr : Expr}
    {aliasName : Option Ident} (begun : scope.current.isSome = true) :
    (scope.showing reaches expr aliasName).current.isSome = true := by
  rcases scope.showing_cases reaches expr aliasName with same | ⟨name, column, registered⟩
  · rw [same]
    exact begun
  · rcases register_ok_iff.mp registered with ⟨results, -, recorded⟩
    rw [← recorded]
    rfl

end Scope

/-- What every item of a projection preserves holds behind the projection. -/
theorem Sql.SelectItem.holds_leave (holds : Scope → Prop) {reaches : Bool}
    (step : ∀ {scope expr aliasName}, holds scope → holds (scope.showing reaches expr aliasName))
    {scope : Scope} (items : List SelectItem) (start : holds scope) :
    holds (SelectItem.leave scope reaches items) := by
  induction items generalizing scope with
  | nil =>
      exact start
  | cons item rest inductionHypothesis =>
      cases item with
      | expr expr =>
          exact inductionHypothesis (step start)
      | aliased expr aliasName =>
          exact inductionHypothesis (step start)
      | wildcard qualifier =>
          exact inductionHypothesis start

/-! ## Scopes that mean the same -/

namespace Scope

/-- A scope means by every name what a plain scope means: it has the same output names and
the same frames, and behind them only frames without tables. -/
structure Reads (scope plain : Scope) : Prop where
  frames : ∃ behind, scope.frames = plain.frames ++ behind ∧ ∀ frame ∈ behind, frame.tables = []
  current : scope.current = plain.current

namespace Reads

variable {scope plain : Scope}

theorem output?_eq (reads : scope.Reads plain) (name : String) :
    scope.output? name = plain.output? name := by
  rw [output?, output?, reads.current]

theorem table?_eq (reads : scope.Reads plain) (name : String) :
    scope.table? name = plain.table? name := by
  rcases reads.frames with ⟨behind, frames, empty⟩
  have unknown : behind.findSome? (fun frame => frame.tables.lookup name) = none := by
    rw [List.findSome?_eq_none_iff]
    intro frame member
    rw [empty frame member]
    rfl
  rw [table?, table?, frames, List.findSome?_append, unknown, Option.or_none]

theorem resolveIn_eq (reads : scope.Reads plain) (name : String) {behind : List Frame}
    (empty : ∀ frame ∈ behind, frame.tables = []) (frames : List Frame) :
    scope.resolveIn name (frames ++ behind) = plain.resolveIn name frames := by
  induction frames with
  | nil =>
      rw [List.nil_append]
      induction behind with
      | nil =>
          rw [resolveIn, resolveIn, reads.output?_eq]
      | cons frame rest inductionHypothesis =>
          have headEmpty := empty frame List.mem_cons_self
          have skipped : scope.resolveIn name (frame :: rest) = scope.resolveIn name rest := by
            simp only [resolveIn, headEmpty]
          exact skipped.trans (inductionHypothesis fun later member =>
            empty later (List.mem_cons_of_mem _ member))
  | cons frame rest inductionHypothesis =>
      rw [List.cons_append, resolveIn, resolveIn, inductionHypothesis, reads.output?_eq]

/-- Every reference means the same. -/
theorem resolve_eq (reads : scope.Reads plain) (expr : Expr) (context : Context) :
    scope.resolve expr context = plain.resolve expr context := by
  rcases reads.frames with ⟨behind, frames, empty⟩
  cases expr with
  | identifier ident =>
      simp only [resolve, resolveName, reads.output?_eq, frames,
        reads.resolveIn_eq _ empty]
  | compound parts =>
      simp only [resolve, reads.table?_eq]
  | _ => rfl

theorem showing (reads : scope.Reads plain) (reaches : Bool) (expr : Expr)
    (aliasName : Option Ident) :
    (scope.showing reaches expr aliasName).Reads (plain.showing reaches expr aliasName) := by
  unfold Scope.showing
  rw [reads.resolve_eq]
  split
  · split
    · rename_i column resolved
      unfold register
      rw [reads.current]
      cases (plain.current.getD {}).register (outputName aliasName column) column with
      | error failure =>
          exact reads
      | ok results =>
          exact ⟨reads.frames, rfl⟩
    · exact reads
  · exact reads

theorem leave (reads : scope.Reads plain) (reaches : Bool) (items : List SelectItem) :
    (SelectItem.leave scope reaches items).Reads (SelectItem.leave plain reaches items) := by
  induction items generalizing scope plain with
  | nil =>
      exact reads
  | cons item rest inductionHypothesis =>
      cases item with
      | expr shown =>
          exact inductionHypothesis (reads.showing reaches shown none)
      | aliased shown aliasName =>
          exact inductionHypothesis (reads.showing reaches shown (some aliasName))
      | wildcard qualifier =>
          exact inductionHypothesis reads

end Reads

/-- The names of relations come into the innermost frame. -/
theorem addAll_of_frames {scope : Scope} {frame : Frame} {behind : List Frame}
    (frames : scope.frames = frame :: behind) (names : List (String × String)) :
    scope.addAll names =
      { scope with frames := { frame with tables := frame.tables ++ names } :: behind } := by
  induction names generalizing scope frame with
  | nil =>
      rw [addAll_nil, List.append_nil, ← frames]
  | cons name rest inductionHypothesis =>
      have added : scope.add name.1 name.2 =
          { scope with frames := { frame with tables := frame.tables ++ [name] } :: behind } := by
        rw [add, frames]
      have entered : (scope.add name.1 name.2).frames =
          { frame with tables := frame.tables ++ [name] } :: behind := by
        rw [added]
      have step : scope.addAll (name :: rest) = (scope.add name.1 name.2).addAll rest := rfl
      rw [step, inductionHypothesis entered, added]
      simp only [List.append_assoc, List.singleton_append]

end Scope

/-! ## The scope of a selection -/

namespace Sql

/-- The scope of a selection on its own whose rows reach the client, behind its relations. -/
def Select.entered (select : Select) : Scope where
  frames := [{ tables := select.names, returnsRows := true }]
  current := some {}

/-- The scope of the conditions of a selection on its own whose rows reach the client. -/
def Select.shown (select : Select) : Scope :=
  SelectItem.leave select.entered true select.projection

theorem Select.frames_shown (select : Select) : select.shown.frames = select.entered.frames := by
  refine SelectItem.holds_leave (fun scope => scope.frames = select.entered.frames) ?_ _ rfl
  intro scope expr aliasName same
  exact (scope.frames_showing true expr aliasName).trans same

theorem Select.exists_current_shown (select : Select) :
    ∃ results, select.shown.current = some results :=
  Option.isSome_iff_exists.mp (SelectItem.holds_leave (fun scope => scope.current.isSome = true)
    Scope.isSome_current_showing select.projection rfl)

/-- What an item shows, and the name that it gives to it. -/
def SelectItem.shown? : SelectItem → Option (Expr × Option Ident)
  | .expr shown => some (shown, none)
  | .aliased shown aliasName => some (shown, some aliasName)
  | .wildcard _ => none

end Sql

namespace Scope

/-- A scope in which a selection begins: the frame of its query is empty, and so are those
around it. -/
structure Begins (scope : Scope) : Prop where
  frames : ∃ behind, scope.frames = { returnsRows := true } :: behind ∧
    ∀ frame ∈ behind, frame.tables = []
  current : scope.current = some {}

namespace Begins

variable {scope : Scope}

theorem returnsRows (begins : scope.Begins) : scope.returnsRows = true := by
  rcases begins.frames with ⟨behind, frames, -⟩
  rw [Scope.returnsRows, frames]

/-- Behind its relations the scope of a selection means what it means on its own. -/
theorem reads_entered (begins : scope.Begins) (select : Select) :
    (scope.addAll select.names).Reads select.entered := by
  rcases begins.frames with ⟨behind, frames, empty⟩
  rw [addAll_of_frames frames]
  exact ⟨⟨behind, rfl, empty⟩, begins.current⟩

theorem reads_shown (begins : scope.Begins) (select : Select) :
    (SelectItem.leave (scope.addAll select.names) true select.projection).Reads select.shown :=
  (begins.reads_entered select).leave true select.projection

end Begins

/-- A query whose statement has just begun begins in an empty frame. -/
theorem begins_beginStatement (scope : Scope) : (scope.beginStatement.push true).Begins where
  frames := ⟨[], rfl, by rintro _ ⟨⟩⟩
  current := rfl

/-- What relations alone say of a reference stays true when output names are known. -/
theorem resolve_of_entered {select : Select} {scope : Scope} {expr : Expr} {column : ColumnRef}
    {context : Context} (plain : context.orderBy = false ∧ context.groupBy = false)
    (frames : ∃ behind, scope.frames = select.entered.frames ++ behind ∧
      ∀ frame ∈ behind, frame.tables = [])
    (resolved : select.entered.resolve expr .plain = .ok (some column)) :
    scope.resolve expr context = .ok (some column) := by
  rcases frames with ⟨behind, frames, empty⟩
  cases expr with
  | identifier ident =>
      simp only [resolve, resolveName, plain.1, plain.2, Context.plain, Bool.or_self,
        Bool.false_eq_true, if_false, frames, Select.entered, List.singleton_append,
        resolveIn] at resolved ⊢
      -- Without output names only the column of a single relation is found.
      rcases names : select.names with _ | ⟨relation, _ | ⟨second, rest⟩⟩
      · rw [names] at resolved
        cases resolved
      · rw [names] at resolved
        exact resolved
      · rw [names] at resolved
        cases resolved
  | compound parts =>
      have known (name : String) : scope.table? name = select.entered.table? name := by
        have same : ({ select.entered with frames := scope.frames } : Scope).Reads
            select.entered := ⟨⟨behind, frames, empty⟩, rfl⟩
        exact same.table?_eq name
      simp only [resolve, known] at resolved ⊢
      exact resolved
  | _ => cases resolved

end Scope

/-! ## Walking through a projection -/

section Projection

variable {σ : Type} {visitor : Visitor σ} {related : Traversal σ → Traversal σ → Prop}
  {marked : Expr → Bool}

theorem output?_of_gives_registerOutput {expr : Expr} {aliasName : Option Ident}
    {column : ColumnRef} {before after : Traversal σ} {result : Unit}
    (resolved : before.scope.resolve expr .ofSelectBody = .ok (some column))
    (run : Gives (Walk.registerOutput expr aliasName .ofSelectBody : Walk σ Unit)
      before result after) :
    after.scope.output? (Scope.outputName aliasName column) = some column := by
  simp only [Walk.registerOutput, gives_bind_iff, Walk.gives_resolve_iff] at run
  rcases run with ⟨found, middle, ⟨again, rfl⟩, run⟩
  rw [resolved] at again
  cases again
  simp only [gives_bind_iff, Walk.gives_scope_iff, Walk.gives_ofExcept_iff,
    Walk.gives_changeScope_iff] at run
  rcases run with ⟨_, _, ⟨rfl, rfl⟩, registered, _, ⟨accepted, rfl⟩, rfl⟩
  cases aliasName <;> exact Scope.output?_of_register accepted

/-- An item of the client's projection is recorded, and then walked through. -/
structure ItemRun (visitor : Visitor σ) (item newItem : SelectItem) (before after : Traversal σ) :
    Prop where
  shown : ∀ {expr aliasName}, item.shown? = some (expr, aliasName) →
    ∃ newExpr recorded,
      Gives (Walk.registerOutput expr aliasName .ofSelectBody : Walk σ Unit) before () recorded ∧
        Gives (walkExpr visitor .ofSelectBody expr) recorded newExpr after ∧
          newItem.shown? = some (newExpr, aliasName)
  star : item.shown? = none → newItem = item ∧ Gives visitor.wildcard before () after

theorem exists_itemRun {item : SelectItem} {rest result : List SelectItem}
    {before after : Traversal σ}
    (run : Gives (walkProjection visitor true (item :: rest)) before result after) :
    ∃ newItem others middle,
      ItemRun visitor item newItem before middle ∧
        Gives (walkProjection visitor true rest) middle others after ∧
          newItem :: others = result := by
  cases item with
  | expr shown =>
      simp only [walkProjection, if_true, gives_bind_iff, gives_pure_iff] at run
      rcases run with
        ⟨_, recorded, recording, newShown, middle, walk, others, _, restRun, rfl, rfl⟩
      refine ⟨.expr newShown, others, middle, ⟨?_, by rintro ⟨⟩⟩, restRun, rfl⟩
      rintro _ _ ⟨⟩
      exact ⟨newShown, recorded, recording, walk, rfl⟩
  | aliased shown aliasName =>
      simp only [walkProjection, if_true, gives_bind_iff, gives_pure_iff] at run
      rcases run with
        ⟨_, recorded, recording, newShown, middle, walk, others, _, restRun, rfl, rfl⟩
      refine ⟨.aliased newShown aliasName, others, middle, ⟨?_, by rintro ⟨⟩⟩, restRun, rfl⟩
      rintro _ _ ⟨⟩
      exact ⟨newShown, recorded, recording, walk, rfl⟩
  | wildcard qualifier =>
      simp only [walkProjection, gives_bind_iff, gives_pure_iff] at run
      rcases run with ⟨_, middle, walk, others, _, restRun, rfl, rfl⟩
      refine ⟨.wildcard qualifier, others, middle, ⟨?_, fun _ => ⟨rfl, walk⟩⟩, restRun, rfl⟩
      rintro _ _ ⟨⟩

theorem harmless_of_shown {item : SelectItem} {rest : List SelectItem} {expr : Expr}
    {aliasName : Option Ident} (shows : item.shown? = some (expr, aliasName))
    (harmless : Harmless marked (SelectItem.operationsAll (item :: rest))) :
    Harmless marked expr.operations := by
  cases item with
  | expr shown =>
      cases shows
      exact (Harmless.append_iff.mp harmless).1
  | aliased shown name =>
      cases shows
      exact (Harmless.append_iff.mp harmless).1
  | wildcard qualifier =>
      cases shows

theorem harmless_of_items {item : SelectItem} {rest : List SelectItem}
    (harmless : Harmless marked (SelectItem.operationsAll (item :: rest))) :
    Harmless marked (SelectItem.operationsAll rest) := by
  cases item with
  | expr shown =>
      exact (Harmless.append_iff.mp harmless).2
  | aliased shown name =>
      exact (Harmless.append_iff.mp harmless).2
  | wildcard qualifier =>
      exact harmless

theorem resolve_of_not_isColumn {expr : Expr} (other : expr.isColumn = false) (scope : Scope)
    (context : Context) : scope.resolve expr context = .ok none := by
  cases expr with
  | identifier ident => cases other
  | compound parts => cases other
  | _ => rfl

/-- A reference is walked through by looking at it. -/
theorem gives_reference_of_walkExpr {context : Context} {expr result : Expr}
    (isColumn : expr.isColumn = true) {before after : Traversal σ}
    (run : Gives (walkExpr visitor context expr) before result after) :
    Gives (visitor.reference context expr) before result after := by
  cases expr with
  | identifier ident =>
      rw [walkExpr] at run
      exact run
  | compound parts =>
      rw [walkExpr] at run
      exact run
  | _ => cases isColumn

/-- Outside groupings a reference stays as it is, and nothing else becomes one. -/
theorem resolve_of_gives_walkExpr [Steady related] (tame : visitor.Tame marked related)
    {context : Context} (plain : context.groupBy = false) {expr result : Expr}
    (harmless : Harmless marked expr.operations) {before after : Traversal σ}
    (run : Gives (walkExpr visitor context expr) before result after) (scope : Scope)
    (other : Context) : scope.resolve result other = scope.resolve expr other := by
  have follows := ((walkExpr_stays tame context expr harmless).spec run).2.2
  have apart : ¬ context.groupBy = true := by
    rw [plain]
    exact Bool.false_ne_true
  cases isColumn : result.isColumn with
  | true =>
      rw [(follows.column isColumn).resolve_right apart]
  | false =>
      have before : expr.isColumn = false := by
        rw [← Bool.not_eq_true]
        intro wasColumn
        have kept := (tame.reference context expr wasColumn
          (gives_reference_of_walkExpr wasColumn run)).2.2.1
        rw [isColumn] at kept
        cases kept
      rw [resolve_of_not_isColumn isColumn, resolve_of_not_isColumn before]

theorem Scope.showing_congr {scope : Scope} {expr other : Expr}
    (same : scope.resolve other .ofSelectBody = scope.resolve expr .ofSelectBody)
    (reaches : Bool) (aliasName : Option Ident) :
    scope.showing reaches other aliasName = scope.showing reaches expr aliasName := by
  rw [showing, showing, same]

theorem Sql.SelectItem.leave_cons_of_shown {item : SelectItem} {expr : Expr}
    {aliasName : Option Ident} (shows : item.shown? = some (expr, aliasName)) (scope : Scope)
    (reaches : Bool) (rest : List SelectItem) :
    SelectItem.leave scope reaches (item :: rest) =
      SelectItem.leave (scope.showing reaches expr aliasName) reaches rest := by
  cases item with
  | expr shown =>
      cases shows
      rfl
  | aliased shown name =>
      cases shows
      rfl
  | wildcard qualifier => cases shows

/-- A projection that is walked through leaves the same output names. -/
theorem leave_of_gives_walkProjection [Steady related] (tame : visitor.Tame marked related)
    {items result : List SelectItem} (harmless : Harmless marked (SelectItem.operationsAll items))
    {before after : Traversal σ}
    (run : Gives (walkProjection visitor true items) before result after) (scope : Scope) :
    SelectItem.leave scope true result = SelectItem.leave scope true items := by
  induction items generalizing before result scope with
  | nil =>
      rcases gives_pure_iff.mp run with ⟨rfl, -⟩
      rfl
  | cons item rest inductionHypothesis =>
      rcases exists_itemRun run with ⟨newItem, others, middle, itemRun, restRun, rfl⟩
      have restSame := inductionHypothesis (harmless_of_items harmless) restRun
      cases shows : item.shown? with
      | none =>
          rcases itemRun.star shows with ⟨rfl, -⟩
          cases newItem with
          | wildcard qualifier => exact restSame scope
          | _ => cases shows
      | some shown =>
          rcases itemRun.shown shows with ⟨newExpr, recorded, -, walk, newShows⟩
          rw [SelectItem.leave_cons_of_shown newShows, SelectItem.leave_cons_of_shown shows,
            restSame]
          have same := resolve_of_gives_walkExpr tame rfl (harmless_of_shown shows harmless) walk
            scope .ofSelectBody
          rw [Scope.showing_congr same]

end Projection

/-! ## Walking through a selection -/

section Selections

variable {σ : Type} {visitor : Visitor σ} {related : Traversal σ → Traversal σ → Prop}
  {marked : Expr → Bool}

/--
A walk through a selection, taken apart behind its relations, its projection, the
conditions of its joins and its own condition.
-/
structure Selected (visitor : Visitor σ) (marked : Expr → Bool)
    (related : Traversal σ → Traversal σ → Prop) (select result : Select)
    (before entered shown joined chosen after : Traversal σ) : Prop where
  enters : entered.scope = before.scope.addAll select.names
  entering : related before entered
  projects : Gives (walkProjection visitor before.scope.returnsRows select.projection)
    entered result.projection shown
  joins : Gives (walkExprs visitor .ofJoin (TableWithJoins.conditionsAll select.relations))
    shown (TableWithJoins.conditionsAll result.relations) joined
  chooses : Gives (walkExprs visitor .plain select.condition.toList)
    joined result.condition.toList chosen
  grouping : related chosen after
  leaves : after.scope = chosen.scope
  names : result.names = select.names
  harmless : Harmless marked result.otherOperations

theorem gives_walkExprs_toList {context : Context} {expr result : Option Expr}
    {before after : Traversal σ} (run : Gives (walkOption visitor context expr) before result after) :
    Gives (walkExprs visitor context expr.toList) before result.toList after := by
  cases expr with
  | none =>
      rcases gives_pure_iff.mp run with ⟨rfl, rfl⟩
      exact gives_pure_iff.mpr ⟨rfl, rfl⟩
  | some expr =>
      simp only [walkOption, gives_bind_iff, gives_pure_iff] at run
      rcases run with ⟨newExpr, last, walk, rfl, rfl⟩
      simp only [Option.toList_some, walkExprs, gives_bind_iff, gives_pure_iff]
      exact ⟨newExpr, last, walk, [], last, ⟨rfl, rfl⟩, rfl, rfl⟩

theorem harmless_projection {select : Select}
    (harmless : Harmless marked select.otherOperations) :
    Harmless marked (SelectItem.operationsAll select.projection) := by
  cases select with
  | mk lead projection target relations views condition groups grouping having tail =>
      simp only [Select.otherOperations, Harmless.append_iff] at harmless
      exact harmless.1.1.2

theorem exists_selected [Steady related] (tame : visitor.Tame marked related)
    {select result : Select} (harmless : Harmless marked select.otherOperations)
    {before after : Traversal σ} (run : Gives (walkSelect visitor select) before result after) :
    ∃ entered shown joined chosen,
      Selected visitor marked related select result before entered shown joined chosen after := by
  cases select with
  | mk lead projection target relations views condition groups grouping having tail =>
      simp only [Select.otherOperations, Harmless.append_iff] at harmless
      rcases harmless with ⟨⟨⟨derived, shownHarmless⟩, grouped⟩, havingHarmless⟩
      simp only [walkSelect, gives_bind_iff, gives_pure_iff, Walk.gives_scope_iff] at run
      rcases run with ⟨entry, entered, enterRun, scope, _, ⟨rfl, rfl⟩, newProjection, shown,
        projectionRun, newRelations, joined, conditionsRun, newCondition, chosen, conditionRun,
        newGroups, last, groupsRun, newHaving, _, havingRun, rfl, rfl⟩
      rcases enterAll_moves tame relations derived enterRun with ⟨enterScope, enterRelated, entries⟩
      rw [enterScope, Scope.returnsRows_addAll] at projectionRun
      rcases entries.walks conditionsRun with ⟨joinRun, names, derivedSpared⟩
      rcases walkProjection_moves tame _ projection shownHarmless projectionRun with
        ⟨-, -, projectionSpared⟩
      rcases walkExprs_stays tame .ofGroupBy groups grouped groupsRun with
        ⟨groupsScope, groupsRelated, groupsSpared⟩
      rcases walkOption_stays tame .ofGroupBy having havingHarmless havingRun with
        ⟨havingScope, havingRelated, havingSpared⟩
      refine ⟨entered, shown, joined, chosen, enterScope, enterRelated, projectionRun, joinRun,
        gives_walkExprs_toList conditionRun, Steady.trans groupsRelated havingRelated,
        havingScope.trans groupsScope, names, ?_⟩
      simp only [Select.otherOperations, Harmless.append_iff]
      exact ⟨⟨⟨derivedSpared, projectionSpared⟩, groupsSpared⟩, havingSpared⟩

mutual

/-- A query is walked through as its selection, with the rest around it. -/
theorem exists_gives_walkSelect [Steady related] (tame : visitor.Tame marked related)
    (query : Query) {select : Select} (selection : query.selection? = some select)
    (harmless : Harmless marked query.outerOperations) {before after : Traversal σ}
    {result : Query} (run : Gives (walkQuery visitor true query) before result after)
    (begins : (before.scope.push true).Begins) :
    ∃ newSelect start last,
      result.selection? = some newSelect ∧ Harmless marked result.outerOperations ∧
        start.scope.Begins ∧ related before start ∧
          Gives (walkSelect visitor select) start newSelect last ∧
            related last after ∧ after.scope.current = last.scope.current := by
  cases query with
  | mk recursive ctes body order tail =>
      simp only [Query.outerOperations, Harmless.append_iff] at harmless
      simp only [walkQuery, gives_bind_iff, gives_pure_iff, Walk.gives_inFrame_iff] at run
      rcases run with ⟨newCtes, middle, ctesRun, _, ⟨newBody, first, bodyRun, newOrder, inside,
        orderRun, rfl, rfl⟩, rfl⟩
      rcases walkCtes_stays tame ctes harmless.1.1 ctesRun with ⟨ctesScope, ctesRelated, ctesSpared⟩
      rcases walkOrder_stays tame order harmless.2 orderRun with
        ⟨orderScope, orderRelated, orderSpared⟩
      have bodyBegins : (middle.scope.push true).Begins := by
        rw [ctesScope]
        exact begins
      rcases exists_gives_walkSelect_body tame body selection harmless.1.2 bodyRun bodyBegins with
        ⟨newSelect, start, last, found, bodySpared, startBegins, startRelated, walk, lastRelated,
          current⟩
      refine ⟨newSelect, start, last, found, ?_, startBegins, ?_, walk, ?_, ?_⟩
      · simp only [Query.outerOperations, Harmless.append_iff]
        exact ⟨⟨ctesSpared, bodySpared⟩, orderSpared⟩
      · exact Steady.trans ctesRelated (Steady.trans (Steady.frames middle _) startRelated)
      · exact Steady.trans lastRelated (Steady.trans orderRelated (Steady.frames inside _))
      · exact (congrArg Scope.current orderScope).trans current
termination_by structural query

theorem exists_gives_walkSelect_body [Steady related] (tame : visitor.Tame marked related)
    (body : QueryBody) {select : Select} (selection : body.selection? = some select)
    (harmless : Harmless marked body.outerOperations) {before after : Traversal σ}
    {result : QueryBody} (run : Gives (walkBody visitor true body) before result after)
    (begins : before.scope.Begins) :
    ∃ newSelect start last,
      result.selection? = some newSelect ∧ Harmless marked result.outerOperations ∧
        start.scope.Begins ∧ related before start ∧
          Gives (walkSelect visitor select) start newSelect last ∧
            related last after ∧ after.scope.current = last.scope.current := by
  cases body with
  | select inner =>
      cases selection
      simp only [walkBody, gives_bind_iff, gives_pure_iff] at run
      rcases run with ⟨newSelect, last, walk, rfl, rfl⟩
      exact ⟨newSelect, before, last, rfl, Harmless.nil, begins, Steady.refl before, walk,
        Steady.refl last, rfl⟩
  | parenthesized query =>
      simp only [walkBody, gives_bind_iff, gives_pure_iff] at run
      rcases run with ⟨newQuery, _, queryRun, rfl, rfl⟩
      refine exists_gives_walkSelect tame query selection harmless queryRun ?_
      rcases begins.frames with ⟨behind, frames, empty⟩
      refine ⟨⟨before.scope.frames, rfl, ?_⟩, begins.current⟩
      rw [frames, List.forall_mem_cons]
      exact ⟨rfl, empty⟩
  | _ => cases selection
termination_by structural body

end

/--
The walk through a query whose rows reach the client, taken apart at its selection.
The conditions are walked through in a scope that means what the selection says.
-/
theorem exists_selected_of_query [Steady related] (tame : visitor.Tame marked related)
    {query result : Query} {select : Select} (selection : query.selection? = some select)
    (outer : Harmless marked query.outerOperations)
    (other : Harmless marked select.otherOperations) {before after : Traversal σ}
    (run : Gives (walkQuery visitor true query) before result after)
    (begins : (before.scope.push true).Begins) :
    ∃ newSelect start entered shown joined chosen last,
      result.selection? = some newSelect ∧ Harmless marked result.outerOperations ∧
        Selected visitor marked related select newSelect start entered shown joined chosen last ∧
          related before start ∧ related entered shown ∧ related last after ∧
            after.scope.current = last.scope.current ∧ start.scope.Begins ∧
              shown.scope.Reads select.shown := by
  rcases exists_gives_walkSelect tame query selection outer run begins with
    ⟨newSelect, start, last, found, outerSpared, startBegins, startRelated, walk, lastRelated,
      current⟩
  rcases exists_selected tame other walk with ⟨entered, shown, joined, chosen, selected⟩
  have projects := selected.projects
  rw [startBegins.returnsRows] at projects
  rcases walkProjection_moves tame true select.projection (harmless_projection other) projects with
    ⟨shownScope, shownRelated, -⟩
  refine ⟨newSelect, start, entered, shown, joined, chosen, last, found, outerSpared, selected,
    startRelated, shownRelated, lastRelated, current, startBegins, ?_⟩
  rw [shownScope, selected.enters]
  exact startBegins.reads_shown select

end Selections

end ColumnVeil
