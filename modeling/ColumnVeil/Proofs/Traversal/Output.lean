import ColumnVeil.Proofs.Traversal.Statement

/-!
# Output names and the items behind them

Of all that a projection shows, only references to columns get an output name in the scope.
`Select.outputs` lists for each item of a selection what is recorded of it, if anything is.  An
output name of the scope comes from one of these items (`Select.exists_output`), and behind a
walk that succeeds every one of them has left its name (`outputs_of_gives_walkQuery`).
-/

namespace ColumnVeil

open Sql

/-! ## What the items record -/

namespace Sql

/-- What is recorded of an item in a scope: its output name and the column that it refers to, if
it refers to one. -/
def SelectItem.output? (scope : Scope) (item : SelectItem) : Option (String × ColumnRef) := do
  let (shown, aliasName) ← item.shown?
  let column ← (scope.resolve shown .ofSelectBody).toOption.join
  return (Scope.outputName aliasName column, column)

/-- What is recorded of the items of a projection, each in the scope behind those before it. -/
def SelectItem.outputs (scope : Scope) : List SelectItem → List (Option (String × ColumnRef))
  | [] => []
  | item :: rest =>
      item.output? scope :: SelectItem.outputs (SelectItem.leave scope true [item]) rest

/-- What is recorded of the items of a selection on its own whose rows reach the client. -/
def Select.outputs (select : Select) : List (Option (String × ColumnRef)) :=
  SelectItem.outputs select.entered select.projection

theorem SelectItem.output?_eq_some_iff {scope : Scope} {item : SelectItem} {name : String}
    {column : ColumnRef} :
    item.output? scope = some (name, column) ↔
      ∃ expr aliasName, item.shown? = some (expr, aliasName) ∧
        scope.resolve expr .ofSelectBody = .ok (some column) ∧
          Scope.outputName aliasName column = name := by
  simp only [output?, Option.bind_eq_bind, Option.bind_eq_some_iff, Option.pure_def]
  constructor
  · rintro ⟨⟨expr, aliasName⟩, shows, found, resolved, same⟩
    cases same
    refine ⟨expr, aliasName, shows, ?_, rfl⟩
    cases meant : scope.resolve expr .ofSelectBody with
    | error failure =>
        rw [meant] at resolved
        cases resolved
    | ok known =>
        rw [meant] at resolved
        exact congrArg Except.ok resolved
  · rintro ⟨expr, aliasName, shows, resolved, rfl⟩
    exact ⟨(expr, aliasName), shows, column, by rw [resolved]; rfl, rfl⟩

theorem SelectItem.leave_cons (scope : Scope) (reaches : Bool) (item : SelectItem)
    (rest : List SelectItem) :
    SelectItem.leave scope reaches (item :: rest) =
      SelectItem.leave (SelectItem.leave scope reaches [item]) reaches rest := by
  cases item <;> rfl

end Sql

/-- An item that means a column whatever the output names are is recorded. -/
theorem Sql.SelectItem.mem_outputs {scope : Scope} {items : List SelectItem} {item : SelectItem}
    {expr : Expr} {aliasName : Option Ident} {column : ColumnRef} (member : item ∈ items)
    (shows : item.shown? = some (expr, aliasName))
    (means : ∀ other : Scope, other.frames = scope.frames →
      other.resolve expr .ofSelectBody = .ok (some column)) :
    some (Scope.outputName aliasName column, column) ∈ SelectItem.outputs scope items := by
  induction items generalizing scope with
  | nil => cases member
  | cons head rest inductionHypothesis =>
      rcases List.mem_cons.mp member with rfl | later
      · have own := SelectItem.output?_eq_some_iff.mpr
          ⟨expr, aliasName, shows, means scope rfl, rfl⟩
        rw [SelectItem.outputs, own]
        exact List.mem_cons_self
      · have frames : (SelectItem.leave scope true [head]).frames = scope.frames :=
          SelectItem.holds_leave (fun other => other.frames = scope.frames)
            (fun same => (Scope.frames_showing _ _ _ _).trans same) [head] rfl
        exact List.mem_cons_of_mem _ (inductionHypothesis later fun other same =>
          means other (same.trans frames))

/-- Scopes that mean the same record the same. -/
theorem Scope.Reads.outputs_eq {scope plain : Scope} (reads : scope.Reads plain)
    (items : List SelectItem) :
    SelectItem.outputs scope items = SelectItem.outputs plain items := by
  induction items generalizing scope plain with
  | nil => rfl
  | cons item rest inductionHypothesis =>
      have same : item.output? scope = item.output? plain := by
        simp only [SelectItem.output?, reads.resolve_eq]
      rw [SelectItem.outputs, SelectItem.outputs, same,
        inductionHypothesis (reads.leave true [item])]

/-! ## Where output names come from -/

/-- Recording a name changes no other. -/
theorem ResultColumns.of_column?_register {results registered : ResultColumns}
    {name other : String} {column shown : ColumnRef}
    (accepted : results.register name column = .ok registered)
    (known : registered.column? other = some shown) :
    results.column? other = some shown ∨ (name, column) = (other, shown) := by
  unfold register at accepted
  split at accepted
  · split at accepted
    · cases accepted
      exact .inl known
    · cases accepted
  · cases accepted
    rw [column?, List.lookup_cons] at known
    split at known
    · rename_i same
      cases known
      rw [eq_of_beq same]
      exact .inr rfl
    · exact .inl known

theorem Scope.of_output?_register {scope registered : Scope} {name other : String}
    {column shown : ColumnRef} (accepted : scope.register name column = .ok registered)
    (known : registered.output? other = some shown) :
    scope.output? other = some shown ∨ (name, column) = (other, shown) := by
  rcases register_ok_iff.mp accepted with ⟨results, recorded, rfl⟩
  refine (ResultColumns.of_column?_register recorded known).imp_left fun before => ?_
  cases current : scope.current with
  | none =>
      rw [current] at before
      cases before
  | some outputs =>
      rw [current] at before
      rw [output?, current]
      exact before

namespace Sql

/-- Behind an item the output names are those before it and the one that it records. -/
theorem SelectItem.of_output?_leave {scope : Scope} {item : SelectItem} {name : String}
    {column : ColumnRef}
    (known : (SelectItem.leave scope true [item]).output? name = some column) :
    scope.output? name = some column ∨ item.output? scope = some (name, column) := by
  cases shows : item.shown? with
  | none =>
      cases item with
      | wildcard qualifier => exact .inl known
      | _ => cases shows
  | some shown =>
      rcases shown with ⟨expr, aliasName⟩
      have left : SelectItem.leave scope true [item] = scope.showing true expr aliasName :=
        SelectItem.leave_cons_of_shown shows scope true []
      rw [left, Scope.showing, if_pos rfl] at known
      split at known
      · rename_i found resolved
        cases registered : scope.register (Scope.outputName aliasName found) found with
        | error failure =>
            rw [registered] at known
            exact .inl known
        | ok recorded =>
            rw [registered] at known
            refine (Scope.of_output?_register registered known).imp_right fun same => ?_
            cases same
            exact SelectItem.output?_eq_some_iff.mpr ⟨expr, aliasName, shows, resolved, rfl⟩
      · exact .inl known

/-- An output name behind a projection has been there before, or one of the items records it. -/
theorem SelectItem.exists_output {scope : Scope} {items : List SelectItem} {name : String}
    {column : ColumnRef} (known : (SelectItem.leave scope true items).output? name = some column) :
    scope.output? name = some column ∨ some (name, column) ∈ SelectItem.outputs scope items := by
  induction items generalizing scope with
  | nil => exact .inl known
  | cons item rest inductionHypothesis =>
      rw [SelectItem.leave_cons] at known
      rcases inductionHypothesis known with earlier | later
      · rcases SelectItem.of_output?_leave earlier with before | own
        · exact .inl before
        · exact .inr (by rw [SelectItem.outputs, own]; exact List.mem_cons_self)
      · exact .inr (List.mem_cons_of_mem _ later)

/-- The output names of a selection are those that its items record. -/
theorem Select.exists_output {select : Select} {name : String} {column : ColumnRef}
    (known : select.shown.output? name = some column) :
    some (name, column) ∈ select.outputs := by
  rcases SelectItem.exists_output known with before | recorded
  · cases before
  · exact recorded

end Sql

/-! ## What a walk records -/

section Walks

variable {σ : Type} {visitor : Visitor σ} {related : Traversal σ → Traversal σ → Prop}

/-- A walk that comes behind an item has left what the item records. -/
theorem leave_of_itemRun [Steady related] (tame : visitor.Tame (fun _ => false) related)
    {item newItem : SelectItem} {before after : Traversal σ}
    (itemRun : ItemRun visitor item newItem before after) :
    after.scope = SelectItem.leave before.scope true [item] ∧
      ∀ name column, item.output? before.scope = some (name, column) →
        after.scope.output? name = some column := by
  cases shows : item.shown? with
  | none =>
      rcases tame.wildcard (itemRun.star shows).2 with ⟨starScope, -, -⟩
      refine ⟨?_, fun name column recorded => ?_⟩
      · rw [starScope]
        cases item with
        | wildcard qualifier => rfl
        | _ => cases shows
      · rcases SelectItem.output?_eq_some_iff.mp recorded with ⟨expr, aliasName, shown, -⟩
        rw [shows] at shown
        cases shown
  | some shown =>
      rcases itemRun.shown shows with ⟨newExpr, recorded, recording, walk, -⟩
      rcases walkExpr_stays tame _ shown.1 (Visitor.Steadfast.unmarked _) walk with
        ⟨walkScope, -, -⟩
      refine ⟨?_, fun name column outputs => ?_⟩
      · rw [walkScope, ← gives_registerOutput recording]
        exact (SelectItem.leave_cons_of_shown shows before.scope true []).symm
      · rcases SelectItem.output?_eq_some_iff.mp outputs with
          ⟨expr, aliasName, same, resolved, rfl⟩
        rw [shows] at same
        cases same
        rw [walkScope]
        exact output?_of_gives_registerOutput resolved recording

/-- Behind a projection every output name that an item records stands for its column. -/
theorem outputs_of_gives_walkProjection [Steady related]
    (tame : visitor.Tame (fun _ => false) related) {items result : List SelectItem}
    {before after : Traversal σ} (run : Gives (walkProjection visitor true items) before result after)
    {name : String} {column : ColumnRef}
    (recorded : some (name, column) ∈ SelectItem.outputs before.scope items) :
    after.scope.output? name = some column := by
  induction items generalizing before result with
  | nil => cases recorded
  | cons item rest inductionHypothesis =>
      rcases exists_itemRun run with ⟨newItem, others, middle, itemRun, restRun, rfl⟩
      rcases leave_of_itemRun tame itemRun with ⟨left, known⟩
      rw [SelectItem.outputs, ← left] at recorded
      rcases List.mem_cons.mp recorded with own | later
      · rcases walkProjection_moves tame true rest (Visitor.Steadfast.unmarked _) restRun with
          ⟨restScope, -, -⟩
        rw [restScope]
        exact SelectItem.holds_leave (fun scope => scope.output? name = some column)
          Scope.output?_showing rest (known name column own.symm)
      · exact inductionHypothesis restRun later

/-- Behind a query whose rows reach the client the scope has the output names that the selection
says, and every one that an item records stands for its column. -/
theorem outputs_of_gives_walkQuery [Steady related]
    (tame : visitor.Tame (fun _ => false) related) {query result : Query} {select : Select}
    (selection : query.selection? = some select) {before after : Traversal σ}
    (run : Gives (walkQuery visitor true query) before result after)
    (begins : (before.scope.push true).Begins) :
    after.scope.current = select.shown.current ∧
      ∀ name column, some (name, column) ∈ select.outputs →
        select.shown.output? name = some column := by
  rcases exists_selected_of_query tame selection (Visitor.Steadfast.unmarked _)
    (Visitor.Steadfast.unmarked _) run begins with
    ⟨newSelect, start, entered, shown, joined, chosen, last, -, -, selected, -, -, -, current,
      startBegins, reads⟩
  refine ⟨?_, fun name column recorded => ?_⟩
  · rcases (walkExprs_stays tame _ _ (Visitor.Steadfast.unmarked _)).spec selected.joins with
      ⟨joinedScope, -, -⟩
    rcases (walkExprs_stays tame _ _ (Visitor.Steadfast.unmarked _)).spec selected.chooses with
      ⟨chosenScope, -, -⟩
    rw [current, selected.leaves, chosenScope, joinedScope]
    exact reads.current
  · have projects := selected.projects
    rw [startBegins.returnsRows] at projects
    have enteredReads : entered.scope.Reads select.entered := by
      rw [selected.enters]
      exact startBegins.reads_entered select
    rw [← reads.output?_eq]
    refine outputs_of_gives_walkProjection tame projects ?_
    rw [enteredReads.outputs_eq]
    exact recorded

end Walks

end ColumnVeil
