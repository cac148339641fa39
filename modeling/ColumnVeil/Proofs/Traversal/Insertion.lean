import ColumnVeil.Proofs.Traversal.Run
import ColumnVeil.Traversal.Walk
import Mathlib.Data.List.Forall2

/-!
# Walking through insertions of literals

An insertion that brings rows of literals, returns nothing and settles no conflicts has
nothing in it that a visitor could meet.  After the visitor has seen it as a whole, the
walk leaves it as it is, whatever the visitor does elsewhere.

The statements of a text are walked through one by one, each in a state that those before
it have left behind.
-/

namespace ColumnVeil

open Sql

variable {σ α β : Type}

/-! ## Lists -/

/-- What a loop makes of a list, item by item. -/
theorem forall₂_of_gives_mapM {step : α → Step σ β} {items : List α} {before after : σ}
    {results : List β} (run : Gives (items.mapM step) before results after) :
    List.Forall₂
      (fun item result => ∃ first last, Gives (step item) first result last)
      items results := by
  induction items generalizing before results with
  | nil =>
      rw [List.mapM_nil] at run
      rcases gives_pure_iff.mp run with ⟨rfl, rfl⟩
      exact List.Forall₂.nil
  | cons item items inductionHypothesis =>
      rcases gives_mapM_cons_iff.mp run with ⟨value, middle, rest, first, others, rfl⟩
      exact List.Forall₂.cons ⟨before, middle, first⟩ (inductionHypothesis others)

/-- The partner of an item of a list. -/
theorem exists_getElem?_of_forall₂ {related : α → β → Prop} {items : List α}
    {results : List β} (all : List.Forall₂ related items results) {index : Nat} {item : α}
    (found : items[index]? = some item) :
    ∃ result, results[index]? = some result ∧ related item result := by
  induction all generalizing index with
  | nil =>
      cases found
  | cons head tail inductionHypothesis =>
      cases index with
      | zero =>
          cases found
          exact ⟨_, rfl, head⟩
      | succ index =>
          exact inductionHypothesis found

/-- Items that are partners of partners. -/
theorem forall₂_comp {γ : Type} {first : α → β → Prop} {second : β → γ → Prop}
    {items : List α} {middle : List β} {results : List γ}
    (firstAll : List.Forall₂ first items middle)
    (secondAll : List.Forall₂ second middle results) :
    List.Forall₂ (fun item result => ∃ between, first item between ∧ second between result)
      items results := by
  induction firstAll generalizing results with
  | nil =>
      cases secondAll
      exact List.Forall₂.nil
  | cons head tail inductionHypothesis =>
      cases secondAll with
      | cons secondHead secondTail =>
          exact List.Forall₂.cons ⟨_, head, secondHead⟩ (inductionHypothesis secondTail)

/-! ## Statements -/

/-- The statements of a text are walked through one by one. -/
theorem forall₂_of_gives_walkStatementsFrom {visitor : Visitor σ}
    {statements result : List Statement} {before after : Traversal σ}
    (run : Gives (walkStatementsFrom visitor statements) before result after) :
    List.Forall₂
      (fun statement walked =>
        ∃ first last, Gives (walkStatement visitor statement) first walked last)
      statements result := by
  induction statements generalizing before result with
  | nil =>
      rcases gives_pure_iff.mp run with ⟨rfl, rfl⟩
      exact List.Forall₂.nil
  | cons statement statements inductionHypothesis =>
      simp only [walkStatementsFrom, gives_bind_iff, gives_pure_iff] at run
      rcases run with ⟨_, begun, _, walked, middle, first, rest, _, others, rfl, rfl⟩
      exact List.Forall₂.cons ⟨begun, middle, first⟩ (inductionHypothesis others)

/-- A statement of a text and what the walk makes of it. -/
theorem exists_gives_walkStatement {visitor : Visitor σ} {statements result : List Statement}
    {before after : Traversal σ} {index : Nat} {statement : Statement}
    (run : Gives (walkStatements visitor statements) before result after)
    (found : statements[index]? = some statement) :
    ∃ walked first last,
      result[index]? = some walked ∧
        Gives (walkStatement visitor statement) first walked last := by
  rw [walkStatements, gives_bind_iff] at run
  rcases run with ⟨_, _, _, walks⟩
  rcases exists_getElem?_of_forall₂ (forall₂_of_gives_walkStatementsFrom walks) found with
    ⟨walked, place, first, last, walk⟩
  exact ⟨walked, first, last, place, walk⟩

theorem exists_gives_walkInsert {visitor : Visitor σ} {statements result : List Statement}
    {before after : Traversal σ} {index : Nat} {insert : Insert}
    (run : Gives (walkStatements visitor statements) before result after)
    (found : statements[index]? = some (.insert insert)) :
    ∃ walked first last,
      result[index]? = some (.insert walked) ∧
        Gives (walkInsert visitor insert) first walked last := by
  rcases exists_gives_walkStatement run found with ⟨statement, first, last, place, walk⟩
  simp only [walkStatement, gives_bind_iff, gives_pure_iff] at walk
  rcases walk with ⟨walked, _, insertRun, rfl, _⟩
  exact ⟨walked, first, _, place, insertRun⟩

/-! ## Literals -/

/-- A literal that is walked through stays as it is. -/
theorem walkExpr_literal {visitor : Visitor σ} {context : Context} (expr : Expr)
    (literal : expr.literal?.isSome = true) {before after : Traversal σ} {result : Expr}
    (run : Gives (walkExpr visitor context expr) before result after) :
    expr = result ∧ before = after := by
  cases expr with
  | value constant =>
      exact gives_pure_iff.mp run
  | nested inner =>
      simp only [walkExpr, gives_bind_iff, gives_pure_iff] at run
      rcases run with ⟨walked, last, innerRun, rfl, rfl⟩
      rcases walkExpr_literal inner literal innerRun with ⟨rfl, rfl⟩
      exact ⟨rfl, rfl⟩
  | unary operator operand =>
      have inside : operand.literal?.isSome = true := by
        cases operator with
        | minus =>
            cases number : operand.literal? with
            | none =>
                simp [Expr.literal?, number] at literal
            | some constant =>
                rfl
        | _ => cases literal
      simp only [walkExpr, gives_bind_iff, gives_pure_iff] at run
      rcases run with ⟨walked, last, operandRun, rfl, rfl⟩
      rcases walkExpr_literal operand inside operandRun with ⟨rfl, rfl⟩
      exact ⟨rfl, rfl⟩
  | _ => cases literal
termination_by structural expr

theorem walkExprs_literals {visitor : Visitor σ} {context : Context} (exprs : List Expr)
    (literals : ∀ expr ∈ exprs, expr.literal?.isSome = true)
    {before after : Traversal σ} {result : List Expr}
    (run : Gives (walkExprs visitor context exprs) before result after) :
    exprs = result ∧ before = after := by
  induction exprs generalizing before result with
  | nil =>
      exact gives_pure_iff.mp run
  | cons expr exprs inductionHypothesis =>
      simp only [walkExprs, gives_bind_iff, gives_pure_iff] at run
      rcases run with ⟨walked, middle, first, rest, last, others, rfl, rfl⟩
      rcases walkExpr_literal expr (literals expr List.mem_cons_self) first with ⟨rfl, rfl⟩
      have later : ∀ expr ∈ exprs, expr.literal?.isSome = true := by
        intro expr member
        exact literals expr (List.mem_cons_of_mem _ member)
      rcases inductionHypothesis later others with ⟨rfl, rfl⟩
      exact ⟨rfl, rfl⟩

theorem walkRows_literals {visitor : Visitor σ} (rows : List (List Expr))
    (literals : ∀ row ∈ rows, ∀ expr ∈ row, expr.literal?.isSome = true)
    {before after : Traversal σ} {result : List (List Expr)}
    (run : Gives (walkRows visitor rows) before result after) :
    rows = result ∧ before = after := by
  induction rows generalizing before result with
  | nil =>
      rw [walkRows] at run
      exact gives_pure_iff.mp run
  | cons row rows inductionHypothesis =>
      simp only [walkRows, gives_bind_iff, gives_pure_iff] at run
      rcases run with ⟨walked, middle, first, rest, last, others, rfl, rfl⟩
      rcases walkExprs_literals row (literals row List.mem_cons_self) first with ⟨rfl, rfl⟩
      have later : ∀ row ∈ rows, ∀ expr ∈ row, expr.literal?.isSome = true := by
        intro row member
        exact literals row (List.mem_cons_of_mem _ member)
      rcases inductionHypothesis later others with ⟨rfl, rfl⟩
      exact ⟨rfl, rfl⟩

/-! ## Insertions -/

namespace Sql.Insert

/-- The rows of values that an insertion brings, if it brings some. -/
def rows? (insert : Insert) : Option (List (List Expr)) :=
  match insert.source with
  | some (.mk _ _ (.values _ rows) _ _) => some rows
  | _ => none

/-- An insertion with other columns and other rows of values. -/
def carrying (insert : Insert) (columns : List Ident) (rows : List (List Expr)) : Insert :=
  match insert.source with
  | some (.mk recursive ctes (.values explicitRow _) order tail) =>
      { insert with
        columns
        source := some (.mk recursive ctes (.values explicitRow rows) order tail) }
  | _ => { insert with columns }

/-- The source of an insertion that brings rows of values. -/
theorem source_of_rows? {insert : Insert} {rows : List (List Expr)}
    (brings : insert.rows? = some rows) :
    ∃ recursive ctes explicitRow order tail,
      insert.source = some (.mk recursive ctes (.values explicitRow rows) order tail) := by
  rcases insert with ⟨words, table, aliasName, columns, partition, source, conflict, returning⟩
  cases source with
  | none =>
      cases brings
  | some query =>
      rcases query with ⟨recursive, ctes, body, order, tail⟩
      cases body with
      | values explicitRow found =>
          cases brings
          exact ⟨recursive, ctes, explicitRow, order, tail, rfl⟩
      | _ => cases brings

@[simp]
theorem columns_carrying (insert : Insert) (columns : List Ident) (rows : List (List Expr)) :
    (insert.carrying columns rows).columns = columns := by
  unfold carrying
  split <;> rfl

@[simp]
theorem table_carrying (insert : Insert) (columns : List Ident) (rows : List (List Expr)) :
    (insert.carrying columns rows).table = insert.table := by
  unfold carrying
  split <;> rfl

theorem carrying_self {insert : Insert} {rows : List (List Expr)}
    (brings : insert.rows? = some rows) : insert.carrying insert.columns rows = insert := by
  rcases source_of_rows? brings with ⟨recursive, ctes, explicitRow, order, tail, source⟩
  simp only [carrying, source]
  rw [← source]

theorem carrying_carrying {insert : Insert} {rows : List (List Expr)}
    (brings : insert.rows? = some rows) (middle columns : List Ident)
    (middleRows newRows : List (List Expr)) :
    (insert.carrying middle middleRows).carrying columns newRows =
      insert.carrying columns newRows := by
  rcases source_of_rows? brings with ⟨recursive, ctes, explicitRow, order, tail, source⟩
  simp only [carrying, source]

/-- An insertion of rows of literals, which returns nothing and settles no conflicts. -/
structure OfLiterals (insert : Insert) (rows : List (List Expr)) : Prop where
  brings : insert.rows? = some rows
  literals : ∀ row ∈ rows, ∀ expr ∈ row, expr.literal?.isSome = true
  returning : insert.returning = none
  conflict : insert.conflict = .none

/-- An insertion still brings literals if the rows it gets instead are literals. -/
theorem OfLiterals.carrying {insert : Insert} {rows : List (List Expr)}
    (ofLiterals : insert.OfLiterals rows) (columns : List Ident) {newRows : List (List Expr)}
    (literals : ∀ row ∈ newRows, ∀ expr ∈ row, expr.literal?.isSome = true) :
    (insert.carrying columns newRows).OfLiterals newRows := by
  rcases source_of_rows? ofLiterals.brings with
    ⟨recursive, ctes, explicitRow, order, tail, source⟩
  constructor
  · simp only [Insert.carrying, source, rows?]
  · exact literals
  · simpa only [Insert.carrying, source] using ofLiterals.returning
  · simpa only [Insert.carrying, source] using ofLiterals.conflict

end Sql.Insert

/-- Rows of literals stay as they are in the source of an insertion. -/
theorem walkSource_literals {visitor : Visitor σ} {insert : Insert}
    {rows : List (List Expr)} (ofLiterals : insert.OfLiterals rows)
    {before after : Traversal σ} {result : Option Query}
    (run : Gives (walkSource visitor insert.source) before result after) :
    insert.source = result := by
  rcases Insert.source_of_rows? ofLiterals.brings with
    ⟨recursive, ctes, explicitRow, order, tail, source⟩
  rw [source] at run ⊢
  simp only [walkSource, gives_bind_iff, gives_pure_iff] at run
  rcases run with ⟨walked, middle, rowsRun, rfl, rfl⟩
  rcases walkRows_literals rows ofLiterals.literals rowsRun with ⟨rfl, rfl⟩
  rfl

/--
Of an insertion of literals only the visitor makes something else; the walk that
follows leaves it as it is.
-/
theorem gives_walkInsert {visitor : Visitor σ} {insert result : Insert}
    {before after : Traversal σ} (run : Gives (walkInsert visitor insert) before result after) :
    ∃ visited middle,
      Gives (visitor.insert insert) before visited middle ∧
        ∀ rows, visited.OfLiterals rows → visited = result := by
  simp only [walkInsert, gives_bind_iff, gives_pure_iff] at run
  rcases run with
    ⟨visited, middle, visit, sourced, last, inner, conflict, ended, settled, rfl, rfl⟩
  refine ⟨visited, middle, visit, ?_⟩
  intro rows ofLiterals
  rcases Walk.gives_inFrame_iff.mp inner with ⟨inside, body, rfl⟩
  -- Whether or not the table comes into scope, the source and what is returned follow.
  have content : ∃ start source between returning,
      Gives (walkSource visitor visited.source) start source between ∧
        Gives (walkReturning visitor visited.returning) between returning inside ∧
          { visited with source, returning } = sourced := by
    split at body
    · split at body
      · simp only [gives_bind_iff, gives_pure_iff] at body
        rcases body with
          ⟨_, start, _, source, between, sourceRun, returning, _, returningRun, rfl, rfl⟩
        exact ⟨start, source, between, returning, sourceRun, returningRun, rfl⟩
      · simp only [gives_bind_iff, gives_pure_iff] at body
        rcases body with ⟨source, between, sourceRun, returning, _, returningRun, rfl, rfl⟩
        exact ⟨_, source, between, returning, sourceRun, returningRun, rfl⟩
    · simp only [gives_bind_iff, gives_pure_iff] at body
      rcases body with ⟨source, between, sourceRun, returning, _, returningRun, rfl, rfl⟩
      exact ⟨_, source, between, returning, sourceRun, returningRun, rfl⟩
  rcases content with ⟨start, source, between, returning, sourceRun, returningRun, rfl⟩
  have sameSource := walkSource_literals ofLiterals sourceRun
  rw [ofLiterals.returning] at returningRun
  rcases gives_pure_iff.mp returningRun with ⟨sameReturning, _⟩
  simp only [ofLiterals.conflict] at settled
  rcases gives_pure_iff.mp settled with ⟨sameConflict, _⟩
  rw [← sameSource, ← sameReturning, ← sameConflict, ← ofLiterals.returning,
    ← ofLiterals.conflict]

end ColumnVeil
