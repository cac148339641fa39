import ColumnVeil.Proofs.Shield.Insertion
import ColumnVeil.Proofs.Shield.Pair
import ColumnVeil.Shield.Index

/-!
# What the visitor for indexed columns replaces

The visitor is asked before the operands of an operation or of a membership test are walked
through.  `operated_of_gives` and `tested_of_gives` say all that it can answer: an equality of
joined columns as it is, a comparison of an indexed column with literals put to the shadow of
the column, or nothing.
-/

namespace ColumnVeil

open Sql

namespace IndexShadow

variable {catalog : Catalog} {context : Context} {before after : Traversal Unit}

/-! ## Indexed references -/

/-- The rule and the index of the column that an expression refers to in a clause. -/
def indexIn? (catalog : Catalog) (scope : Scope) (context : Context) (expr : Expr) :
    Option (ColumnRule × BlindIndex) :=
  match scope.resolve expr context with
  | .ok (some column) => do
      let rule ← catalog.ruleOf? column
      return (rule, ← rule.blindIndex)
  | _ => none

theorem indexIn?_of_gives {expr : Expr} {found : Option (ColumnRule × BlindIndex)}
    (run : Gives (indexed? catalog expr context) before found after) :
    after = before ∧ indexIn? catalog before.scope context expr = found := by
  simp only [indexed?, gives_bind_iff, Walk.gives_resolve_iff] at run
  rcases run with ⟨resolved, _, ⟨known, rfl⟩, run⟩
  cases resolved with
  | none =>
      rcases gives_pure_iff.mp run with ⟨rfl, rfl⟩
      exact ⟨rfl, by rw [indexIn?, known]⟩
  | some column =>
      rcases gives_pure_iff.mp run with ⟨rfl, rfl⟩
      exact ⟨rfl, by rw [indexIn?, known]⟩

/-- Only references have an index. -/
theorem isColumn_of_indexIn? {scope : Scope} {expr : Expr} {rule : ColumnRule}
    {index : BlindIndex} (indexed : indexIn? catalog scope context expr = some (rule, index)) :
    expr.isColumn = true := by
  unfold indexIn? at indexed
  split at indexed
  · rename_i column resolved
    exact isColumn_of_resolve resolved
  · cases indexed

/-! ## Constants -/

/-- The constants that indexed values are compared with: the digests of some literals. -/
def Digested (rule : ColumnRule) (index : BlindIndex) : List Expr → List Expr → Prop :=
  List.Forall₂ fun constant value =>
    ∃ literal, constant.literal? = some literal ∧ Stored rule (Digests index) literal value

/-- The constants for literals are literals themselves. -/
theorem literals_of_digested {rule : ColumnRule} {index : BlindIndex}
    {constants values : List Expr} (digested : Digested rule index constants values) :
    (constants.all fun item => item.literal?.isSome) = true ∧
      (values.all fun item => item.literal?.isSome) = true := by
  induction digested with
  | nil =>
      exact ⟨rfl, rfl⟩
  | cons first _ inductionHypothesis =>
      rcases first with ⟨literal, written, stored⟩
      simp only [List.all_cons, written, literal?_stored stored, Option.isSome_some,
        Bool.true_and]
      exact inductionHypothesis

/-- Literals that are written out are compared through their digests. -/
theorem digested_of_gives {rule : ColumnRule} {index : BlindIndex} {literals : List Literal}
    {values : List Expr}
    (run : Gives (literals.mapM fun literal => (Walk.ofExcept (value rule index literal) :
      Walk Unit Expr)) before values after) :
    before = after ∧ List.Forall₂ (Stored rule (Digests index)) literals values := by
  induction literals generalizing before values with
  | nil =>
      rw [List.mapM_nil] at run
      rcases gives_pure_iff.mp run with ⟨rfl, rfl⟩
      exact ⟨rfl, List.Forall₂.nil⟩
  | cons literal literals inductionHypothesis =>
      rcases gives_mapM_cons_iff.mp run with ⟨value, middle, rest, first, others, rfl⟩
      rcases Walk.gives_ofExcept_iff.mp first with ⟨computed, rfl⟩
      rcases inductionHypothesis others with ⟨rfl, stored⟩
      exact ⟨rfl, List.Forall₂.cons (stored_of_encoded (fun _ => rfl) computed) stored⟩

theorem forall₂_of_mapM_literal? {items : List Expr} {literals : List Literal}
    (written : items.mapM Expr.literal? = some literals) :
    List.Forall₂ (fun item literal => item.literal? = some literal) items literals := by
  induction items generalizing literals with
  | nil =>
      cases written
      exact List.Forall₂.nil
  | cons item items inductionHypothesis =>
      simp only [List.mapM_cons, Option.bind_eq_bind, Option.bind_eq_some_iff,
        Option.pure_def, Option.some.injEq] at written
      rcases written with ⟨literal, first, rest, others, rfl⟩
      exact List.Forall₂.cons first (inductionHypothesis others)

theorem exists_mapM_literal? {items : List Expr}
    (literals : ∀ item ∈ items, item.literal?.isSome = true) :
    ∃ written, items.mapM Expr.literal? = some written := by
  induction items with
  | nil =>
      exact ⟨[], rfl⟩
  | cons item items inductionHypothesis =>
      rcases Option.isSome_iff_exists.mp (literals item List.mem_cons_self) with
        ⟨literal, first⟩
      have later : ∀ item ∈ items, item.literal?.isSome = true := by
        intro item member
        exact literals item (List.mem_cons_of_mem _ member)
      rcases inductionHypothesis later with ⟨rest, others⟩
      exact ⟨literal :: rest, by simp [List.mapM_cons, first, others]⟩

/-- A column that is compared with a literal makes way for its shadow, if it has an index. -/
theorem digested_of_compared {column constant : Expr}
    (literal : constant.literal?.isSome = true) {found : Option (Expr × Expr)}
    (run : Gives (do
        match ← indexed? catalog column context with
        | none => return none
        | some (rule, index) =>
            let value ← Walk.ofExcept (value rule index (constant.literal?.getD .null))
            return some (column.renamed index.column, value)) before found after) :
    after = before ∧
      ((found = none ∧ indexIn? catalog before.scope context column = none) ∨
        ∃ rule index value, found = some (column.renamed index.column, value) ∧
          indexIn? catalog before.scope context column = some (rule, index) ∧
            Digested rule index [constant] [value]) := by
  rcases Option.isSome_iff_exists.mp literal with ⟨written, isWritten⟩
  rcases gives_bind_iff.mp run with ⟨indexed, middle, lookup, run⟩
  rcases indexIn?_of_gives lookup with ⟨rfl, known⟩
  cases indexed with
  | none =>
      rcases gives_pure_iff.mp run with ⟨rfl, rfl⟩
      exact ⟨rfl, Or.inl ⟨rfl, known⟩⟩
  | some pair =>
      rcases pair with ⟨rule, index⟩
      rcases gives_bind_iff.mp run with ⟨value, last, digest, run⟩
      rcases Walk.gives_ofExcept_iff.mp digest with ⟨computed, rfl⟩
      rcases gives_pure_iff.mp run with ⟨rfl, rfl⟩
      rw [isWritten, Option.getD_some] at computed
      exact ⟨rfl, Or.inr ⟨rule, index, value, rfl, known,
        .cons ⟨written, isWritten, stored_of_encoded (fun _ => rfl) computed⟩ .nil⟩⟩

/-! ## Operations -/

/--
What the visitor makes of an operation: an equality of joined columns stays as it is, a
comparison of an indexed column with a literal is put to the shadow of the column, and the
operands of anything else are walked through.
-/
inductive Operated (catalog : Catalog) (scope : Scope) (context : Context) (left : Expr)
    (operator : BinaryOperator) (right : Expr) : Option Expr → Prop where
  | joined {pair : ColumnRef × ColumnRef} :
      operator = .equal → context.selectBody = false →
        JoinShadow.Paired catalog scope context left right pair →
          Operated catalog scope context left operator right (some (.binary left operator right))
  | compared {column constant value newLeft newRight : Expr} {sides : Expr.Sides}
      {rule : ColumnRule} {index : BlindIndex} :
      operator = .equal ∨ operator = .notEqual → constant.literal?.isSome = true →
        sides.operands column constant = (left, right) →
          indexIn? catalog scope context column = some (rule, index) →
            Digested rule index [constant] [value] →
              sides.operands (column.renamed index.column) value = (newLeft, newRight) →
                Operated catalog scope context left operator right
                  (some (.binary newLeft operator newRight))
  | walked :
      (∀ pair, ¬ (operator = .equal ∧ context.selectBody = false ∧
        JoinShadow.Paired catalog scope context left right pair)) →
        (∀ (column constant : Expr) (sides : Expr.Sides),
          operator = .equal ∨ operator = .notEqual → column.isColumn = true →
            constant.literal?.isSome = true → sides.operands column constant = (left, right) →
              indexIn? catalog scope context column = none) →
          Operated catalog scope context left operator right none

section Operations

variable {left right : Expr} {operator : BinaryOperator} {found : Option Expr}

/-- A comparison with a literal is none of joined columns. -/
theorem not_paired_of_literal {scope : Scope} {pair : ColumnRef × ColumnRef}
    (literal : left.literal?.isSome = true ∨ right.literal?.isSome = true) :
    ¬ JoinShadow.Paired catalog scope context left right pair := by
  intro paired
  rcases literal with literal | literal
  · rw [Expr.literal?_of_isColumn (isColumn_of_resolve paired.left)] at literal
    cases literal
  · rw [Expr.literal?_of_isColumn (isColumn_of_resolve paired.right)] at literal
    cases literal

/-- A comparison whose sides are known is put to the shadow if its column has an index. -/
theorem operated_of_sides {column constant : Expr} {sides : Expr.Sides}
    {compared : Option (Expr × Expr)}
    (apart : ∀ pair, ¬ (operator = .equal ∧ context.selectBody = false ∧
      JoinShadow.Paired catalog before.scope context left right pair))
    (compares : operator = .equal ∨ operator = .notEqual) (isColumn : column.isColumn = true)
    (literal : constant.literal?.isSome = true)
    (placed : sides.operands column constant = (left, right))
    (run : Gives (do
        match ← indexed? catalog column context with
        | none => return none
        | some (rule, index) =>
            let value ← Walk.ofExcept (value rule index (constant.literal?.getD .null))
            return some (column.renamed index.column, value)) before compared after) :
    after = before ∧
      Operated catalog before.scope context left operator right
        (compared.map fun pair =>
          .binary (sides.operands pair.1 pair.2).1 operator (sides.operands pair.1 pair.2).2) := by
  rcases digested_of_compared literal run with
    ⟨rfl, ⟨rfl, other⟩ | ⟨rule, index, value, rfl, known, digested⟩⟩
  · refine ⟨rfl, .walked apart ?_⟩
    intro column' constant' sides' _ isColumn' literal' placed'
    rcases Expr.operands_unique isColumn literal placed isColumn' literal' placed' with
      ⟨rfl, rfl, rfl⟩
    exact other
  · exact ⟨rfl, .compared compares literal placed known digested rfl⟩

theorem operated_of_gives
    (run : Gives (operation catalog left operator right context) before found after) :
    after = before ∧ Operated catalog before.scope context left operator right found := by
  rcases gives_bind_iff.mp run with ⟨paired, middle, lookup, run⟩
  rcases JoinShadow.pair?_of_gives lookup with ⟨rfl, means⟩
  cases paired with
  | some pair =>
      rcases (means pair).mp rfl with ⟨equality, outside, joined⟩
      rcases gives_pure_iff.mp run with ⟨rfl, rfl⟩
      exact ⟨rfl, .joined equality outside joined⟩
  | none =>
      have apart : ∀ pair, ¬ (operator = .equal ∧ context.selectBody = false ∧
          JoinShadow.Paired catalog before.scope context left right pair) := by
        intro pair joined
        cases (means pair).mpr joined
      simp only [Option.isSome_none, Bool.false_eq_true, if_false] at run
      split at run
      · rename_i other
        rcases gives_pure_iff.mp run with ⟨rfl, rfl⟩
        refine ⟨rfl, .walked apart ?_⟩
        rintro _ _ _ (equal | notEqual)
        · exact absurd equal other.1
        · exact absurd notEqual other.2
      rename_i compares
      have equality : operator = .equal ∨ operator = .notEqual := by
        rcases Decidable.not_and_iff_or_not.mp compares with equal | notEqual
        · exact Or.inl (Decidable.not_not.mp equal)
        · exact Or.inr (Decidable.not_not.mp notEqual)
      split at run
      · rename_i columnFirst
        rcases Expr.exists_operands_of_sides? columnFirst with ⟨_, _, ⟨⟩, isColumn, literal⟩
        rcases gives_bind_iff.mp run with ⟨compared, last, search, wrapped⟩
        rcases gives_pure_iff.mp wrapped with ⟨rfl, rfl⟩
        exact operated_of_sides apart equality isColumn literal
          (rfl : Expr.Sides.columnFirst.operands _ _ = _) search
      · rename_i literalFirst
        rcases Expr.exists_operands_of_sides? literalFirst with ⟨_, _, ⟨⟩, isColumn, literal⟩
        rcases gives_bind_iff.mp run with ⟨compared, last, search, wrapped⟩
        rcases gives_pure_iff.mp wrapped with ⟨rfl, rfl⟩
        exact operated_of_sides apart equality isColumn literal
          (rfl : Expr.Sides.literalFirst.operands _ _ = _) search
      · rename_i noSides
        rcases gives_pure_iff.mp run with ⟨rfl, rfl⟩
        refine ⟨rfl, .walked apart ?_⟩
        intro column constant sides _ isColumn literal placed
        rw [Expr.sides?_operands isColumn literal placed] at noSides
        cases noSides

end Operations

/-! ## Membership tests -/

/--
What the visitor makes of a membership test: a test of an indexed column in a list of literals
is put to the shadow of the column, and the operands of another one are walked through.
-/
inductive Tested (catalog : Catalog) (scope : Scope) (context : Context) (operand : Expr)
    (items : List Expr) : Option (Expr × List Expr) → Prop where
  | listed {values : List Expr} {rule : ColumnRule} {index : BlindIndex} :
      indexIn? catalog scope context operand = some (rule, index) →
        Digested rule index items values →
          Tested catalog scope context operand items (some (operand.renamed index.column, values))
  | walked :
      (operand.isColumn = true → (∀ item ∈ items, item.literal?.isSome = true) →
        indexIn? catalog scope context operand = none) →
        Tested catalog scope context operand items none

theorem tested_of_gives {operand : Expr} {items : List Expr}
    {found : Option (Expr × List Expr)}
    (run : Gives (membership catalog operand items context) before found after) :
    after = before ∧ Tested catalog before.scope context operand items found := by
  rw [membership] at run
  split at run
  · rename_i noColumn
    rcases gives_pure_iff.mp run with ⟨rfl, rfl⟩
    refine ⟨rfl, .walked fun isColumn _ => ?_⟩
    rw [isColumn] at noColumn
    cases noColumn
  split at run
  · rename_i unwritten
    rcases gives_pure_iff.mp run with ⟨rfl, rfl⟩
    refine ⟨rfl, .walked fun _ literals => ?_⟩
    rcases exists_mapM_literal? literals with ⟨written, all⟩
    rw [unwritten] at all
    cases all
  rename_i literals written
  rcases gives_bind_iff.mp run with ⟨indexed, middle, lookup, run⟩
  rcases indexIn?_of_gives lookup with ⟨rfl, known⟩
  cases indexed with
  | none =>
      rcases gives_pure_iff.mp run with ⟨rfl, rfl⟩
      exact ⟨rfl, .walked fun _ _ => known⟩
  | some pair =>
      rcases pair with ⟨rule, index⟩
      rcases gives_bind_iff.mp run with ⟨values, last, digests, run⟩
      rcases digested_of_gives digests with ⟨rfl, stored⟩
      rcases gives_pure_iff.mp run with ⟨rfl, rfl⟩
      exact ⟨rfl, .listed known
        ((forall₂_comp (forall₂_of_mapM_literal? written) stored).imp fun _ _ => id)⟩

end IndexShadow

end ColumnVeil
