import ColumnVeil.Proofs.Shield.Passage
import ColumnVeil.Proofs.Traversal.Attention

/-!
# Comparisons of indexed columns

The visitor for indexed columns replaces three things as a whole: an equality of joined columns
by itself, a comparison of an indexed column with a literal, and a membership test of such a
column in a list of literals.  `Replaced` says what comes in their place, in any clause.
-/

namespace ColumnVeil

open Sql

namespace IndexShadow

variable {catalog : Catalog} {context : Context} {before after : Traversal Unit}

/--
What an operation is replaced by.  An equality of joined columns stays; a column with
an index that is compared with a literal makes way for its shadow, and the literal for its
digest.
-/
inductive Replaced (catalog : Catalog) (scope : Scope) (context : Context) :
    Expr → Expr → Prop where
  | joined {left right : Expr} {pair : ColumnRef × ColumnRef} :
      context.selectBody = false → JoinShadow.Paired catalog scope context left right pair →
        Replaced catalog scope context (.binary left .equal right) (.binary left .equal right)
  | compared {column constant value left right newLeft newRight : Expr}
      {operator : BinaryOperator} {sides : Expr.Sides} {rule : ColumnRule} {index : BlindIndex} :
      operator = .equal ∨ operator = .notEqual →
        indexIn? catalog scope context column = some (rule, index) →
          Digested rule index [constant] [value] →
            sides.operands column constant = (left, right) →
              sides.operands (column.renamed index.column) value = (newLeft, newRight) →
                Replaced catalog scope context (.binary left operator right)
                  (.binary newLeft operator newRight)
  | listed {column : Expr} {negated : Bool} {items values : List Expr} {rule : ColumnRule}
      {index : BlindIndex} :
      indexIn? catalog scope context column = some (rule, index) →
        Digested rule index items values →
          Replaced catalog scope context (.inList column negated items)
            (.inList (column.renamed index.column) negated values)

/-- What the visitor replaces an operation by. -/
theorem replaced_of_operation {left right : Expr} {operator : BinaryOperator}
    {replacement : Expr}
    (run : Gives (operation catalog left operator right context) before (some replacement) after) :
    after = before ∧
      Replaced catalog before.scope context (.binary left operator right) replacement := by
  rcases operated_of_gives run with ⟨rfl, operated⟩
  refine ⟨rfl, ?_⟩
  cases operated with
  | joined equality outside paired =>
      subst equality
      exact .joined outside paired
  | compared compares _ placed indexed digested newPlaced =>
      exact .compared compares indexed digested placed newPlaced

/-- What the visitor replaces a membership test by. -/
theorem replaced_of_membership {operand : Expr} {items : List Expr} (negated : Bool)
    {replacement : Expr × List Expr}
    (run : Gives (membership catalog operand items context) before (some replacement) after) :
    after = before ∧
      Replaced catalog before.scope context (.inList operand negated items)
        (.inList replacement.1 negated replacement.2) := by
  rcases tested_of_gives run with ⟨rfl, tested⟩
  refine ⟨rfl, ?_⟩
  cases tested with
  | listed indexed digested =>
      exact .listed indexed digested

/-! ## Units -/

/-- Only units are replaced, and by units. -/
theorem Replaced.isUnit {scope : Scope} {unit newUnit : Expr}
    (replaced : Replaced catalog scope context unit newUnit) :
    unit.isUnit = true ∧ newUnit.isUnit = true := by
  cases replaced with
  | joined outside paired =>
      simp [Expr.isUnit, Expr.isOperand, isColumn_of_resolve paired.left,
        isColumn_of_resolve paired.right]
  | @compared _ _ _ _ _ _ _ _ sides _ _ _ indexed digested placed newPlaced =>
      have isColumn := isColumn_of_indexIn? indexed
      have literals := literals_of_digested digested
      simp only [List.all_cons, List.all_nil, Bool.and_true] at literals
      cases sides with
      | columnFirst =>
          cases placed
          cases newPlaced
          simp [Expr.isUnit, Expr.isOperand, isColumn, literals]
      | literalFirst =>
          cases placed
          cases newPlaced
          simp [Expr.isUnit, Expr.isOperand, isColumn, literals]
  | listed indexed digested =>
      have literals := literals_of_digested digested
      simp [Expr.isUnit, isColumn_of_indexIn? indexed, literals]

/-- The visitor for indexed columns is attentive. -/
theorem attentive_visitor : (visitor catalog).Attentive where
  tame := tame_unmarked
  operation run := (replaced_of_operation run).2.isUnit
  membership negated run := (replaced_of_membership negated run).2.isUnit

end IndexShadow

end ColumnVeil
