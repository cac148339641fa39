import ColumnVeil.Proofs.Shield.Renewal
import ColumnVeil.Proofs.Traversal.Restoration
import ColumnVeil.Shield.Chain

/-!
# The shields restore the scope

The shields ask the scope and record what they have seen in states of their own; none of them
changes the frames.  So whatever a shield walks through, whether it accepts or refuses it, the
frames behind it are those before it.
-/

namespace ColumnVeil

open Sql

variable {σ : Type} {catalog : Catalog} {part : List Frame → List Frame}

/-! ## Joins -/

namespace JoinShadow

theorem restores_pair? (left : Expr) (operator : BinaryOperator) (right : Expr)
    (context : Context) : Walk.Restores part (fun _ => True)
      (pair? catalog left operator right context : Walk σ (Option (ColumnRef × ColumnRef))) := by
  unfold pair?
  split
  · exact .pure trivial
  · split
    · exact .pure trivial
    · refine (Walk.Restores.resolve left context).after fun leftColumn => ?_
      refine (Walk.Restores.resolve right context).after fun rightColumn => ?_
      split
      · exact .pure trivial
      · exact .pure trivial

theorem obeys_treatment_restores : (treatment catalog).Obeys (Walk.Restores.logic part) :=
  fun _ _ => Walk.Restores.ofExcept _

theorem restores_operation (left : Expr) (operator : BinaryOperator) (right : Expr)
    (context : Context) :
    Walk.Restores part (fun _ => True) (operation catalog left operator right context) := by
  refine (restores_pair? left operator right context).after fun pair => ?_
  split
  · exact .pure trivial
  · refine Walk.Restores.scope.after fun scope => ?_
    refine (Walk.Restores.logic part).refuseIf _ _ ?_
    split
    · exact (Walk.Restores.modifyOwn _).after fun _ => .pure trivial
    · exact .pure trivial

theorem visitor_restoring (catalog : Catalog) : (visitor catalog).Restoring where
  insert insert := Treatment.Obeys.insertion obeys_treatment_restores insert
  update update := Treatment.Obeys.alteration obeys_treatment_restores update
  membership _ _ _ := .pure trivial
  operation := restores_operation
  column expr column context := by
    simp only [visitor, JoinShadow.column]
    split
    · exact .pure trivial
    · exact .throw _
  wildcard := .pure trivial
  unsupported _ := .pure trivial
  other := .pure trivial

end JoinShadow

/-! ## Blind indexes -/

namespace IndexShadow

theorem obeys_treatment_restores : treatment.Obeys (Walk.Restores.logic part) := by
  intro rule literal
  simp only [treatment]
  split
  · exact Walk.Restores.ofExcept _
  · exact .pure trivial

theorem restores_indexed? (expr : Expr) (context : Context) :
    Walk.Restores part (fun _ => True) (indexed? catalog expr context) := by
  refine (Walk.Restores.resolve expr context).after fun found => ?_
  split
  · exact .pure trivial
  · exact .pure trivial

theorem restores_membership (operand : Expr) (items : List Expr) (context : Context) :
    Walk.Restores part (fun _ => True) (membership catalog operand items context) := by
  unfold membership
  split
  · exact .pure trivial
  · split
    · exact .pure trivial
    · refine (restores_indexed? operand context).after fun found => ?_
      split
      · exact .pure trivial
      · exact ((Walk.Restores.logic part).mapM (fun _ => Walk.Restores.ofExcept _) _).after fun _ =>
          .pure trivial

theorem restores_operation (left : Expr) (operator : BinaryOperator) (right : Expr)
    (context : Context) :
    Walk.Restores part (fun _ => True) (operation catalog left operator right context) := by
  unfold operation
  refine (JoinShadow.restores_pair? left operator right context).after fun pair => ?_
  split
  · exact .pure trivial
  · split
    · exact .pure trivial
    · extract_lets compared
      have comparison (column literal : Expr) :
          Walk.Restores part (fun _ => True) (compared column literal) := by
        refine (restores_indexed? column context).after fun found => ?_
        split
        · exact .pure trivial
        · exact (Walk.Restores.ofExcept _).after fun _ => .pure trivial
      split
      · exact (comparison left right).after fun _ => .pure trivial
      · exact (comparison right left).after fun _ => .pure trivial
      · exact .pure trivial

theorem visitor_restoring (catalog : Catalog) : (visitor catalog).Restoring where
  insert insert := Treatment.Obeys.insertion obeys_treatment_restores insert
  update update := Treatment.Obeys.alteration obeys_treatment_restores update
  membership := restores_membership
  operation := restores_operation
  column expr column context := by
    simp only [visitor, IndexShadow.column]
    split
    · exact .pure trivial
    · split
      · exact .pure trivial
      · split
        · exact .pure trivial
        · exact .throw _
  wildcard := .pure trivial
  unsupported _ := .pure trivial
  other := .pure trivial

end IndexShadow

/-! ## Encryption -/

namespace Encryption

/-- Drawing from the stream of random bytes leaves the scope alone. -/
theorem restores_value (rule : ColumnRule) (key : Bytes) (literal : Literal) :
    Walk.Restores part (fun _ => True) (value rule key literal) := by
  cases known : rule.plaintext literal with
  | error failure =>
      rw [value, known]
      exact .throw failure
  | ok found =>
      cases found with
      | none =>
          rw [value, known]
          exact .pure trivial
      | some plaintext =>
          intro state
          rw [run_value known]
          cases Crypto.Cbc.encrypt key plaintext state.own.entropy with
          | error error => exact ⟨.refl _, fun _ _ => trivial⟩
          | ok sent => exact ⟨.refl _, fun _ _ => trivial⟩

theorem obeys_treatment_restores : treatment.Obeys (Walk.Restores.logic part) := by
  intro rule literal
  simp only [treatment]
  split
  · exact restores_value rule _ literal
  · exact .pure trivial

theorem restores_refuseProtected (failure : Failure) :
    Walk.Restores part (fun _ => True) (refuseProtected catalog failure) := by
  have asking : Walk.Restores part (fun _ => True) (inProtectedScope catalog) :=
    Walk.Restores.scope.after fun _ => .pure trivial
  refine asking.after fun found => ?_
  split
  · exact .throw failure
  · exact .pure trivial

theorem visitor_restoring (catalog : Catalog) : (visitor catalog).Restoring where
  insert insert := Treatment.Obeys.insertion obeys_treatment_restores insert
  update update := Treatment.Obeys.alteration obeys_treatment_restores update
  membership _ _ _ := .pure trivial
  operation _ _ _ _ := .pure trivial
  column expr column context := by
    simp only [visitor]
    split
    · exact .throw _
    · exact .pure trivial
  wildcard := restores_refuseProtected _
  unsupported _ := restores_refuseProtected _
  other := restores_refuseProtected _

end Encryption

/-- Whatever the shields walk through, in whatever scope and context, and whether they accept or
refuse it: the frames behind are those before, down to the tables in each, and the statements show
what they have shown, of which only the current one may show more. -/
theorem shields_restore_the_scope (catalog : Catalog) :
    (IndexShadow.visitor catalog).RestoresScope ∧ (JoinShadow.visitor catalog).RestoresScope ∧
      (Encryption.visitor catalog).RestoresScope :=
  ⟨(IndexShadow.visitor_restoring catalog).restoresScope,
    (JoinShadow.visitor_restoring catalog).restoresScope,
    (Encryption.visitor_restoring catalog).restoresScope⟩

end ColumnVeil
