import ColumnVeil.Proofs.Shield.Condition
import ColumnVeil.Proofs.Traversal.Spot
import ColumnVeil.Proofs.Traversal.Statement

/-!
# Attention

A visitor is attentive if it replaces nothing as a whole but operations between references and
literals.  `Meets` says that the walk at a spot succeeds in the scope of the spot, and what it
makes of it.  A walk through an expression meets the spots directly inside it
(`Attentive.insideExpr`).
-/

namespace ColumnVeil

open Sql

variable {σ α β : Type} {visitor : Visitor σ} {context : Context} {scope : Scope}

namespace Visitor

/-- What the visitor may replace as a whole are operations between references and literals, by
such operations. -/
structure Attentive (visitor : Visitor σ) : Prop where
  tame : visitor.Tame (fun _ => false) Unrelated
  operation : ∀ {left operator right context replacement before after},
    Gives (visitor.operation left operator right context) before (some replacement) after →
      (Expr.binary left operator right).isUnit = true ∧ replacement.isUnit = true
  membership : ∀ {operand items context replacement before after} (negated : Bool),
    Gives (visitor.membership operand items context) before (some replacement) after →
      (Expr.inList operand negated items).isUnit = true ∧
        (Expr.inList replacement.1 negated replacement.2).isUnit = true

/-- The walk at a spot succeeds, in its scope and some state of the visitor, and makes another
spot of it. -/
inductive Meets (visitor : Visitor σ) : Spot → Spot → Prop where
  | expr {scope : Scope} {context : Context} {expr result : Expr} {own : σ}
      {after : Traversal σ} :
      Gives (walkExpr visitor context expr) ⟨scope, own⟩ result after →
        Meets visitor (.expr scope context expr) (.expr scope context result)
  | star {scope : Scope} {own : σ} {after : Traversal σ} :
      Gives visitor.wildcard ⟨scope, own⟩ () after → Meets visitor (.star scope) (.star scope)
  | query {scope : Scope} {reaches : Bool} {query result : Query} {own : σ}
      {after : Traversal σ} :
      Gives (walkQuery visitor reaches query) ⟨scope, own⟩ result after →
        Meets visitor (.query scope reaches query) (.query scope reaches result)
  | unread {scope : Scope} {feature : String} {own : σ} {after : Traversal σ} :
      Gives (visitor.unsupported feature) ⟨scope, own⟩ () after →
        Meets visitor (.unread scope feature) (.unread scope feature)

/-- The visitor meets the spots of a list one by one. -/
abbrev MeetsAll (visitor : Visitor σ) (spots results : List Spot) : Prop :=
  List.Forall₂ visitor.Meets spots results

theorem MeetsAll.append {first second firstResults secondResults : List Spot}
    (former : visitor.MeetsAll first firstResults)
    (latter : visitor.MeetsAll second secondResults) :
    visitor.MeetsAll (first ++ second) (firstResults ++ secondResults) :=
  List.rel_append former latter

end Visitor

/-! ## Walks in a scope -/

namespace Walk

/-- A walk that begins in a scope ends in it, and gives a value of which something is known. -/
def Here (scope : Scope) (ensured : α → Prop) (walk : Walk σ α) : Prop :=
  ∀ ⦃before after : Traversal σ⦄ ⦃value : α⦄, before.scope = scope →
    Gives walk before value after → after.scope = scope ∧ ensured value

namespace Here

theorem pure {ensured : α → Prop} {value : α} (holds : ensured value) :
    Here scope ensured (Pure.pure value : Walk σ α) := by
  intro before after result here run
  rcases gives_pure_iff.mp run with ⟨rfl, rfl⟩
  exact ⟨here, holds⟩

theorem bind {ensured : α → Prop} {concluded : β → Prop} {walk : Walk σ α}
    {next : α → Walk σ β} (first : Here scope ensured walk)
    (second : ∀ value, ensured value → Here scope concluded (next value)) :
    Here scope concluded (walk >>= next) := by
  intro before after result here run
  rcases gives_bind_iff.mp run with ⟨value, middle, firstRun, secondRun⟩
  rcases first here firstRun with ⟨reached, holds⟩
  exact second value holds reached secondRun

theorem weaken {ensured concluded : α → Prop} {walk : Walk σ α}
    (here : Here scope ensured walk) (enough : ∀ value, ensured value → concluded value) :
    Here scope concluded walk := by
  intro before after value begins run
  rcases here begins run with ⟨kept, holds⟩
  exact ⟨kept, enough value holds⟩

/-- A walk that stays in its scope, and of whose successful runs more is known. -/
theorem of_stays {ensured concluded : α → Prop} {walk : Walk σ α}
    (stays : Stays Unrelated ensured walk)
    (known : ∀ {own value after}, Gives walk ⟨scope, own⟩ value after →
      ensured value → concluded value) : Here scope concluded walk := by
  intro before after value here run
  rcases stays run with ⟨kept, -, holds⟩
  subst here
  exact ⟨kept, known run holds⟩

end Here

end Walk

namespace Visitor.Attentive

/-! ## Expressions -/

/-- A sweep of what holds no references that matter. -/
theorem sweptOther {ensured : α → Prop} {walk : Walk σ α}
    (stays : Walk.Stays Unrelated ensured walk) : Walk.Here scope (fun _ => True) walk :=
  .of_stays stays fun _ _ => trivial

/-- A reference stays a reference, and a literal the same literal. -/
theorem kind (attentive : visitor.Attentive) (expr : Expr) {before after : Traversal σ}
    {result : Expr} (run : Gives (walkExpr visitor context expr) before result after) :
    result.isColumn = expr.isColumn ∧ result.literal? = expr.literal? := by
  cases expr with
  | identifier ident =>
      rw [walkExpr] at run
      have isColumn := (attentive.tame.reference context _ rfl run).2.2.1
      exact ⟨isColumn, Expr.literal?_of_isColumn isColumn⟩
  | compound parts =>
      rw [walkExpr] at run
      have isColumn := (attentive.tame.reference context _ rfl run).2.2.1
      exact ⟨isColumn, Expr.literal?_of_isColumn isColumn⟩
  | unary operator operand =>
      simp only [walkExpr, gives_bind_iff, gives_pure_iff] at run
      rcases run with ⟨newOperand, last, operandRun, rfl, rfl⟩
      refine ⟨rfl, ?_⟩
      cases operator with
      | minus => rw [Expr.literal?, Expr.literal?, (attentive.kind operand operandRun).2]
      | _ => rfl
  | nested inner =>
      simp only [walkExpr, gives_bind_iff, gives_pure_iff] at run
      rcases run with ⟨newInner, last, innerRun, rfl, rfl⟩
      exact ⟨rfl, (attentive.kind inner innerRun).2⟩
  | binary left operator right =>
      rw [walkExpr, gives_bind_iff] at run
      rcases run with ⟨found, middle, operated, run⟩
      cases found with
      | some replacement =>
          rcases gives_pure_iff.mp run with ⟨rfl, rfl⟩
          rcases ((attentive.tame.operation left operator right context
            (Operation.harmless_of_unmarked _)) operated).2.2 replacement rfl with
              ⟨⟨newLeft, newRight, rfl⟩, -⟩
          exact ⟨rfl, rfl⟩
      | none =>
          simp only [gives_bind_iff, gives_pure_iff] at run
          rcases run with ⟨newLeft, between, leftRun, newRight, last, rightRun, rfl, rfl⟩
          exact ⟨rfl, rfl⟩
  | inList operand negated items =>
      rw [walkExpr, gives_bind_iff] at run
      rcases run with ⟨found, middle, tested, run⟩
      cases found with
      | some replacement =>
          rcases gives_pure_iff.mp run with ⟨rfl, rfl⟩
          exact ⟨rfl, rfl⟩
      | none =>
          simp only [gives_bind_iff, gives_pure_iff] at run
          rcases run with ⟨newOperand, between, operandRun, newItems, last, itemsRun, rfl, rfl⟩
          exact ⟨rfl, rfl⟩
  | _ =>
      simp only [walkExpr, Expr.sweep, gives_bind_iff, gives_pure_iff] at run
      grind [Expr.isColumn, Expr.literal?]
termination_by structural expr

/-- An expression that is walked through in a scope: the visitor meets it, and what comes of it
is of its kind. -/
structure Met (visitor : Visitor σ) (scope : Scope) (context : Context) (expr result : Expr) :
    Prop where
  meets : visitor.Meets (.expr scope context expr) (.expr scope context result)
  isColumn : result.isColumn = expr.isColumn
  literal : result.literal? = expr.literal?

theorem Met.isOperand {expr result : Expr} (met : Met visitor scope context expr result) :
    result.isOperand = expr.isOperand := by
  rw [Expr.isOperand, Expr.isOperand, met.isColumn, met.literal]

theorem Met.reference {expr result : Expr} (met : Met visitor scope context expr result)
    (isColumn : expr.isColumn = true) :
    List.Forall₂ (Met visitor scope context) expr.references result.references := by
  rw [Expr.references_of_isColumn isColumn,
    Expr.references_of_isColumn (met.isColumn.trans isColumn)]
  exact .cons met .nil

theorem Met.all_literals {exprs results : List Expr}
    (met : List.Forall₂ (Met visitor scope context) exprs results) :
    (results.all fun item => item.literal?.isSome) =
      exprs.all fun item => item.literal?.isSome := by
  induction met with
  | nil => rfl
  | cons first _ inductionHypothesis =>
      rw [List.all_cons, List.all_cons, first.literal, inductionHypothesis]

theorem Met.all {exprs results : List Expr}
    (met : List.Forall₂ (Met visitor scope context) exprs results) :
    visitor.MeetsAll (exprs.map (.expr scope context)) (results.map (.expr scope context)) := by
  rw [MeetsAll, List.forall₂_map_left_iff, List.forall₂_map_right_iff]
  exact met.imp fun _ _ each => each.meets

theorem expr (attentive : visitor.Attentive) (context : Context) (expr : Expr) :
    Walk.Here scope (Met visitor scope context expr) (walkExpr visitor context expr) := by
  refine .of_stays (walkExpr_stays attentive.tame context expr (Steadfast.unmarked _)) ?_
  intro own result after run _
  rcases attentive.kind expr run with ⟨isColumn, literal⟩
  exact ⟨.expr run, isColumn, literal⟩

theorem exprs (attentive : visitor.Attentive) (context : Context) (exprs : List Expr) :
    Walk.Here scope (List.Forall₂ (Met visitor scope context) exprs)
      (walkExprs visitor context exprs) := by
  induction exprs with
  | nil =>
      exact .pure .nil
  | cons expr rest inductionHypothesis =>
      rw [walkExprs]
      exact (attentive.expr context expr).bind fun _ first =>
        inductionHypothesis.bind fun _ others => .pure (.cons first others)

theorem option (attentive : visitor.Attentive) (context : Context) (expr : Option Expr) :
    Walk.Here scope
      (fun result => List.Forall₂ (Met visitor scope context) expr.toList result.toList)
      (walkOption visitor context expr) := by
  cases expr with
  | none =>
      exact .pure .nil
  | some expr =>
      rw [walkOption]
      exact (attentive.expr context expr).bind fun _ first => .pure (.cons first .nil)

theorem unread (attentive : visitor.Attentive) (feature : String) :
    Walk.Here scope (fun _ => visitor.Meets (.unread scope feature) (.unread scope feature))
      (visitor.unsupported feature) := by
  intro before after value here run
  have kept := attentive.tame.unsupported feature run
  subst here
  rw [← kept] at run ⊢
  exact ⟨rfl, .unread run⟩

/-- A query whose rows do not reach the client leaves its scope as it was. -/
theorem subquery (attentive : visitor.Attentive) (query : Query) :
    Walk.Here scope
      (fun result => visitor.Meets (.query scope false query) (.query scope false result))
      (walkQuery visitor false query) := by
  have moves := walkQuery_moves attentive.tame false query (Steadfast.unmarked _)
  simp only [query.leave_false] at moves
  exact .of_stays moves fun run _ => .query run

theorem body (attentive : visitor.Attentive) (body : QueryBody) :
    Walk.Here scope
      (fun result => visitor.Meets (.query scope false body.asQuery)
        (.query scope false result.asQuery))
      (Walk.inFrame false (walkBody visitor false body)) := by
  intro before after result here run
  have asked : Gives (walkQuery visitor false body.asQuery) before result.asQuery after := by
    rcases Walk.gives_inFrame_iff.mp run with ⟨inside, bodyRun, rfl⟩
    simp only [QueryBody.asQuery, walkQuery, gives_bind_iff, gives_pure_iff,
      Walk.gives_inFrame_iff]
    have nothing {α : Type} {state : Traversal σ} :
        Gives (pure [] : Walk σ (List α)) state [] state := gives_pure_iff.mpr ⟨rfl, rfl⟩
    exact ⟨[], before, nothing, inside, ⟨result, inside, bodyRun, [], inside, nothing, rfl, rfl⟩,
      rfl⟩
  exact attentive.subquery body.asQuery here asked

/-! ## Constructs that are not told apart -/

/-- What a sweep does with the references that it comes to. -/
def sweeping (visitor : Visitor σ) (context : Context) : Sweep (Walk σ) :=
  ⟨visitor.reference context, fun _ => pure ()⟩

mutual

/-- The references outside all queries are met in the scope of the construct. -/
theorem swept (attentive : visitor.Attentive) (context : Context) (expr : Expr) :
    Walk.Here scope
      (fun result => List.Forall₂ (Met visitor scope context) expr.references result.references)
      (expr.sweep (sweeping visitor context)) := by
  cases expr with
  | identifier ident =>
      have walks : Walk.Here scope _ (walkExpr visitor context (.identifier ident)) :=
        attentive.expr context (.identifier ident)
      rw [walkExpr] at walks
      exact walks.weaken fun _ met => met.reference rfl
  | compound parts =>
      have walks : Walk.Here scope _ (walkExpr visitor context (.compound parts)) :=
        attentive.expr context (.compound parts)
      rw [walkExpr] at walks
      exact walks.weaken fun _ met => met.reference rfl
  | value constant =>
      exact .pure .nil
  | binary left operator right =>
      exact (attentive.swept context left).bind fun _ first =>
        (attentive.swept context right).bind fun _ second => .pure (List.rel_append first second)
  | unary operator operand =>
      exact (attentive.swept context operand).bind fun _ first => .pure first
  | nested inner =>
      exact (attentive.swept context inner).bind fun _ first => .pure first
  | nullTest operand negated =>
      exact (attentive.swept context operand).bind fun _ first => .pure first
  | inList operand negated items =>
      exact (attentive.swept context operand).bind fun _ first =>
        (attentive.sweptAll context items).bind fun _ second =>
          .pure (List.rel_append first second)
  | inQuery operand negated body =>
      exact (attentive.swept context operand).bind fun _ first =>
        (sweptOther ((attentive.tame.sweeps context).obeys.body body)).bind fun _ _ => .pure first
  | between operand negated low high =>
      exact (attentive.swept context operand).bind fun _ first =>
        (attentive.swept context low).bind fun _ second =>
          (attentive.swept context high).bind fun _ third =>
            .pure (List.rel_append (List.rel_append first second) third)
  | like operand negated word pattern escape =>
      exact (attentive.swept context operand).bind fun _ first =>
        (attentive.swept context pattern).bind fun _ second =>
          .pure (List.rel_append first second)
  | array named elements =>
      exact (attentive.sweptAll context elements).bind fun _ first => .pure first
  | subquery query =>
      exact (sweptOther ((attentive.tame.sweeps context).obeys.query query)).bind fun _ _ =>
        .pure .nil
  | existence negated query =>
      exact (sweptOther ((attentive.tame.sweeps context).obeys.query query)).bind fun _ _ =>
        .pure .nil
  | call name opening late closing =>
      exact (attentive.sweptParts context opening).bind fun _ first =>
        (attentive.sweptParts context closing).bind fun _ second =>
          (attentive.sweptParts context late).bind fun _ third =>
            .pure (List.rel_append (List.rel_append first second) third)
  | form parts =>
      exact (attentive.sweptParts context parts).bind fun _ first => .pure first
termination_by structural expr

theorem sweptAll (attentive : visitor.Attentive) (context : Context) (exprs : List Expr) :
    Walk.Here scope
      (fun results => List.Forall₂ (Met visitor scope context) (Expr.referencesAll exprs)
        (Expr.referencesAll results))
      (Expr.sweepAll (sweeping visitor context) exprs) := by
  cases exprs with
  | nil =>
      exact .pure .nil
  | cons expr rest =>
      exact (attentive.swept context expr).bind fun _ first =>
        (attentive.sweptAll context rest).bind fun _ others =>
          .pure (List.rel_append first others)
termination_by structural exprs

theorem sweptPart (attentive : visitor.Attentive) (context : Context) (part : Part) :
    Walk.Here scope
      (fun result => List.Forall₂ (Met visitor scope context) part.references result.references)
      (part.sweep (sweeping visitor context)) := by
  cases part with
  | words text =>
      exact .pure .nil
  | expr expr =>
      exact (attentive.swept context expr).bind fun _ first => .pure first
  | query query =>
      exact (sweptOther ((attentive.tame.sweeps context).obeys.query query)).bind fun _ _ =>
        .pure .nil
  | tables tables =>
      exact (sweptOther ((attentive.tame.sweeps context).obeys.tables tables)).bind fun _ _ =>
        .pure .nil
  | relation name =>
      exact .pure .nil
termination_by structural part

theorem sweptParts (attentive : visitor.Attentive) (context : Context) (parts : List Part) :
    Walk.Here scope
      (fun results => List.Forall₂ (Met visitor scope context) (Part.referencesAll parts)
        (Part.referencesAll results))
      (Part.sweepAll (sweeping visitor context) parts) := by
  cases parts with
  | nil =>
      exact .pure .nil
  | cons part rest =>
      exact (attentive.sweptPart context part).bind fun _ first =>
        (attentive.sweptParts context rest).bind fun _ others =>
          .pure (List.rel_append first others)
termination_by structural parts

end

/-! ## The spots of an expression -/

/-- A unit that is replaced or walked through has nothing inside it, before and after. -/
theorem spots_of_isUnit {expr result : Expr} (isUnit : expr.isUnit = true)
    (stillUnit : result.isUnit = true) :
    visitor.MeetsAll (expr.spots scope context) (result.spots scope context) := by
  have nothing {unit : Expr} (isUnit : unit.isUnit = true) : unit.spots scope context = [] := by
    unfold Expr.isUnit at isUnit
    split at isUnit
    · simp [Expr.spots, Expr.isUnit, Expr.queries, isUnit]
    · simp [Expr.spots, Expr.isUnit, Expr.queries, isUnit]
    · cases isUnit
  rw [nothing isUnit, nothing stillUnit]
  exact .nil

/-- The operands of an expression that is no unit, and the queries in it. -/
theorem spots_of_parts {expr result : Expr} (sameUnit : result.isUnit = expr.isUnit)
    (operands : List.Forall₂ (Met visitor scope context) expr.operands result.operands)
    (queries : visitor.MeetsAll (expr.queries.map (.query scope false))
      (result.queries.map (.query scope false))) :
    visitor.MeetsAll (expr.spots scope context) (result.spots scope context) := by
  rw [Expr.spots, Expr.spots, sameUnit]
  refine .append ?_ queries
  split
  · exact .nil
  · exact Met.all operands

theorem operated (attentive : visitor.Attentive) (left : Expr) (operator : BinaryOperator)
    (right : Expr) (context : Context) :
    Walk.Here scope
      (fun found => ∀ replacement ∈ found,
        (Expr.binary left operator right).isUnit = true ∧ replacement.isUnit = true)
      (visitor.operation left operator right context) := by
  refine .of_stays (attentive.tame.operation left operator right context
    (Operation.harmless_of_unmarked _)) ?_
  rintro own found after run - replacement rfl
  exact attentive.operation run

theorem tested (attentive : visitor.Attentive) (operand : Expr) (items : List Expr)
    (context : Context) :
    Walk.Here scope
      (fun found => ∀ replacement ∈ found, ∀ negated,
        (Expr.inList operand negated items).isUnit = true ∧
          (Expr.inList replacement.1 negated replacement.2).isUnit = true)
      (visitor.membership operand items context) := by
  refine .of_stays (attentive.tame.membership operand items context) ?_
  rintro own found after run - replacement rfl negated
  exact attentive.membership negated run

/-- The visitor meets the spots directly inside an expression. -/
theorem insideExpr (attentive : visitor.Attentive) (context : Context) (expr : Expr) :
    Walk.Here scope
      (fun result => visitor.MeetsAll (expr.spots scope context) (result.spots scope context))
      (walkExpr visitor context expr) := by
  cases expr with
  | identifier ident =>
      refine (attentive.expr context (.identifier ident)).weaken fun result met => ?_
      cases result with
      | identifier ident => exact .nil
      | compound parts => exact .nil
      | _ => cases met.isColumn
  | compound parts =>
      refine (attentive.expr context (.compound parts)).weaken fun result met => ?_
      cases result with
      | identifier ident => exact .nil
      | compound parts => exact .nil
      | _ => cases met.isColumn
  | value constant =>
      exact .pure .nil
  | binary left operator right =>
      rw [walkExpr]
      refine (attentive.operated left operator right context).bind fun found replaced => ?_
      cases found with
      | some replacement =>
          exact .pure (spots_of_isUnit (replaced _ rfl).1 (replaced _ rfl).2)
      | none =>
          refine (attentive.expr context left).bind fun _ leftMet => ?_
          refine (attentive.expr context right).bind fun _ rightMet => .pure ?_
          refine spots_of_parts ?_ (.cons leftMet (.cons rightMet .nil)) .nil
          rw [Expr.isUnit, Expr.isUnit, leftMet.isOperand, rightMet.isOperand]
  | unary operator operand =>
      rw [walkExpr]
      exact (attentive.expr context operand).bind fun _ met =>
        .pure (spots_of_parts rfl (.cons met .nil) .nil)
  | nested inner =>
      rw [walkExpr]
      exact (attentive.expr context inner).bind fun _ met =>
        .pure (spots_of_parts rfl (.cons met .nil) .nil)
  | nullTest operand negated =>
      rw [walkExpr]
      exact (attentive.expr context operand).bind fun _ met =>
        .pure (spots_of_parts rfl (.cons met .nil) .nil)
  | inList operand negated items =>
      rw [walkExpr]
      refine (attentive.tested operand items context).bind fun found replaced => ?_
      cases found with
      | some replacement =>
          exact .pure (spots_of_isUnit (replaced _ rfl negated).1 (replaced _ rfl negated).2)
      | none =>
          refine (attentive.expr context operand).bind fun _ met => ?_
          refine (attentive.exprs context items).bind fun _ itemsMet => .pure ?_
          refine spots_of_parts ?_ (.cons met itemsMet) .nil
          rw [Expr.isUnit, Expr.isUnit, met.isColumn, Met.all_literals itemsMet]
  | inQuery operand negated body =>
      rw [walkExpr]
      exact (attentive.expr context operand).bind fun _ met =>
        (attentive.body body).bind fun _ bodyMet =>
          .pure (spots_of_parts rfl (.cons met .nil) (.cons bodyMet .nil))
  | between operand negated low high =>
      rw [walkExpr]
      exact (attentive.expr context operand).bind fun _ met =>
        (attentive.expr context low).bind fun _ lowMet =>
          (attentive.expr context high).bind fun _ highMet =>
            .pure (spots_of_parts rfl (.cons met (.cons lowMet (.cons highMet .nil))) .nil)
  | like operand negated word pattern escape =>
      rw [walkExpr]
      exact (attentive.expr context operand).bind fun _ met =>
        (attentive.expr context pattern).bind fun _ patternMet =>
          .pure (spots_of_parts rfl (.cons met (.cons patternMet .nil)) .nil)
  | array named elements =>
      rw [walkExpr]
      exact (attentive.exprs context elements).bind fun _ met =>
        .pure (spots_of_parts rfl met .nil)
  | subquery query =>
      rw [walkExpr]
      exact (attentive.subquery query).bind fun _ met =>
        .pure (spots_of_parts rfl .nil (.cons met .nil))
  | existence negated query =>
      rw [walkExpr]
      exact (attentive.subquery query).bind fun _ met =>
        .pure (spots_of_parts rfl .nil (.cons met .nil))
  | call name opening late closing =>
      rw [walkExpr]
      exact (attentive.sweptParts context opening).bind fun _ first =>
        (attentive.sweptParts context closing).bind fun _ second =>
          (attentive.sweptParts context late).bind fun _ third =>
            .pure (spots_of_parts rfl (List.rel_append (List.rel_append first second) third) .nil)
  | form parts =>
      rw [walkExpr]
      exact (attentive.sweptParts context parts).bind fun _ first =>
        .pure (spots_of_parts rfl first .nil)

end Visitor.Attentive

end ColumnVeil
