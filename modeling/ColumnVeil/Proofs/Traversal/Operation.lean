import ColumnVeil.Proofs.Traversal.Site
import ColumnVeil.Sql.Literal

/-!
# Operations

A walk asks its visitor about every binary operation that it comes to, in the order in which
it comes to them.  `operations` lists them for every part of a query.

In a condition some equalities hold whenever the condition does: those that only `AND` and
parentheses stand around.  `Expr.equated` lists their sides, and `Expr.buried` the other
operations of a condition, connectives that lead to an equality apart.
-/

namespace ColumnVeil.Sql

/-- A binary operation with its operands. -/
structure Operation where
  left : Expr
  operator : BinaryOperator
  right : Expr

/-- An operation that is no equality between two operands with a mark. -/
def Operation.Harmless (marked : Expr → Bool) (operation : Operation) : Prop :=
  ¬ (operation.operator = .equal ∧ marked operation.left = true ∧ marked operation.right = true)

instance (marked : Expr → Bool) (operation : Operation) :
    Decidable (operation.Harmless marked) :=
  inferInstanceAs (Decidable (¬ _))

/-- Without marks every operation is harmless. -/
theorem Operation.harmless_of_unmarked (operation : Operation) :
    operation.Harmless fun _ => false := by
  rintro ⟨_, impossible, _⟩
  cases impossible

/-! ## Operations of syntax -/

mutual

/-- The operations of an expression.  Those inside a construct that is not told apart are
never come to. -/
def Expr.operations : Expr → List Operation
  | .identifier _ => []
  | .compound _ => []
  | .value _ => []
  | .binary left operator right =>
      ⟨left, operator, right⟩ :: (left.operations ++ right.operations)
  | .unary _ operand => operand.operations
  | .nested inner => inner.operations
  | .nullTest operand _ => operand.operations
  | .inList operand _ items => operand.operations ++ Expr.operationsAll items
  | .inQuery operand _ body => operand.operations ++ body.operations
  | .between operand _ low high => operand.operations ++ low.operations ++ high.operations
  | .like operand _ _ pattern _ => operand.operations ++ pattern.operations
  | .array _ elements => Expr.operationsAll elements
  | .subquery query => query.operations
  | .existence _ query => query.operations
  | .call .. => []
  | .form .. => []

def Expr.operationsAll : List Expr → List Operation
  | [] => []
  | expr :: rest => expr.operations ++ Expr.operationsAll rest

def Expr.operationsOption : Option Expr → List Operation
  | none => []
  | some expr => expr.operations

def Query.operations : Query → List Operation
  | .mk _ ctes body order _ =>
      Cte.operationsAll ctes ++ body.operations ++ OrderItem.operationsAll order

def Cte.operationsAll : List Cte → List Operation
  | [] => []
  | .mk _ _ query _ :: rest => query.operations ++ Cte.operationsAll rest

def OrderItem.operationsAll : List OrderItem → List Operation
  | [] => []
  | .mk expr _ :: rest => expr.operations ++ OrderItem.operationsAll rest

def QueryBody.operations : QueryBody → List Operation
  | .select select => select.operations
  | .parenthesized query => query.operations
  | .combination .. => []
  | .values _ rows => QueryBody.operationsOfRows rows
  | .table _ => []
  | .change _ => []

def QueryBody.operationsOfRows : List (List Expr) → List Operation
  | [] => []
  | row :: rest => Expr.operationsAll row ++ QueryBody.operationsOfRows rest

def Select.operations : Select → List Operation
  | .mk _ projection _ relations _ condition groups _ having _ =>
      TableWithJoins.derivedOperationsAll relations ++ SelectItem.operationsAll projection ++
        TableWithJoins.conditionOperationsAll relations ++ Expr.operationsOption condition ++
        Expr.operationsAll groups ++ Expr.operationsOption having

def SelectItem.operationsAll : List SelectItem → List Operation
  | [] => []
  | .expr expr :: rest => expr.operations ++ SelectItem.operationsAll rest
  | .aliased expr _ :: rest => expr.operations ++ SelectItem.operationsAll rest
  | .wildcard _ :: rest => SelectItem.operationsAll rest

/-- The operations of the derived tables among relations. -/
def TableWithJoins.derivedOperationsAll : List TableWithJoins → List Operation
  | [] => []
  | tables :: rest => tables.derivedOperations ++ TableWithJoins.derivedOperationsAll rest

def TableWithJoins.derivedOperations : TableWithJoins → List Operation
  | .mk relation joins => relation.derivedOperations ++ Join.derivedOperationsAll joins

def Join.derivedOperationsAll : List Join → List Operation
  | [] => []
  | .mk _ relation _ _ :: rest => relation.derivedOperations ++ Join.derivedOperationsAll rest

def TableFactor.derivedOperations : TableFactor → List Operation
  | .table .. => []
  | .derived _ query _ => query.operations
  | .nestedJoin inner _ => inner.derivedOperations
  | .function .. => []

/-- The operations of the conditions of joins. -/
def TableWithJoins.conditionOperationsAll : List TableWithJoins → List Operation
  | [] => []
  | tables :: rest => tables.conditionOperations ++ TableWithJoins.conditionOperationsAll rest

def TableWithJoins.conditionOperations : TableWithJoins → List Operation
  | .mk relation joins => relation.conditionOperations ++ Join.conditionOperationsAll joins

def Join.conditionOperationsAll : List Join → List Operation
  | [] => []
  | .mk _ relation _ constraint :: rest =>
      relation.conditionOperations ++ constraint.operations ++ Join.conditionOperationsAll rest

def TableFactor.conditionOperations : TableFactor → List Operation
  | .nestedJoin inner _ => inner.conditionOperations
  | _ => []

def JoinConstraint.operations : JoinConstraint → List Operation
  | .on condition => condition.operations
  | _ => []

end

@[simp]
theorem Expr.operations_of_isColumn {expr : Expr} (isColumn : expr.isColumn = true) :
    expr.operations = [] := by
  cases expr with
  | identifier ident =>
      rfl
  | compound parts =>
      rfl
  | _ => cases isColumn

theorem Expr.operationsAll_append (first second : List Expr) :
    Expr.operationsAll (first ++ second) =
      Expr.operationsAll first ++ Expr.operationsAll second := by
  induction first with
  | nil =>
      rfl
  | cons expr rest inductionHypothesis =>
      rw [List.cons_append, Expr.operationsAll, inductionHypothesis, Expr.operationsAll,
        List.append_assoc]

/-! ## Conditions of joins -/

mutual

/-- The conditions of joins, in the order in which they are walked through. -/
def TableWithJoins.conditions : TableWithJoins → List Expr
  | .mk relation joins => relation.conditions ++ Join.conditionsAll joins

def Join.conditionsAll : List Join → List Expr
  | [] => []
  | .mk _ relation _ constraint :: rest =>
      relation.conditions ++ constraint.conditions ++ Join.conditionsAll rest

def TableFactor.conditions : TableFactor → List Expr
  | .nestedJoin inner _ => inner.conditions
  | _ => []

def JoinConstraint.conditions : JoinConstraint → List Expr
  | .on condition => [condition]
  | _ => []

end

def TableWithJoins.conditionsAll : List TableWithJoins → List Expr
  | [] => []
  | tables :: rest => tables.conditions ++ TableWithJoins.conditionsAll rest

mutual

theorem TableWithJoins.operationsAll_conditions (tables : TableWithJoins) :
    Expr.operationsAll tables.conditions = tables.conditionOperations := by
  cases tables with
  | mk relation joins =>
      rw [TableWithJoins.conditions, Expr.operationsAll_append, relation.operationsAll_conditions,
        Join.operationsAll_conditionsAll joins, TableWithJoins.conditionOperations]

theorem Join.operationsAll_conditionsAll (joins : List Join) :
    Expr.operationsAll (Join.conditionsAll joins) = Join.conditionOperationsAll joins := by
  cases joins with
  | nil =>
      rfl
  | cons join rest =>
      cases join with
      | mk words relation matching constraint =>
          rw [Join.conditionsAll, Expr.operationsAll_append, Expr.operationsAll_append,
            relation.operationsAll_conditions, constraint.operationsAll_conditions,
            Join.operationsAll_conditionsAll rest, Join.conditionOperationsAll]

theorem TableFactor.operationsAll_conditions (factor : TableFactor) :
    Expr.operationsAll factor.conditions = factor.conditionOperations := by
  cases factor with
  | nestedJoin inner aliasName =>
      exact inner.operationsAll_conditions
  | _ => rfl

theorem JoinConstraint.operationsAll_conditions (constraint : JoinConstraint) :
    Expr.operationsAll constraint.conditions = constraint.operations := by
  cases constraint with
  | on condition =>
      exact List.append_nil _
  | _ => rfl

end

theorem TableWithJoins.operationsAll_conditionsAll (relations : List TableWithJoins) :
    Expr.operationsAll (TableWithJoins.conditionsAll relations) =
      TableWithJoins.conditionOperationsAll relations := by
  induction relations with
  | nil =>
      rfl
  | cons tables rest inductionHypothesis =>
      rw [TableWithJoins.conditionsAll, Expr.operationsAll_append,
        tables.operationsAll_conditions, inductionHypothesis,
        TableWithJoins.conditionOperationsAll]

/-! ## Equalities that a condition asserts -/

namespace Expr

/-- An expression that asserts what its parts assert, or an equality itself. -/
def asserts : Expr → Bool
  | .binary _ .and _ => true
  | .binary _ .equal _ => true
  | .nested _ => true
  | _ => false

/-- The two sides of every equality that holds whenever the condition does. -/
def equated : Expr → List (Expr × Expr)
  | .binary left .and right => left.equated ++ right.equated
  | .binary left .equal right => [(left, right)]
  | .nested inner => inner.equated
  | _ => []

/-- The operations of a condition that are no such equality. -/
def buried : Expr → List Operation
  | .binary left .and right => left.buried ++ right.buried
  | .binary left .equal right => left.operations ++ right.operations
  | .nested inner => inner.buried
  | expr => expr.operations

/-- Whether an operation asserts something is a matter of its operator. -/
theorem asserts_binary_of_operator {left right newLeft newRight : Expr}
    {operator : BinaryOperator} (asserts : (binary newLeft operator newRight).asserts = true) :
    (binary left operator right).asserts = true := by
  cases operator with
  | equal => rfl
  | and => rfl
  | _ => cases asserts

theorem equated_of_not_asserts {expr : Expr} (other : expr.asserts = false) :
    expr.equated = [] := by
  unfold asserts at other
  unfold equated
  split at other <;> simp_all

theorem buried_of_not_asserts {expr : Expr} (other : expr.asserts = false) :
    expr.buried = expr.operations := by
  unfold asserts at other
  unfold buried
  split at other <;> simp_all

end Expr

/-! ## Selections -/

namespace Select

def projection : Select → List SelectItem
  | .mk _ projection _ _ _ _ _ _ _ _ => projection

def relations : Select → List TableWithJoins
  | .mk _ _ _ relations _ _ _ _ _ _ => relations

def condition : Select → Option Expr
  | .mk _ _ _ _ _ condition _ _ _ _ => condition

/-- The names of the relations of a selection. -/
def names (select : Select) : List (String × String) :=
  TableWithJoins.namesAll select.relations

/-- The conditions of the joins of a selection, and its own. -/
def conditions (select : Select) : List Expr :=
  TableWithJoins.conditionsAll select.relations ++ select.condition.toList

/-- The sides of every equality that holds in a row that the selection returns. -/
def equated (select : Select) : List (Expr × Expr) :=
  select.conditions.flatMap Expr.equated

/-- The operations of a selection outside the conditions. -/
def otherOperations : Select → List Operation
  | .mk _ projection _ relations _ _ groups _ having _ =>
      TableWithJoins.derivedOperationsAll relations ++ SelectItem.operationsAll projection ++
        Expr.operationsAll groups ++ Expr.operationsOption having

end Select

mutual

/-- The selection that a query puts into order, in parentheses or not. -/
def Query.selection? : Query → Option Select
  | .mk _ _ body _ _ => body.selection?

def QueryBody.selection? : QueryBody → Option Select
  | .select select => some select
  | .parenthesized query => query.selection?
  | _ => none

end

mutual

/-- The operations of a query around its selection. -/
def Query.outerOperations : Query → List Operation
  | .mk _ ctes body order _ =>
      Cte.operationsAll ctes ++ body.outerOperations ++ OrderItem.operationsAll order

def QueryBody.outerOperations : QueryBody → List Operation
  | .parenthesized query => query.outerOperations
  | _ => []

end

/-- The operations of a query with a selection, those equalities apart that the conditions
of the selection assert. -/
def Query.buried (query : Query) (select : Select) : List Operation :=
  query.outerOperations ++ select.otherOperations ++ select.conditions.flatMap Expr.buried

end ColumnVeil.Sql
