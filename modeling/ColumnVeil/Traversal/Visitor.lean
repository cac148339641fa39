import ColumnVeil.Traversal.Scope

/-!
# Visitors

A visitor says what happens at the constructs that concern protected columns while a
statement is walked through.  It has a state of its own beside the scope; both outlive a
failure, so that what a refused statement has left behind can be told.
-/

namespace ColumnVeil

open Sql

/-- The state of a walk: the scope, and the visitor's own state. -/
structure Traversal (σ : Type) where
  scope : Scope := {}
  own : σ

/-- A step of a walk.  A failure keeps the state that was reached. -/
abbrev Walk (σ : Type) := ExceptT Failure (StateM (Traversal σ))

namespace Walk

variable {σ α : Type}

/-- The scope at this point. -/
def scope : Walk σ Scope := do
  return (← get).scope

/-- Change the scope. -/
def changeScope (change : Scope → Scope) : Walk σ Unit :=
  modify fun state => { state with scope := change state.scope }

/-- Fail, or go on with a value. -/
def ofExcept (result : Except Failure α) : Walk σ α :=
  match result with
  | .ok value => pure value
  | .error failure => throw failure

/-- Walk inside a query of its own.  Its frame is left again even if the walk fails. -/
def inFrame (returnsRows : Bool) (body : Walk σ α) : Walk σ α := fun state =>
  let (result, after) := body { state with scope := state.scope.push returnsRows }
  (result, { after with scope := after.scope.pop })

/-- Bring a table into scope under a name. -/
def addTable (name table : String) : Walk σ Unit :=
  changeScope fun scope => scope.add name table

/-- Bring a relation into scope that has no table behind it, if it has a name. -/
def addAlias (aliasName : Option TableAlias) : Walk σ Unit :=
  match aliasName with
  | some aliasName => addTable aliasName.name.normal aliasName.name.normal
  | none => pure ()

/-- The column that an expression refers to. -/
def resolve (expr : Expr) (context : Context) : Walk σ (Option ColumnRef) := do
  ofExcept ((← scope).resolve expr context)

/-- Record that a projection item shows a column, if it does. -/
def registerOutput (expr : Expr) (aliasName : Option Ident) (context : Context) : Walk σ Unit := do
  match ← resolve expr context with
  | some column =>
    let name := match aliasName with
      | some aliasName => aliasName.normal
      | none => column.column
    let registered ← ofExcept ((← scope).register name column)
    changeScope fun _ => registered
  | none => return

end Walk

/-- What happens at the constructs that concern protected columns. -/
structure Visitor (σ : Type) where
  /-- Before an insertion is walked through. -/
  insert : Insert → Walk σ Insert := pure
  /-- Before an update is walked through. -/
  update : Update → Walk σ Update := pure
  /-- At a membership test in a list: the operand and the items that replace the test's own,
  if it is not to be walked through. -/
  membership : Expr → List Expr → Context → Walk σ (Option (Expr × List Expr)) :=
    fun _ _ _ => pure none
  /-- At a binary operation: the expression that replaces it, if it is not to be walked
  through. -/
  operation : Expr → BinaryOperator → Expr → Context → Walk σ (Option Expr) :=
    fun _ _ _ _ => pure none
  /-- At a reference that has been resolved to a column. -/
  column : Expr → ColumnRef → Context → Walk σ Expr := fun expr _ _ => pure expr
  /-- At a star in a projection. -/
  wildcard : Walk σ Unit := pure ()
  /-- At a construct that is not looked into. -/
  unsupported : String → Walk σ Unit := fun _ => pure ()
  /-- At a statement that is not looked into, with the tables that it names in scope. -/
  other : Walk σ Unit := pure ()

/-- Resolve a reference to a column, and visit it if it is one. -/
def Visitor.reference {σ : Type} (visitor : Visitor σ) (context : Context) (expr : Expr) :
    Walk σ Expr := do
  match ← Walk.resolve expr context with
  | some column => visitor.column expr column context
  | none => return expr

end ColumnVeil
