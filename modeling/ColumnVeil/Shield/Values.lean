import ColumnVeil.Catalog.Encoding
import ColumnVeil.Traversal.Walk

/-!
# Values of protected columns

Insertions and updates carry values for protected columns.  How a value is carried is a
matter of the protection: it takes the place of the client's literal, or it goes into a
shadow column at the end.  This module carries the values of one protection through rows
and assignments.
-/

namespace ColumnVeil

open Sql

/-- How the value of a protected column gets into the statement. -/
inductive Carriage
  /-- In a shadow column next to the column itself. -/
  | append (shadow : String)
  /-- In place of the value that the client wrote. -/
  | replace
deriving DecidableEq, Repr

/-- The values of one protection. -/
structure Treatment (σ : Type) where
  /-- What its columns are called in messages. -/
  kind : String
  /-- How the value of a column is carried, if the column is one of its columns. -/
  carriage? : ColumnRule → Option Carriage
  /-- The value for a literal of a column. -/
  value : ColumnRule → Literal → Walk σ Expr

/-- A column of an insertion that a treatment concerns: its position, its rule, and how its
value is carried. -/
structure Target where
  position : Nat
  rule : ColumnRule
  carriage : Carriage
deriving DecidableEq, Repr

namespace Treatment

variable {σ : Type} (treatment : Treatment σ) (catalog : Catalog)

/-- The value for an expression, which has to be a literal. -/
def valueOf (statement : String) (rule : ColumnRule) (expr : Option Expr) : Walk σ Expr :=
  match expr.bind Expr.literal? with
  | some literal => treatment.value rule literal
  | none => throw (.query (.literalRequired statement treatment.kind))

/-- The columns of an insertion that the treatment concerns. -/
def targets (table : String) (columns : List Ident) : List Target :=
  columns.zipIdx.filterMap fun (column, position) => do
    let rule ← catalog.rule? table column.normal
    let carriage ← treatment.carriage? rule
    return { position, rule, carriage }

/-- The shadow columns that are appended for some targets. -/
def shadows (targets : List Target) : List Ident :=
  targets.filterMap fun target =>
    match target.carriage with
    | .append shadow => some ⟨shadow, none⟩
    | .replace => none

/-- A row with the values of all targets. -/
def treatRow (targets : List Target) (row : List Expr) : Walk σ (List Expr) :=
  targets.foldlM (fun row target => do
    let value ← treatment.valueOf "INSERT" target.rule row[target.position]?
    match target.carriage with
    | .append _ => return row ++ [value]
    | .replace => return row.set target.position value) row

/-- The rows of an insertion of some width with the values of all targets. -/
def treatRows (width : Nat) (targets : List Target) (rows : List (List Expr)) :
    Walk σ (List (List Expr)) :=
  rows.mapM fun row =>
    if row.length ≠ width then throw (.query .rowLength) else treatment.treatRow targets row

/-- The columns and the source of an insertion into a protected table. -/
def treatColumns (table : String) (insert : Insert) : Walk σ Insert := do
  if insert.columns.isEmpty then throw (.query .columnsRequired)
  let targets := treatment.targets catalog table insert.columns
  if targets.isEmpty then return insert
  match insert.source with
  | none => return insert
  | some (.mk recursive ctes (.values explicitRow rows) order tail) =>
    let rows ← treatment.treatRows insert.columns.length targets rows
    return { insert with
      columns := insert.columns ++ shadows targets
      source := some (.mk recursive ctes (.values explicitRow rows) order tail) }
  | some _ => throw (.unsupported .insertFromQuery)

/-- An assignment to a column of a protected table, and the assignment to a shadow column
that it calls for. -/
def treatAssignment (table : String) (assignment : Assignment) :
    Walk σ (Assignment × Option Assignment) := do
  match assignment.target with
  | .tuple names =>
    let concerned := names.any fun name =>
      ((name.last?.bind (catalog.rule? table)).bind treatment.carriage?).isSome
    if concerned then throw (.query (.literalRequired "UPDATE" treatment.kind))
    return (assignment, none)
  | .column name =>
    match name.last?.bind (catalog.rule? table) with
    | none => return (assignment, none)
    | some rule =>
      match treatment.carriage? rule with
      | none => return (assignment, none)
      | some carriage =>
        let value ← treatment.valueOf "UPDATE" rule (some assignment.value)
        match carriage with
        | .append shadow => return (assignment, some ⟨.column [⟨shadow, none⟩], value⟩)
        | .replace => return ({ assignment with value }, none)

/-- The assignments to columns of a protected table, those to shadow columns at the end. -/
def treatAssignments (table : String) (assignments : List Assignment) :
    Walk σ (List Assignment) := do
  let treated ← assignments.mapM (treatment.treatAssignment catalog table)
  return treated.map Prod.fst ++ treated.filterMap Prod.snd

/-- An insertion with the values of the treatment. -/
def treatInsert (insert : Insert) : Walk σ Insert := do
  match insert.table.last? with
  | none => return insert
  | some table =>
    if !catalog.isProtected table then return insert
    let insert ← treatment.treatColumns catalog table insert
    match insert.conflict with
    | .assign words assignments condition =>
      let assignments ← treatment.treatAssignments catalog table assignments
      return { insert with conflict := .assign words assignments condition }
    | _ => return insert

/-- An update with the values of the treatment. -/
def treatUpdate (update : Update) : Walk σ Update := do
  match update.table.relation with
  | .table name .. =>
    match name.last? with
    | none => return update
    | some table =>
      if !catalog.isProtected table then return update
      return { update with
        assignments := ← treatment.treatAssignments catalog table update.assignments }
  | _ => return update

end Treatment

end ColumnVeil
