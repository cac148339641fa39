import ColumnVeil.Failure

/-!
# Scopes

Which tables a name in a query may mean, and which columns its result shows.  A scope is a
stack of frames, one for each query that encloses the current place, and a record of the
output columns of every statement begun so far.
-/

namespace ColumnVeil

open Sql

/-- The clauses that an expression belongs to, as far as they matter to a column in it. -/
structure Context where
  /-- The projection that the client receives. -/
  selectBody : Bool := false
  joinCondition : Bool := false
  /-- The grouping, and the condition on groups. -/
  groupBy : Bool := false
  orderBy : Bool := false
deriving DecidableEq, Repr

namespace Context

/-- Every clause that has no mark of its own. -/
def plain : Context := {}

/-- The projection that the client receives. -/
def ofSelectBody : Context := { selectBody := true }

/-- The condition of a join. -/
def ofJoin : Context := { joinCondition := true }

/-- The grouping, and the condition on groups. -/
def ofGroupBy : Context := { groupBy := true }

/-- The order of a result. -/
def ofOrderBy : Context := { orderBy := true }

end Context

/-- What one query brings into scope: its relations, each by the name that the query uses
and the table it stands for, and whether its projection reaches the client. -/
structure Frame where
  tables : List (String × String) := []
  returnsRows : Bool
deriving DecidableEq, Repr

/-- The output names of a statement that show a column of a table. -/
structure ResultColumns where
  outputs : List (String × ColumnRef) := []
deriving DecidableEq, Repr

namespace ResultColumns

/-- The column behind an output name. -/
def column? (results : ResultColumns) (name : String) : Option ColumnRef :=
  results.outputs.lookup name

/-- Whether a column is shown under some name. -/
def shows (results : ResultColumns) (column : ColumnRef) : Bool :=
  results.outputs.any fun output => output.2 == column

/-- Record an output name, which may only ever stand for one column. -/
def register (results : ResultColumns) (name : String) (column : ColumnRef) :
    Except Failure ResultColumns :=
  match results.column? name with
  | some existing =>
    if existing = column then .ok results else .error (.query (.ambiguousOutput name))
  | none => .ok ⟨(name, column) :: results.outputs⟩

end ResultColumns

/-- The state of name resolution.  The innermost frame comes first. -/
structure Scope where
  frames : List Frame := []
  /-- The results of the statements before the current one, in their order. -/
  earlier : List ResultColumns := []
  /-- The results of the current statement, once one has begun. -/
  current : Option ResultColumns := none
deriving DecidableEq, Repr

namespace Scope

/-- Leave the current statement, if any, and begin another. -/
def beginStatement (scope : Scope) : Scope :=
  { frames := [], earlier := scope.earlier ++ scope.current.toList, current := some {} }

/-- How many statements have begun. -/
def statementCount (scope : Scope) : Nat :=
  scope.earlier.length + scope.current.toList.length

/-- The index of the current statement. -/
def statementIndex (scope : Scope) : Nat :=
  scope.statementCount - 1

/-- The results of a statement. -/
def results? (scope : Scope) (statement : Nat) : Option ResultColumns :=
  (scope.earlier ++ scope.current.toList)[statement]?

/-- Enter a query. -/
def push (scope : Scope) (returnsRows : Bool) : Scope :=
  { scope with frames := { returnsRows } :: scope.frames }

/-- Leave the innermost query. -/
def pop (scope : Scope) : Scope :=
  { scope with frames := scope.frames.tail }

/-- Bring a table into the innermost query under a name. -/
def add (scope : Scope) (name table : String) : Scope :=
  match scope.frames with
  | [] => scope
  | frame :: rest => { scope with frames := { frame with tables := frame.tables ++ [(name, table)] } :: rest }

/-- Whether the projection of the innermost query reaches the client. -/
def returnsRows (scope : Scope) : Bool :=
  match scope.frames with
  | [] => false
  | frame :: _ => frame.returnsRows

/-- Every table in scope, those of the innermost query first. -/
def tables (scope : Scope) : List String :=
  scope.frames.flatMap fun frame => frame.tables.map Prod.snd

/-- The table that a name stands for, in the innermost query that knows the name. -/
def table? (scope : Scope) (name : String) : Option String :=
  scope.frames.findSome? fun frame => frame.tables.lookup name

/-- Whether the current statement shows a column. -/
def shows (scope : Scope) (column : ColumnRef) : Bool :=
  match scope.current with
  | some results => results.shows column
  | none => false

/-- The column behind an output name of the current statement. -/
def output? (scope : Scope) (name : String) : Option ColumnRef :=
  scope.current.bind fun results => results.column? name

/-- Record an output name of the current statement. -/
def register (scope : Scope) (name : String) (column : ColumnRef) : Except Failure Scope := do
  let results ← (scope.current.getD {}).register name column
  return { scope with current := some results }

/-- The column that a name without qualifier means in some frames: a column of the only
table of the innermost frame that has tables, else the column behind an output name. -/
def resolveIn (scope : Scope) (name : String) : List Frame → Except Failure (Option ColumnRef)
  | [] => .ok (scope.output? name)
  | frame :: rest =>
    match frame.tables with
    | [] => resolveIn scope name rest
    | [(_, table)] => .ok (some ⟨table, name⟩)
    | _ =>
      match scope.output? name with
      | some column => .ok (some column)
      | none => .error (.query (.undeterminedColumn name))

/-- The column that a name without qualifier means.  Output names come first in the order
and the grouping of a result. -/
def resolveName (scope : Scope) (name : String) (context : Context) :
    Except Failure (Option ColumnRef) :=
  match if context.orderBy || context.groupBy then scope.output? name else none with
  | some column => .ok (some column)
  | none => scope.resolveIn name scope.frames

/-- The column that an expression refers to, if it is a reference to one. -/
def resolve (scope : Scope) (expr : Expr) (context : Context) :
    Except Failure (Option ColumnRef) :=
  match expr with
  | .identifier ident => scope.resolveName ident.normal context
  | .compound parts =>
    match parts.reverse with
    | column :: qualifier :: _ =>
      match scope.table? qualifier.normal with
      | some table => .ok (some ⟨table, column.normal⟩)
      | none => .error (.query (.missingRelation qualifier.normal))
    | _ => .ok none
  | _ => .ok none

end Scope

end ColumnVeil
