import ColumnVeil.Traversal.Sweep
import ColumnVeil.Traversal.Visitor

/-!
# Walking through statements

A walk goes through a statement clause by clause, keeps the scope up to date, and hands what
it meets to a visitor.  It gives the statement with everything that the visitor replaced.

The relations of a query are walked through in two phases.  Entering a relation brings its
names into scope; the conditions of its joins come later, when the projection has been
seen.  So entering gives the relation as it is, together with the rest of the walk.
-/

namespace ColumnVeil

open Sql

variable {σ : Type}

mutual

/-- An expression in a context.  Every column inside a construct that is not told apart is
visited in the context of the construct. -/
def walkExpr (visitor : Visitor σ) (context : Context) : Expr → Walk σ Expr
  | .identifier ident => visitor.reference context (.identifier ident)
  | .compound parts => visitor.reference context (.compound parts)
  | .value value => return .value value
  | .binary left operator right => do
    match ← visitor.operation left operator right context with
    | some replacement => return replacement
    | none =>
      return .binary (← walkExpr visitor context left) operator (← walkExpr visitor context right)
  | .unary operator operand => return .unary operator (← walkExpr visitor context operand)
  | .nested inner => return .nested (← walkExpr visitor context inner)
  | .nullTest operand negated => return .nullTest (← walkExpr visitor context operand) negated
  | .inList operand negated items => do
    match ← visitor.membership operand items context with
    | some (operand, items) => return .inList operand negated items
    | none =>
      return .inList (← walkExpr visitor context operand) negated
        (← walkExprs visitor context items)
  | .inQuery operand negated body => do
    let operand ← walkExpr visitor context operand
    return .inQuery operand negated (← Walk.inFrame false (walkBody visitor false body))
  | .between operand negated low high =>
    return .between (← walkExpr visitor context operand) negated
      (← walkExpr visitor context low) (← walkExpr visitor context high)
  | .like operand negated word pattern escape =>
    return .like (← walkExpr visitor context operand) negated word
      (← walkExpr visitor context pattern) escape
  | .array named elements => return .array named (← walkExprs visitor context elements)
  | .subquery query => return .subquery (← walkQuery visitor false query)
  | .existence negated query => return .existence negated (← walkQuery visitor false query)
  | .call name opening late closing =>
    (Expr.call name opening late closing).sweep ⟨visitor.reference context, fun _ => pure ()⟩
  | .form parts => (Expr.form parts).sweep ⟨visitor.reference context, fun _ => pure ()⟩

def walkExprs (visitor : Visitor σ) (context : Context) : List Expr → Walk σ (List Expr)
  | [] => return []
  | expr :: rest =>
    return (← walkExpr visitor context expr) :: (← walkExprs visitor context rest)

def walkOption (visitor : Visitor σ) (context : Context) : Option Expr → Walk σ (Option Expr)
  | none => return none
  | some expr => return some (← walkExpr visitor context expr)

/-- A query, whose projection may be what the client receives.  Its common table
expressions come first, each on its own. -/
def walkQuery (visitor : Visitor σ) (returnsRows : Bool) : Query → Walk σ Query
  | .mk recursive ctes body order tail => do
    let ctes ← walkCtes visitor ctes
    Walk.inFrame returnsRows (do
      let body ← walkBody visitor returnsRows body
      let order ← walkOrder visitor order
      return .mk recursive ctes body order tail)

def walkCtes (visitor : Visitor σ) : List Cte → Walk σ (List Cte)
  | [] => return []
  | .mk aliasName materialized query origin :: rest =>
    return .mk aliasName materialized (← walkQuery visitor false query) origin
      :: (← walkCtes visitor rest)

def walkOrder (visitor : Visitor σ) : List OrderItem → Walk σ (List OrderItem)
  | [] => return []
  | .mk expr direction :: rest =>
    return .mk (← walkExpr visitor .ofOrderBy expr) direction :: (← walkOrder visitor rest)

def walkBody (visitor : Visitor σ) (returnsRows : Bool) : QueryBody → Walk σ QueryBody
  | .select select => return .select (← walkSelect visitor select)
  | .parenthesized query => return .parenthesized (← walkQuery visitor returnsRows query)
  | .combination .. => throw (.unsupported .setOperation)
  | .values explicitRow rows => return .values explicitRow (← walkRows visitor rows)
  | .table _ => throw (.unsupported .statement)
  | .change _ => throw (.unsupported .statement)

def walkRows (visitor : Visitor σ) : List (List Expr) → Walk σ (List (List Expr))
  | [] => return []
  | row :: rest => return (← walkExprs visitor .plain row) :: (← walkRows visitor rest)

/-- A selection: its relations, its projection, the conditions of its joins, its condition,
its grouping and the condition on groups. -/
def walkSelect (visitor : Visitor σ) : Select → Walk σ Select
  | .mk lead projection target relations views condition groups grouping having tail => do
    let (_, conditions) ← enterAll visitor relations
    let projection ← walkProjection visitor (← Walk.scope).returnsRows projection
    let relations ← conditions
    let condition ← walkOption visitor .plain condition
    let groups ← walkExprs visitor .ofGroupBy groups
    let having ← walkOption visitor .ofGroupBy having
    return .mk lead projection target relations views condition groups grouping having tail

/-- A projection.  The columns that it shows are recorded if the client receives them. -/
def walkProjection (visitor : Visitor σ) (returnsRows : Bool) :
    List SelectItem → Walk σ (List SelectItem)
  | [] => return []
  | .expr expr :: rest => do
    let context : Context := { selectBody := returnsRows }
    if returnsRows then Walk.registerOutput expr none context
    let expr ← walkExpr visitor context expr
    return .expr expr :: (← walkProjection visitor returnsRows rest)
  | .aliased expr aliasName :: rest => do
    let context : Context := { selectBody := returnsRows }
    if returnsRows then Walk.registerOutput expr (some aliasName) context
    let expr ← walkExpr visitor context expr
    return .aliased expr aliasName :: (← walkProjection visitor returnsRows rest)
  | .wildcard qualifier :: rest => do
    visitor.wildcard
    return .wildcard qualifier :: (← walkProjection visitor returnsRows rest)

/-- Bring a relation and everything joined to it into scope.  The walk that comes back goes
through the conditions of the joins. -/
def enter (visitor : Visitor σ) :
    TableWithJoins → Walk σ (TableWithJoins × Walk σ TableWithJoins)
  | .mk relation joins => do
    let (relation, inner) ← enterFactor visitor relation
    let (joins, conditions) ← enterJoins visitor joins
    return (.mk relation joins, return .mk (← inner) (← conditions))

def enterAll (visitor : Visitor σ) :
    List TableWithJoins → Walk σ (List TableWithJoins × Walk σ (List TableWithJoins))
  | [] => return ([], return [])
  | tables :: rest => do
    let (tables, conditions) ← enter visitor tables
    let (rest, others) ← enterAll visitor rest
    return (tables :: rest, return (← conditions) :: (← others))

def enterJoins (visitor : Visitor σ) : List Join → Walk σ (List Join × Walk σ (List Join))
  | [] => return ([], return [])
  | .mk words relation matching constraint :: rest => do
    let (relation, inner) ← enterFactor visitor relation
    let (rest, others) ← enterJoins visitor rest
    return (.mk words relation matching constraint :: rest, do
      let relation ← inner
      let constraint ← walkConstraint visitor constraint
      return .mk words relation matching constraint :: (← others))

def enterFactor (visitor : Visitor σ) :
    TableFactor → Walk σ (TableFactor × Walk σ TableFactor)
  | .table name arguments aliasName tail => do
    match name.last? with
    | some table =>
      let reference := match aliasName with
        | some aliasName => aliasName.name.normal
        | none => table
      Walk.addTable reference table
    | none => pure ()
    return (.table name arguments aliasName tail, return .table name arguments aliasName tail)
  | .derived isLateral query aliasName => do
    let query ← walkQuery visitor false query
    Walk.addAlias aliasName
    return (.derived isLateral query aliasName, return .derived isLateral query aliasName)
  | .nestedJoin inner aliasName => do
    let (inner, conditions) ← enter visitor inner
    Walk.addAlias aliasName
    return (.nestedJoin inner aliasName, return .nestedJoin (← conditions) aliasName)
  | .function parts aliasName tail => do
    Walk.addAlias aliasName
    visitor.unsupported "table function"
    return (.function parts aliasName tail, return .function parts aliasName tail)

def walkConstraint (visitor : Visitor σ) : JoinConstraint → Walk σ JoinConstraint
  | .none => return .none
  | .on condition => return .on (← walkExpr visitor .ofJoin condition)
  | .sharing columns => do
    visitor.unsupported "JOIN ... USING"
    return .sharing columns
  | .natural => do
    visitor.unsupported "NATURAL JOIN"
    return .natural

end

/-- The values of assignments. -/
def walkAssignments (visitor : Visitor σ) (assignments : List Assignment) :
    Walk σ (List Assignment) :=
  assignments.mapM fun assignment =>
    return { assignment with value := ← walkExpr visitor .plain assignment.value }

/-- The projection behind `RETURNING`, in the frame of its statement. -/
def walkReturning (visitor : Visitor σ) :
    Option (List SelectItem) → Walk σ (Option (List SelectItem))
  | none => return none
  | some items => return some (← walkProjection visitor (← Walk.scope).returnsRows items)

/-- The source of an insertion.  Rows of values are walked through in the frame of the
insertion, other queries in one of their own. -/
def walkSource (visitor : Visitor σ) : Option Query → Walk σ (Option Query)
  | none => return none
  | some (.mk recursive ctes (.values explicitRow rows) order tail) =>
    return some (.mk recursive ctes (.values explicitRow (← walkRows visitor rows)) order tail)
  | some query => return some (← walkQuery visitor false query)

/-- What an insertion does about rows that exist already.  The row that was to be inserted
is a relation in an outer frame, so that a name without qualifier means the target. -/
def walkConflict (visitor : Visitor σ) (reference table : Option String) :
    ConflictRule → Walk σ ConflictRule
  | .assign words assignments condition =>
    Walk.inFrame false (do
      if let some table := table then Walk.addTable "excluded" table
      Walk.inFrame false (do
        if let some table := table then
          if let some reference := reference then Walk.addTable reference table
        let assignments ← walkAssignments visitor assignments
        let condition ← walkOption visitor .plain condition
        return .assign words assignments condition))
  | rule => return rule

/-- An insertion. -/
def walkInsert (visitor : Visitor σ) (insert : Insert) : Walk σ Insert := do
  let insert ← visitor.insert insert
  let table := insert.table.last?
  let reference := match insert.aliasName with
    | some aliasName => some aliasName.normal
    | none => table
  let insert ← Walk.inFrame true (do
    if let some table := table then
      if let some reference := reference then Walk.addTable reference table
    let source ← walkSource visitor insert.source
    let returning ← walkReturning visitor insert.returning
    return { insert with source, returning })
  let conflict ← walkConflict visitor reference table insert.conflict
  return { insert with conflict }

/-- An update. -/
def walkUpdate (visitor : Visitor σ) (update : Update) : Walk σ Update := do
  let update ← visitor.update update
  Walk.inFrame true (do
    let (_, ownConditions) ← enter visitor update.table
    let conditions ← match update.relations with
      | some (early, relations) => do
        let (_, conditions) ← enterAll visitor relations
        pure (some (early, conditions))
      | none => pure none
    let table ← ownConditions
    let relations ← match conditions with
      | some (early, conditions) => pure (some (early, ← conditions))
      | none => pure none
    let assignments ← walkAssignments visitor update.assignments
    let condition ← walkOption visitor .plain update.condition
    let returning ← walkReturning visitor update.returning
    return { update with table, relations, assignments, condition, returning })

/-- A deletion.  The conditions of its joins are left alone. -/
def walkDelete (visitor : Visitor σ) (delete : Delete) : Walk σ Delete :=
  Walk.inFrame true (do
    let (relations, _) ← enterAll visitor delete.relations
    let further ← match delete.further with
      | some relations => do
        let (relations, _) ← enterAll visitor relations
        pure (some relations)
      | none => pure none
    let condition ← walkOption visitor .plain delete.condition
    let returning ← walkReturning visitor delete.returning
    return { delete with relations, further, condition, returning })

/-- A statement. -/
def walkStatement (visitor : Visitor σ) : Statement → Walk σ Statement
  | .query query => return .query (← walkQuery visitor true query)
  | .insert insert => return .insert (← walkInsert visitor insert)
  | .update update => return .update (← walkUpdate visitor update)
  | .delete delete => return .delete (← walkDelete visitor delete)
  | .explain words statement => return .explain words (← walkStatement visitor statement)
  | .definition _ => throw (.unsupported .statement)
  | .utility parts =>
    Walk.inFrame false (do
      for table in Part.tableNames parts do Walk.addTable table table
      visitor.other
      return .utility parts)

/-- The further statements of a text. -/
def walkStatementsFrom (visitor : Visitor σ) : List Statement → Walk σ (List Statement)
  | [] => return []
  | statement :: rest => do
    Walk.changeScope Scope.beginStatement
    let statement ← walkStatement visitor statement
    return statement :: (← walkStatementsFrom visitor rest)

/-- The statements of a text, in a new scope. -/
def walkStatements (visitor : Visitor σ) (statements : List Statement) :
    Walk σ (List Statement) := do
  Walk.changeScope fun _ => {}
  walkStatementsFrom visitor statements

end ColumnVeil
