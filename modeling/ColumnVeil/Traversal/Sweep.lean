import ColumnVeil.Sql.Syntax

/-!
# Sweeps

A sweep reaches every reference to a column and every name of a relation in a construct,
however deeply they are nested and whatever they are nested in, in the order in which they
are looked at.  Scopes play no part in it.
-/

namespace ColumnVeil.Sql

/-- What is done at the references to columns, which may be replaced, and at the names of
relations. -/
structure Sweep (m : Type → Type) where
  column : Expr → m Expr
  relation : Name → m Unit

variable {m : Type → Type} [Monad m]

mutual

def Expr.sweep (sweep : Sweep m) : Expr → m Expr
  | .identifier ident => sweep.column (.identifier ident)
  | .compound parts => sweep.column (.compound parts)
  | .value value => return .value value
  | .binary left operator right =>
    return .binary (← left.sweep sweep) operator (← right.sweep sweep)
  | .unary operator operand => return .unary operator (← operand.sweep sweep)
  | .nested inner => return .nested (← inner.sweep sweep)
  | .nullTest operand negated => return .nullTest (← operand.sweep sweep) negated
  | .inList operand negated items =>
    return .inList (← operand.sweep sweep) negated (← Expr.sweepAll sweep items)
  | .inQuery operand negated body =>
    return .inQuery (← operand.sweep sweep) negated (← body.sweep sweep)
  | .between operand negated low high =>
    return .between (← operand.sweep sweep) negated (← low.sweep sweep) (← high.sweep sweep)
  | .like operand negated word pattern escape =>
    return .like (← operand.sweep sweep) negated word (← pattern.sweep sweep) escape
  | .array named elements => return .array named (← Expr.sweepAll sweep elements)
  | .subquery query => return .subquery (← query.sweep sweep)
  | .existence negated query => return .existence negated (← query.sweep sweep)
  | .call name opening late closing => do
    let opening ← Part.sweepAll sweep opening
    let closing ← Part.sweepAll sweep closing
    let late ← Part.sweepAll sweep late
    return .call name opening late closing
  | .form parts => return .form (← Part.sweepAll sweep parts)

def Expr.sweepAll (sweep : Sweep m) : List Expr → m (List Expr)
  | [] => return []
  | expr :: rest => return (← expr.sweep sweep) :: (← Expr.sweepAll sweep rest)

def Expr.sweepOption (sweep : Sweep m) : Option Expr → m (Option Expr)
  | none => return none
  | some expr => return some (← expr.sweep sweep)

def Part.sweep (sweep : Sweep m) : Part → m Part
  | .words text => return .words text
  | .expr expr => return .expr (← expr.sweep sweep)
  | .query query => return .query (← query.sweep sweep)
  | .tables tables => return .tables (← tables.sweep sweep)
  | .relation name => do
    sweep.relation name
    return .relation name

def Part.sweepAll (sweep : Sweep m) : List Part → m (List Part)
  | [] => return []
  | part :: rest => return (← part.sweep sweep) :: (← Part.sweepAll sweep rest)

def Query.sweep (sweep : Sweep m) : Query → m Query
  | .mk recursive ctes body order tail =>
    return .mk recursive (← Cte.sweepAll sweep ctes) (← body.sweep sweep)
      (← OrderItem.sweepAll sweep order) (← Part.sweepAll sweep tail)

def Cte.sweepAll (sweep : Sweep m) : List Cte → m (List Cte)
  | [] => return []
  | .mk aliasName materialized query origin :: rest =>
    return .mk aliasName materialized (← query.sweep sweep) origin :: (← Cte.sweepAll sweep rest)

def OrderItem.sweepAll (sweep : Sweep m) : List OrderItem → m (List OrderItem)
  | [] => return []
  | .mk expr direction :: rest =>
    return .mk (← expr.sweep sweep) direction :: (← OrderItem.sweepAll sweep rest)

def QueryBody.sweep (sweep : Sweep m) : QueryBody → m QueryBody
  | .select select => return .select (← select.sweep sweep)
  | .parenthesized query => return .parenthesized (← query.sweep sweep)
  | .combination left operator right =>
    return .combination (← left.sweep sweep) operator (← right.sweep sweep)
  | .values explicitRow rows => return .values explicitRow (← QueryBody.sweepRows sweep rows)
  | .table name => return .table name
  | .change parts => return .change (← Part.sweepAll sweep parts)

def QueryBody.sweepRows (sweep : Sweep m) : List (List Expr) → m (List (List Expr))
  | [] => return []
  | row :: rest => return (← Expr.sweepAll sweep row) :: (← QueryBody.sweepRows sweep rest)

def Select.sweep (sweep : Sweep m) : Select → m Select
  | .mk lead projection target relations views condition groups grouping having tail =>
    return .mk (← Part.sweepAll sweep lead) (← SelectItem.sweepAll sweep projection) target
      (← TableWithJoins.sweepAll sweep relations) (← Part.sweepAll sweep views)
      (← Expr.sweepOption sweep condition) (← Expr.sweepAll sweep groups)
      (← Part.sweepAll sweep grouping) (← Expr.sweepOption sweep having)
      (← Part.sweepAll sweep tail)

def SelectItem.sweepAll (sweep : Sweep m) : List SelectItem → m (List SelectItem)
  | [] => return []
  | .expr expr :: rest =>
    return .expr (← expr.sweep sweep) :: (← SelectItem.sweepAll sweep rest)
  | .aliased expr aliasName :: rest =>
    return .aliased (← expr.sweep sweep) aliasName :: (← SelectItem.sweepAll sweep rest)
  | .wildcard qualifier :: rest =>
    return .wildcard qualifier :: (← SelectItem.sweepAll sweep rest)

def TableWithJoins.sweep (sweep : Sweep m) : TableWithJoins → m TableWithJoins
  | .mk relation joins => return .mk (← relation.sweep sweep) (← Join.sweepAll sweep joins)

def TableWithJoins.sweepAll (sweep : Sweep m) : List TableWithJoins → m (List TableWithJoins)
  | [] => return []
  | tables :: rest => return (← tables.sweep sweep) :: (← TableWithJoins.sweepAll sweep rest)

def Join.sweepAll (sweep : Sweep m) : List Join → m (List Join)
  | [] => return []
  | .mk words relation matching constraint :: rest =>
    return .mk words (← relation.sweep sweep) (← Part.sweepAll sweep matching)
      (← constraint.sweep sweep) :: (← Join.sweepAll sweep rest)

def JoinConstraint.sweep (sweep : Sweep m) : JoinConstraint → m JoinConstraint
  | .none => return .none
  | .on condition => return .on (← condition.sweep sweep)
  | .sharing columns => return .sharing columns
  | .natural => return .natural

def TableFactor.sweep (sweep : Sweep m) : TableFactor → m TableFactor
  | .table name arguments aliasName tail => do
    sweep.relation name
    return .table name (← Part.sweepAll sweep arguments) aliasName (← Part.sweepAll sweep tail)
  | .derived isLateral query aliasName => return .derived isLateral (← query.sweep sweep) aliasName
  | .nestedJoin inner aliasName => return .nestedJoin (← inner.sweep sweep) aliasName
  | .function parts aliasName tail => return .function (← Part.sweepAll sweep parts) aliasName tail

end

/-- The tables that pieces of a statement name, in order, by their normal names. -/
def Part.tableNames (parts : List Part) : List String :=
  let collect : Sweep (StateM (List String)) :=
    { column := pure
      relation := fun name => modify fun names => names ++ name.last?.toList }
  ((Part.sweepAll collect parts).run []).2

end ColumnVeil.Sql
