import ColumnVeil.Traversal.Scope

/-!
# Sites

A site is a place in a query that concerns protected columns: a reference to a column, or a
star in a projection.  `Query.sites` lists the sites of a query together with the scope and
the clause in which each stands.

The scope of a site is read off the syntax.  The relations of a selection bring their names
into scope in the order in which they are written, so a derived table sees the relations
before it, and everything else in the selection sees all of them.  A column that the
projection for the client shows is known by its output name from its own item on.

Sites are listed for plain queries, those for which `Query.isPlain` holds: selections from
tables, derived tables and joins with conditions, and expressions without calls and other
constructs that the syntax does not tell apart.
-/

namespace ColumnVeil

open Sql

/-! ## Clauses -/

/-- The clause that an expression stands in. -/
inductive Clause where
  /-- An item of the projection that the client receives. -/
  | delivered
  /-- An item of any other projection. -/
  | projection
  | joining
  | condition
  | grouping
  | having
  | order
deriving DecidableEq, Repr

namespace Clause

/-- The context that an expression has by its clause alone. -/
def context : Clause → Context
  | delivered => .ofSelectBody
  | projection => .plain
  | joining => .ofJoin
  | condition => .plain
  | grouping => .ofGroupBy
  | having => .ofGroupBy
  | order => .ofOrderBy

/-- The clause of a projection, which the client may receive. -/
def ofProjection (reaches : Bool) : Clause :=
  if reaches then delivered else projection

theorem context_ofProjection (reaches : Bool) :
    (ofProjection reaches).context = { selectBody := reaches } := by
  cases reaches <;> rfl

end Clause

/-! ## Scopes -/

namespace Scope

/-- Bring names into the innermost query, one behind the other. -/
def addAll (scope : Scope) (names : List (String × String)) : Scope :=
  names.foldl (fun scope name => scope.add name.1 name.2) scope

@[simp]
theorem addAll_nil (scope : Scope) : scope.addAll [] = scope := rfl

theorem addAll_append (scope : Scope) (first second : List (String × String)) :
    scope.addAll (first ++ second) = (scope.addAll first).addAll second := by
  simp [addAll]

@[simp]
theorem pop_push (scope : Scope) (returnsRows : Bool) :
    (scope.push returnsRows).pop = scope := rfl

@[simp]
theorem returnsRows_push (scope : Scope) (returnsRows : Bool) :
    (scope.push returnsRows).returnsRows = returnsRows := rfl

@[simp]
theorem pop_add (scope : Scope) (name table : String) :
    (scope.add name table).pop = scope.pop := by
  unfold add
  split <;> simp_all [pop]

@[simp]
theorem returnsRows_add (scope : Scope) (name table : String) :
    (scope.add name table).returnsRows = scope.returnsRows := by
  unfold add
  split <;> simp_all [returnsRows]

/-- Names that come into scope stay in the frame of their query. -/
@[simp]
theorem pop_addAll (scope : Scope) (names : List (String × String)) :
    (scope.addAll names).pop = scope.pop := by
  induction names generalizing scope with
  | nil => rfl
  | cons name rest hypothesis =>
      exact (hypothesis (scope.add name.1 name.2)).trans (pop_add scope name.1 name.2)

@[simp]
theorem returnsRows_addAll (scope : Scope) (names : List (String × String)) :
    (scope.addAll names).returnsRows = scope.returnsRows := by
  induction names generalizing scope with
  | nil => rfl
  | cons name rest hypothesis =>
      exact (hypothesis (scope.add name.1 name.2)).trans
        (returnsRows_add scope name.1 name.2)

/-- The name under which a projection item shows a column. -/
def outputName (aliasName : Option Ident) (column : ColumnRef) : String :=
  match aliasName with
  | some aliasName => aliasName.normal
  | none => column.column

/--
The scope behind a projection item.  An item of the projection for the client
is recorded if it is a reference to a column.
-/
def showing (scope : Scope) (reaches : Bool) (expr : Expr)
    (aliasName : Option Ident) : Scope :=
  if reaches then
    match scope.resolve expr .ofSelectBody with
    | .ok (some column) =>
        (scope.register (outputName aliasName column) column).toOption.getD scope
    | _ => scope
  else scope

@[simp]
theorem showing_false (scope : Scope) (expr : Expr) (aliasName : Option Ident) :
    scope.showing false expr aliasName = scope := rfl

end Scope

/-! ## Sites -/

/-- A reference to a column or a star, with the scope in which it stands. -/
inductive Site where
  | reference (scope : Scope) (clause : Clause) (expr : Expr)
  | star (scope : Scope)

namespace Sql

/-! ## Scopes read off the syntax -/

/-- The name of a relation that has no table behind it, if it has one. -/
def aliasNames : Option TableAlias → List (String × String)
  | none => []
  | some aliasName => [(aliasName.name.normal, aliasName.name.normal)]

mutual

/--
The names that a relation with everything joined to it brings into scope, each
with the table it stands for.
-/
def TableWithJoins.names : TableWithJoins → List (String × String)
  | .mk relation joins => relation.names ++ Join.namesAll joins

def Join.namesAll : List Join → List (String × String)
  | [] => []
  | .mk _ relation _ _ :: rest => relation.names ++ Join.namesAll rest

def TableFactor.names : TableFactor → List (String × String)
  | .table name _ aliasName _ =>
      match name.last? with
      | none => []
      | some table =>
          match aliasName with
          | none => [(table, table)]
          | some aliasName => [(aliasName.name.normal, table)]
  | .derived _ _ aliasName => aliasNames aliasName
  | .nestedJoin inner aliasName => inner.names ++ aliasNames aliasName
  | .function _ aliasName _ => aliasNames aliasName

end

/-- The scope behind a projection. -/
def SelectItem.leave (scope : Scope) (reaches : Bool) : List SelectItem → Scope
  | [] => scope
  | .expr shown :: rest =>
      SelectItem.leave (scope.showing reaches shown none) reaches rest
  | .aliased shown aliasName :: rest =>
      SelectItem.leave (scope.showing reaches shown (some aliasName)) reaches rest
  | .wildcard _ :: rest => SelectItem.leave scope reaches rest

@[simp]
theorem SelectItem.leave_false (scope : Scope) (items : List SelectItem) :
    SelectItem.leave scope false items = scope := by
  induction items with
  | nil => rfl
  | cons item rest hypothesis => cases item <;> exact hypothesis

/-- The names of all relations of a selection. -/
def TableWithJoins.namesAll : List TableWithJoins → List (String × String)
  | [] => []
  | tables :: rest => tables.names ++ TableWithJoins.namesAll rest

mutual

/-- The scope behind a query, whose projection may be what the client receives. -/
def Query.leave (scope : Scope) (reaches : Bool) : Query → Scope
  | .mk _ _ body _ _ => (body.leave (scope.push reaches) reaches).pop

/-- The scope behind the body of a query, in the frame of that query. -/
def QueryBody.leave (scope : Scope) (reaches : Bool) : QueryBody → Scope
  | .select (.mk _ projection _ relations _ _ _ _ _ _) =>
      SelectItem.leave (scope.addAll (TableWithJoins.namesAll relations)) reaches projection
  | .parenthesized query => query.leave scope reaches
  | _ => scope

end

mutual

/-- A query whose rows do not reach the client leaves the scope as it was. -/
theorem Query.leave_false (query : Query) (scope : Scope) :
    query.leave scope false = scope := by
  cases query with
  | mk recursive ctes body order tail =>
      have inside := body.pop_leave_false (scope.push false)
      simpa [Query.leave] using inside

theorem QueryBody.pop_leave_false (body : QueryBody) (scope : Scope) :
    (body.leave scope false).pop = scope.pop := by
  cases body with
  | select select =>
      cases select
      simp [QueryBody.leave]
  | parenthesized query =>
      exact congrArg Scope.pop (query.leave_false scope)
  | combination => rfl
  | values => rfl
  | table => rfl
  | change => rfl

end

/-! ## The sites of syntax -/

mutual

/-- The sites of an expression.  A subquery has clauses of its own. -/
def Expr.sites (scope : Scope) (clause : Clause) : Expr → List Site
  | .identifier ident => [.reference scope clause (.identifier ident)]
  | .compound parts => [.reference scope clause (.compound parts)]
  | .value _ => []
  | .binary left _ right => left.sites scope clause ++ right.sites scope clause
  | .unary _ operand => operand.sites scope clause
  | .nested inner => inner.sites scope clause
  | .nullTest operand _ => operand.sites scope clause
  | .inList operand _ items =>
      operand.sites scope clause ++ Expr.sitesAll scope clause items
  | .inQuery operand _ body =>
      operand.sites scope clause ++ body.sites (scope.push false) false
  | .between operand _ low high =>
      operand.sites scope clause ++ low.sites scope clause ++ high.sites scope clause
  | .like operand _ _ pattern _ =>
      operand.sites scope clause ++ pattern.sites scope clause
  | .array _ elements => Expr.sitesAll scope clause elements
  | .subquery query => query.sites scope false
  | .existence _ query => query.sites scope false
  | .call .. => []
  | .form .. => []

def Expr.sitesAll (scope : Scope) (clause : Clause) : List Expr → List Site
  | [] => []
  | expr :: rest => expr.sites scope clause ++ Expr.sitesAll scope clause rest

def Expr.sitesOption (scope : Scope) (clause : Clause) : Option Expr → List Site
  | none => []
  | some expr => expr.sites scope clause

/-- The sites of a query, whose projection may be what the client receives. -/
def Query.sites (scope : Scope) (reaches : Bool) : Query → List Site
  | .mk _ ctes body order _ =>
      Cte.sitesAll scope ctes ++ body.sites (scope.push reaches) reaches ++
        OrderItem.sitesAll (body.leave (scope.push reaches) reaches) order

def Cte.sitesAll (scope : Scope) : List Cte → List Site
  | [] => []
  | .mk _ _ query _ :: rest => query.sites scope false ++ Cte.sitesAll scope rest

def OrderItem.sitesAll (scope : Scope) : List OrderItem → List Site
  | [] => []
  | .mk expr _ :: rest => expr.sites scope .order ++ OrderItem.sitesAll scope rest

/-- The sites of the body of a query, in the frame of that query. -/
def QueryBody.sites (scope : Scope) (reaches : Bool) : QueryBody → List Site
  | .select select => select.sites scope reaches
  | .parenthesized query => query.sites scope reaches
  | _ => []

def Select.sites (scope : Scope) (reaches : Bool) : Select → List Site
  | .mk _ projection _ relations _ condition groups _ having _ =>
      let entered := scope.addAll (TableWithJoins.namesAll relations)
      let shown := SelectItem.leave entered reaches projection
      TableWithJoins.sitesAll scope relations ++
        SelectItem.sitesAll entered reaches projection ++
        TableWithJoins.conditionSitesAll shown relations ++
        Expr.sitesOption shown .condition condition ++
        Expr.sitesAll shown .grouping groups ++
        Expr.sitesOption shown .having having

/-- The sites of a projection.  Each item already knows its own output name. -/
def SelectItem.sitesAll (scope : Scope) (reaches : Bool) : List SelectItem → List Site
  | [] => []
  | .expr expr :: rest =>
      let shown := scope.showing reaches expr none
      expr.sites shown (.ofProjection reaches) ++ SelectItem.sitesAll shown reaches rest
  | .aliased expr aliasName :: rest =>
      let shown := scope.showing reaches expr (some aliasName)
      expr.sites shown (.ofProjection reaches) ++ SelectItem.sitesAll shown reaches rest
  | .wildcard _ :: rest => .star scope :: SelectItem.sitesAll scope reaches rest

/--
The sites of the derived tables among relations.  A derived table sees the
relations in front of it.
-/
def TableWithJoins.sitesAll (scope : Scope) : List TableWithJoins → List Site
  | [] => []
  | tables :: rest =>
      tables.sites scope ++ TableWithJoins.sitesAll (scope.addAll tables.names) rest

def TableWithJoins.sites (scope : Scope) : TableWithJoins → List Site
  | .mk relation joins =>
      relation.sites scope ++ Join.sitesAll (scope.addAll relation.names) joins

def Join.sitesAll (scope : Scope) : List Join → List Site
  | [] => []
  | .mk _ relation _ _ :: rest =>
      relation.sites scope ++ Join.sitesAll (scope.addAll relation.names) rest

def TableFactor.sites (scope : Scope) : TableFactor → List Site
  | .table .. => []
  | .derived _ query _ => query.sites scope false
  | .nestedJoin inner _ => inner.sites scope
  | .function .. => []

/-- The sites of the conditions of joins, which see all relations. -/
def TableWithJoins.conditionSitesAll (scope : Scope) : List TableWithJoins → List Site
  | [] => []
  | tables :: rest =>
      tables.conditionSites scope ++ TableWithJoins.conditionSitesAll scope rest

def TableWithJoins.conditionSites (scope : Scope) : TableWithJoins → List Site
  | .mk relation joins =>
      relation.conditionSites scope ++ Join.conditionSitesAll scope joins

def Join.conditionSitesAll (scope : Scope) : List Join → List Site
  | [] => []
  | .mk _ relation _ constraint :: rest =>
      relation.conditionSites scope ++ constraint.sites scope ++
        Join.conditionSitesAll scope rest

def TableFactor.conditionSites (scope : Scope) : TableFactor → List Site
  | .nestedJoin inner _ => inner.conditionSites scope
  | _ => []

def JoinConstraint.sites (scope : Scope) : JoinConstraint → List Site
  | .on condition => condition.sites scope .joining
  | _ => []

end

/-! ## The sites of a text -/

/-- The scope behind a query on its own. -/
def Statement.leave (scope : Scope) : Statement → Scope
  | .query asked => asked.leave scope true
  | _ => scope

/-- The sites of a query on its own, whose rows reach the client. -/
def Statement.sites (scope : Scope) : Statement → List Site
  | .query asked => asked.sites scope true
  | _ => []

/-- The sites of the statements of a text, each in a scope that it begins. -/
def Statement.sitesFrom (scope : Scope) : List Statement → List Site
  | [] => []
  | statement :: rest =>
      statement.sites scope.beginStatement ++
        Statement.sitesFrom (statement.leave scope.beginStatement) rest

/-- The sites of the statements of a text. -/
def Statement.sitesAll (statements : List Statement) : List Site :=
  Statement.sitesFrom {} statements

/-! ## Plain queries -/

/-- A piece that is only words. -/
def Part.isWords : Part → Bool
  | .words _ => true
  | _ => false

mutual

/--
An expression of references, constants, operations, tests, arrays and plain
subqueries.
-/
def Expr.isPlain : Expr → Bool
  | .identifier _ => true
  | .compound _ => true
  | .value _ => true
  | .binary left _ right => left.isPlain && right.isPlain
  | .unary _ operand => operand.isPlain
  | .nested inner => inner.isPlain
  | .nullTest operand _ => operand.isPlain
  | .inList operand _ items => operand.isPlain && Expr.allPlain items
  | .inQuery operand _ body => operand.isPlain && body.isPlain
  | .between operand _ low high => operand.isPlain && low.isPlain && high.isPlain
  | .like operand _ _ pattern _ => operand.isPlain && pattern.isPlain
  | .array _ elements => Expr.allPlain elements
  | .subquery query => query.isPlain
  | .existence _ query => query.isPlain
  | .call .. => false
  | .form .. => false

def Expr.allPlain : List Expr → Bool
  | [] => true
  | expr :: rest => expr.isPlain && Expr.allPlain rest

def Expr.optionPlain : Option Expr → Bool
  | none => true
  | some expr => expr.isPlain

/-- A plain query has no clauses behind its order that hold more than words. -/
def Query.isPlain : Query → Bool
  | .mk _ ctes body order tail =>
      Cte.allPlain ctes && body.isPlain && OrderItem.allPlain order && tail.all Part.isWords

def Cte.allPlain : List Cte → Bool
  | [] => true
  | .mk _ _ query _ :: rest => query.isPlain && Cte.allPlain rest

def OrderItem.allPlain : List OrderItem → Bool
  | [] => true
  | .mk expr _ :: rest => expr.isPlain && OrderItem.allPlain rest

def QueryBody.isPlain : QueryBody → Bool
  | .select select => select.isPlain
  | .parenthesized query => query.isPlain
  | _ => false

/--
A plain selection has a projection, relations, a condition, groups and a
condition on groups; its other clauses hold only words.
-/
def Select.isPlain : Select → Bool
  | .mk lead projection _ relations views condition groups grouping having tail =>
      lead.all Part.isWords && SelectItem.allPlain projection &&
        TableWithJoins.allPlain relations && views.all Part.isWords &&
        Expr.optionPlain condition && Expr.allPlain groups &&
        grouping.all Part.isWords && Expr.optionPlain having && tail.all Part.isWords

def SelectItem.allPlain : List SelectItem → Bool
  | [] => true
  | .expr expr :: rest => expr.isPlain && SelectItem.allPlain rest
  | .aliased expr _ :: rest => expr.isPlain && SelectItem.allPlain rest
  | .wildcard _ :: rest => SelectItem.allPlain rest

def TableWithJoins.allPlain : List TableWithJoins → Bool
  | [] => true
  | tables :: rest => tables.isPlain && TableWithJoins.allPlain rest

def TableWithJoins.isPlain : TableWithJoins → Bool
  | .mk relation joins => relation.isPlain && Join.allPlain joins

def Join.allPlain : List Join → Bool
  | [] => true
  | .mk _ relation matching constraint :: rest =>
      relation.isPlain && matching.all Part.isWords && constraint.isPlain &&
        Join.allPlain rest

/-- A table, a derived table, or joins in parentheses. -/
def TableFactor.isPlain : TableFactor → Bool
  | .table _ arguments _ tail => arguments.isEmpty && tail.all Part.isWords
  | .derived _ query _ => query.isPlain
  | .nestedJoin inner _ => inner.isPlain
  | .function .. => false

/-- No constraint, or a condition. -/
def JoinConstraint.isPlain : JoinConstraint → Bool
  | .none => true
  | .on condition => condition.isPlain
  | .sharing _ => false
  | .natural => false

end

/-- A statement that is a plain query. -/
def Statement.isPlain : Statement → Bool
  | .query asked => asked.isPlain
  | _ => false

end Sql

end ColumnVeil
