import ColumnVeil.Proofs.Traversal.Operation

/-!
# Spots

A spot is a part of a statement together with the scope in which it stands: an expression in
the context of its clause, a star, a query, or a construct that is not looked into.  The spots
directly inside a spot, `Spot.inner`, are read off the syntax, so that the spots of a
statement form a tree and each of them has an address.

An expression has its operands inside it in its own context, and the queries in it in none:
they have clauses of their own.  In a construct that the syntax does not tell apart only the
references outside all queries are spots.  An operation between references and literals is
one spot with nothing inside it, since it is looked at as a whole.
-/

namespace ColumnVeil

namespace Sql

/-! ## References -/

mutual

/-- The references to columns in an expression, outside the queries in it. -/
def Expr.references : Expr → List Expr
  | .identifier ident => [.identifier ident]
  | .compound parts => [.compound parts]
  | .value _ => []
  | .binary left _ right => left.references ++ right.references
  | .unary _ operand => operand.references
  | .nested inner => inner.references
  | .nullTest operand _ => operand.references
  | .inList operand _ items => operand.references ++ Expr.referencesAll items
  | .inQuery operand _ _ => operand.references
  | .between operand _ low high => operand.references ++ low.references ++ high.references
  | .like operand _ _ pattern _ => operand.references ++ pattern.references
  | .array _ elements => Expr.referencesAll elements
  | .subquery _ => []
  | .existence _ _ => []
  | .call _ opening late closing =>
      Part.referencesAll opening ++ Part.referencesAll closing ++ Part.referencesAll late
  | .form parts => Part.referencesAll parts

def Expr.referencesAll : List Expr → List Expr
  | [] => []
  | expr :: rest => expr.references ++ Expr.referencesAll rest

def Part.references : Part → List Expr
  | .words _ => []
  | .expr expr => expr.references
  | .query _ => []
  | .tables _ => []
  | .relation _ => []

def Part.referencesAll : List Part → List Expr
  | [] => []
  | part :: rest => part.references ++ Part.referencesAll rest

end

theorem Expr.references_of_isColumn {expr : Expr} (isColumn : expr.isColumn = true) :
    expr.references = [expr] := by
  cases expr with
  | identifier ident => rfl
  | compound parts => rfl
  | _ => cases isColumn

/-! ## The parts of an expression -/

/-- A reference to a column, or a literal. -/
def Expr.isOperand (expr : Expr) : Bool :=
  expr.isColumn || expr.literal?.isSome

/-- An operation between references and literals, or a membership test of a reference in a list
of literals. -/
def Expr.isUnit : Expr → Bool
  | .binary left _ right => left.isOperand && right.isOperand
  | .inList operand _ items => operand.isColumn && items.all fun item => item.literal?.isSome
  | _ => false

/-- The expressions directly inside an expression, in the same clause. -/
def Expr.operands : Expr → List Expr
  | .identifier _ => []
  | .compound _ => []
  | .value _ => []
  | .binary left _ right => [left, right]
  | .unary _ operand => [operand]
  | .nested inner => [inner]
  | .nullTest operand _ => [operand]
  | .inList operand _ items => operand :: items
  | .inQuery operand _ _ => [operand]
  | .between operand _ low high => [operand, low, high]
  | .like operand _ _ pattern _ => [operand, pattern]
  | .array _ elements => elements
  | .subquery _ => []
  | .existence _ _ => []
  | .call _ opening late closing =>
      Part.referencesAll opening ++ Part.referencesAll closing ++ Part.referencesAll late
  | .form parts => Part.referencesAll parts

/-- A query that only has a body. -/
def QueryBody.asQuery (body : QueryBody) : Query :=
  .mk false [] body [] []

/-- The queries directly inside an expression. -/
def Expr.queries : Expr → List Query
  | .inQuery _ _ body => [body.asQuery]
  | .subquery query => [query]
  | .existence _ query => [query]
  | _ => []

def Cte.query : Cte → Query
  | .mk _ _ query _ => query

def OrderItem.expr : OrderItem → Expr
  | .mk expr _ => expr

end Sql

open Sql

/-! ## Spots -/

/-- A part of a statement, with the scope in which it stands. -/
inductive Spot where
  | expr (scope : Scope) (context : Context) (expr : Expr)
  /-- A star in a projection. -/
  | star (scope : Scope)
  /-- A query, whose projection may be what the client receives. -/
  | query (scope : Scope) (reaches : Bool) (query : Query)
  /-- A construct that is not looked into. -/
  | unread (scope : Scope) (feature : String)

namespace Sql

/-- The spots in an expression. -/
def Expr.spots (scope : Scope) (context : Context) (expr : Expr) : List Spot :=
  (if expr.isUnit then [] else expr.operands.map (.expr scope context)) ++
    expr.queries.map (.query scope false)

mutual

/-- The queries and functions among relations.  Each of them sees the relations in front of
it. -/
def TableWithJoins.sources (scope : Scope) : TableWithJoins → List Spot
  | .mk relation joins =>
      relation.sources scope ++ Join.sourcesAll (scope.addAll relation.names) joins

def Join.sourcesAll (scope : Scope) : List Join → List Spot
  | [] => []
  | .mk _ relation _ _ :: rest =>
      relation.sources scope ++ Join.sourcesAll (scope.addAll relation.names) rest

def TableFactor.sources (scope : Scope) : TableFactor → List Spot
  | .table .. => []
  | .derived _ query _ => [.query scope false query]
  | .nestedJoin inner _ => inner.sources scope
  | .function _ aliasName _ => [.unread (scope.addAll (aliasNames aliasName)) "table function"]

end

def TableWithJoins.sourcesAll (scope : Scope) : List TableWithJoins → List Spot
  | [] => []
  | tables :: rest =>
      tables.sources scope ++ TableWithJoins.sourcesAll (scope.addAll tables.names) rest

theorem TableWithJoins.namesAll_append (first second : List TableWithJoins) :
    TableWithJoins.namesAll (first ++ second) =
      TableWithJoins.namesAll first ++ TableWithJoins.namesAll second := by
  induction first with
  | nil =>
      rfl
  | cons tables rest inductionHypothesis =>
      rw [List.cons_append, TableWithJoins.namesAll, inductionHypothesis,
        TableWithJoins.namesAll, List.append_assoc]

theorem TableWithJoins.sourcesAll_append (scope : Scope) (first second : List TableWithJoins) :
    TableWithJoins.sourcesAll scope (first ++ second) =
      TableWithJoins.sourcesAll scope first ++
        TableWithJoins.sourcesAll (scope.addAll (TableWithJoins.namesAll first)) second := by
  induction first generalizing scope with
  | nil =>
      rfl
  | cons tables rest inductionHypothesis =>
      rw [List.cons_append, TableWithJoins.sourcesAll, inductionHypothesis,
        TableWithJoins.sourcesAll, TableWithJoins.namesAll, Scope.addAll_append,
        List.append_assoc]

mutual

/-- The constraints of joins, which see all relations. -/
def TableWithJoins.constraints (scope : Scope) : TableWithJoins → List Spot
  | .mk relation joins => relation.constraints scope ++ Join.constraintsAll scope joins

def Join.constraintsAll (scope : Scope) : List Join → List Spot
  | [] => []
  | .mk _ relation _ constraint :: rest =>
      relation.constraints scope ++ constraint.spots scope ++ Join.constraintsAll scope rest

def TableFactor.constraints (scope : Scope) : TableFactor → List Spot
  | .table .. => []
  | .derived .. => []
  | .nestedJoin inner _ => inner.constraints scope
  | .function .. => []

def JoinConstraint.spots (scope : Scope) : JoinConstraint → List Spot
  | .none => []
  | .on condition => [.expr scope .ofJoin condition]
  | .sharing _ => [.unread scope "JOIN ... USING"]
  | .natural => [.unread scope "NATURAL JOIN"]

end

def TableWithJoins.constraintsAll (scope : Scope) : List TableWithJoins → List Spot
  | [] => []
  | tables :: rest => tables.constraints scope ++ TableWithJoins.constraintsAll scope rest

/-- The spots of a projection.  Each item already knows its own output name. -/
def SelectItem.spots (scope : Scope) (reaches : Bool) : List SelectItem → List Spot
  | [] => []
  | .expr shown :: rest =>
      let shownScope := scope.showing reaches shown none
      .expr shownScope { selectBody := reaches } shown ::
        SelectItem.spots shownScope reaches rest
  | .aliased shown aliasName :: rest =>
      let shownScope := scope.showing reaches shown (some aliasName)
      .expr shownScope { selectBody := reaches } shown ::
        SelectItem.spots shownScope reaches rest
  | .wildcard _ :: rest => .star scope :: SelectItem.spots scope reaches rest

/-- The spots of a selection, clause by clause. -/
def Select.spots (scope : Scope) (reaches : Bool) : Select → List Spot
  | .mk _ projection _ relations _ condition groups _ having _ =>
      let entered := scope.addAll (TableWithJoins.namesAll relations)
      let shown := SelectItem.leave entered reaches projection
      TableWithJoins.sourcesAll scope relations ++
        SelectItem.spots entered reaches projection ++
        TableWithJoins.constraintsAll shown relations ++
        condition.toList.map (.expr shown .plain) ++
        groups.map (.expr shown .ofGroupBy) ++
        having.toList.map (.expr shown .ofGroupBy)

/-- The spots of the body of a query, in the frame of that query. -/
def QueryBody.spots (scope : Scope) (reaches : Bool) : QueryBody → List Spot
  | .select selection => selection.spots scope reaches
  | .parenthesized inner => [.query scope reaches inner]
  | .values _ rows => rows.flatten.map (.expr scope .plain)
  | _ => []

/-- The spots of a query, whose projection may be what the client receives. -/
def Query.spots (scope : Scope) (reaches : Bool) : Query → List Spot
  | .mk _ ctes body order _ =>
      ctes.map (fun cte => .query scope false cte.query) ++
        body.spots (scope.push reaches) reaches ++
        order.map fun item =>
          .expr (body.leave (scope.push reaches) reaches) .ofOrderBy item.expr

end Sql

namespace Spot

/-- A spot that holds nothing but a literal. -/
def IsLiteral : Spot → Prop
  | .expr _ _ here => here.literal?.isSome = true
  | _ => False

/-- The spots directly inside a spot. -/
def inner : Spot → List Spot
  | .expr scope context here => here.spots scope context
  | .star _ => []
  | .query scope reaches asked => asked.spots scope reaches
  | .unread _ _ => []

/-- The spot at an address, which says step by step which of the inner spots to go to. -/
def at? : List Nat → Spot → Option Spot
  | [], spot => some spot
  | step :: path, spot => spot.inner[step]?.bind (at? path)

theorem at?_cons_eq_some_iff {step : Nat} {path : List Nat} {spot found : Spot} :
    spot.at? (step :: path) = some found ↔
      ∃ next, spot.inner[step]? = some next ∧ next.at? path = some found := by
  rw [at?, Option.bind_eq_some_iff]

/-- An address in a spot that has an address itself. -/
theorem at?_append (path rest : List Nat) (spot : Spot) :
    spot.at? (path ++ rest) = (spot.at? path).bind (at? rest) := by
  induction path generalizing spot with
  | nil =>
      rfl
  | cons step path inductionHypothesis =>
      rw [List.cons_append, at?, at?]
      cases spot.inner[step]? with
      | none => rfl
      | some next => exact inductionHypothesis next

end Spot

/-! ## Statements -/

namespace Sql

/-- The spots behind `RETURNING`, whose rows reach the client. -/
def SelectItem.spotsReturned (scope : Scope) (returning : Option (List SelectItem)) :
    List Spot :=
  SelectItem.spots scope true (returning.getD [])

/-- The spots of the values of assignments. -/
def Assignment.spots (scope : Scope) (assignments : List Assignment) : List Spot :=
  assignments.map fun assignment => .expr scope .plain assignment.value

/-- The target of an insertion, by the name that the insertion uses. -/
def Insert.names (insert : Insert) : List (String × String) :=
  match insert.table.last? with
  | none => []
  | some table =>
      match insert.aliasName with
      | none => [(table, table)]
      | some aliasName => [(aliasName.normal, table)]

/-- The rows of values that a query consists of, if it does. -/
def Query.rows? : Query → Option (List (List Expr))
  | .mk _ _ (.values _ rows) _ _ => some rows
  | _ => none

/-- The spots in the source of an insertion.  Rows of values stand in the frame of the
insertion, and the common table expressions in front of them are no spots. -/
def Query.spotsOfSource (scope : Scope) (query : Query) : List Spot :=
  match query.rows? with
  | some rows => rows.flatten.map (.expr scope .plain)
  | none => [.query scope false query]

/-- The spots in what an insertion does about rows that exist already. -/
def ConflictRule.spots (scope : Scope) : ConflictRule → List Spot
  | .assign _ assignments condition =>
      Assignment.spots scope assignments ++ condition.toList.map (.expr scope .plain)
  | _ => []

/-- The scope of the rows and of what an insertion returns. -/
def Insert.inside (insert : Insert) (scope : Scope) : Scope :=
  (scope.push true).addAll insert.names

/-- The scope behind the rows of an insertion and what it returns. -/
def Insert.returned (insert : Insert) (scope : Scope) : Scope :=
  (SelectItem.leave (insert.inside scope) true (insert.returning.getD [])).pop

/-- The scope in which an insertion settles conflicts: its target, and around it the row that
was to be inserted. -/
def Insert.settling (insert : Insert) (scope : Scope) : Scope :=
  ((((insert.returned scope).push false).addAll
    (insert.table.last?.toList.map ("excluded", ·))).push false).addAll insert.names

def Insert.spots (scope : Scope) (insert : Insert) : List Spot :=
  insert.source.toList.flatMap (Query.spotsOfSource (insert.inside scope)) ++
    SelectItem.spotsReturned (insert.inside scope) insert.returning ++
    insert.conflict.spots (insert.settling scope)

/-- All relations of an update, its target first. -/
def Update.allRelations (update : Update) : List TableWithJoins :=
  update.table :: (update.relations.map Prod.snd).getD []

/-- The scope of an update, behind its relations. -/
def Update.inside (update : Update) (scope : Scope) : Scope :=
  (scope.push true).addAll (TableWithJoins.namesAll update.allRelations)

/-- The spots of an update: the queries and functions among its relations, the constraints of
their joins, the assigned values, the condition and what it returns. -/
def Update.spots (scope : Scope) (update : Update) : List Spot :=
  TableWithJoins.sourcesAll (scope.push true) update.allRelations ++
    TableWithJoins.constraintsAll (update.inside scope) update.allRelations ++
    Assignment.spots (update.inside scope) update.assignments ++
    update.condition.toList.map (.expr (update.inside scope) .plain) ++
    SelectItem.spotsReturned (update.inside scope) update.returning

/-- All relations of a deletion. -/
def Delete.allRelations (delete : Delete) : List TableWithJoins :=
  delete.relations ++ delete.further.getD []

/-- The scope of a deletion, behind its relations. -/
def Delete.inside (delete : Delete) (scope : Scope) : Scope :=
  (scope.push true).addAll (TableWithJoins.namesAll delete.allRelations)

/-- The spots of a deletion: the queries and functions among its relations, the condition and
what it returns.  The constraints of its joins are no spots. -/
def Delete.spots (scope : Scope) (delete : Delete) : List Spot :=
  TableWithJoins.sourcesAll (scope.push true) delete.allRelations ++
    delete.condition.toList.map (.expr (delete.inside scope) .plain) ++
    SelectItem.spotsReturned (delete.inside scope) delete.returning

/-- The spots of a statement that is walked through. -/
def Statement.spots (scope : Scope) : Statement → List Spot
  | .query asked => [.query scope true asked]
  | .insert insertion => insertion.spots scope
  | .update change => change.spots scope
  | .delete deletion => deletion.spots scope
  | .explain _ explained => explained.spots scope
  | .definition _ => []
  | .utility _ => []

end Sql

end ColumnVeil
