import ColumnVeil.Text.Case

/-!
# The syntax of statements

Expressions, queries and statements as they are after reading.  What the treatment of
protected columns distinguishes has a constructor of its own; every other construct is a
`form`, a row of pieces that holds its words in canonical spelling with its operands in
their places.
-/

namespace ColumnVeil.Sql

/-- An identifier, with the mark between which it was written. -/
structure Ident where
  value : String
  quote : Option Char := none
deriving DecidableEq, Repr, Inhabited

/-- The name that an identifier stands for: without quotation marks its spelling in lower
case, between them the spelling itself. -/
def Ident.normal (ident : Ident) : String :=
  if ident.quote.isSome then ident.value else Text.lowercase ident.value

/-- A name of one or more parts, the outermost first. -/
abbrev Name := List Ident

/-- The normal form of the last part of a name. -/
def Name.last? (name : Name) : Option String :=
  name.getLast?.map Ident.normal

/-- A constant. -/
inductive Value
  | null
  | boolean (value : Bool)
  | number (digits : String) (long : Bool)
  | string (text : String)
  /-- A string in double quotation marks, which only a type name in front makes a constant. -/
  | marked (text : String)
  | escapedString (text : String)
  | unicodeString (text : String)
  | nationalString (text : String)
  | hexString (text : String)
  | bitString (text : String)
  | markedBitString (text : String)
  | dollarString (label : Option String) (text : String)
  | placeholder (text : String)
deriving DecidableEq, Repr

inductive BinaryOperator
  | equal
  | notEqual
  | and
  | or
  | other (symbol : String)
deriving DecidableEq, Repr

inductive UnaryOperator
  | minus
  | plus
  | not
  /-- A sign before its operand, `apart` if a blank separates the two. -/
  | sign (symbol : String) (apart : Bool)
  /-- The exclamation mark after its operand. -/
  | factorial
deriving DecidableEq, Repr

/-- The name given to a relation, with the printed form of its column list. -/
structure TableAlias where
  name : Ident
  columns : String := ""
deriving DecidableEq, Repr

mutual

/-- An expression. -/
inductive Expr
  | identifier (ident : Ident)
  | compound (parts : List Ident)
  | value (value : Value)
  | binary (left : Expr) (operator : BinaryOperator) (right : Expr)
  | unary (operator : UnaryOperator) (operand : Expr)
  | nested (inner : Expr)
  | nullTest (operand : Expr) (negated : Bool)
  | inList (operand : Expr) (negated : Bool) (items : List Expr)
  | inQuery (operand : Expr) (negated : Bool) (body : QueryBody)
  | between (operand : Expr) (negated : Bool) (low high : Expr)
  /-- A pattern match; `word` is its keyword, and `escape` the escape character. -/
  | like (operand : Expr) (negated : Bool) (word : String) (pattern : Expr)
      (escape : Option String)
  | array (named : Bool) (elements : List Expr)
  | subquery (query : Query)
  | existence (negated : Bool) (query : Query)
  /-- A call.  The pieces after the name are printed in this order; `late` is printed
  between the others but looked at after them. -/
  | call (name : Name) (opening late closing : List Part)
  | form (parts : List Part)

/-- A piece of a construct: fixed words, an operand, or the name of a relation. -/
inductive Part
  | words (text : String)
  | expr (expr : Expr)
  | query (query : Query)
  | tables (tables : TableWithJoins)
  | relation (name : Name)

/-- A query with its common table expressions, its order and the clauses that follow. -/
inductive Query
  | mk (recursive : Bool) (ctes : List Cte) (body : QueryBody) (order : List OrderItem)
      (tail : List Part)

/-- A common table expression. -/
inductive Cte
  | mk (aliasName : TableAlias) (materialized : String) (query : Query) (origin : Option Ident)

/-- An item of an order, with its direction in print. -/
inductive OrderItem
  | mk (expr : Expr) (direction : String)

/-- What a query computes before it is ordered. -/
inductive QueryBody
  | select (select : Select)
  | parenthesized (query : Query)
  | combination (left : QueryBody) (operator : String) (right : QueryBody)
  | values (explicitRow : Bool) (rows : List (List Expr))
  | table (name : String)
  /-- A statement that changes data. -/
  | change (parts : List Part)

/-- A selection: the words before the projection, the projection, the target, the
relations and the clauses in their order. -/
inductive Select
  | mk (lead : List Part) (projection : List SelectItem) (target : String)
      (relations : List TableWithJoins) (views : List Part) (condition : Option Expr)
      (groups : List Expr) (grouping : List Part) (having : Option Expr) (tail : List Part)

/-- An item of a projection. -/
inductive SelectItem
  | expr (expr : Expr)
  | aliased (expr : Expr) (aliasName : Ident)
  | wildcard (qualifier : Name)

/-- A relation with everything joined to it. -/
inductive TableWithJoins
  | mk (relation : TableFactor) (joins : List Join)

/-- A join: its words, the joined relation, its matching condition and its constraint. -/
inductive Join
  | mk (words : String) (relation : TableFactor) (matching : List Part)
      (constraint : JoinConstraint)

inductive JoinConstraint
  | none
  | on (condition : Expr)
  | sharing (columns : List Name)
  | natural

/-- A relation. -/
inductive TableFactor
  /-- A named table or a table function by that name. -/
  | table (name : Name) (arguments : List Part) (aliasName : Option TableAlias) (tail : List Part)
  | derived (isLateral : Bool) (query : Query) (aliasName : Option TableAlias)
  | nestedJoin (inner : TableWithJoins) (aliasName : Option TableAlias)
  | function (parts : List Part) (aliasName : Option TableAlias) (tail : String)

end

instance : Inhabited Expr := ⟨.value .null⟩

/-- A relation without joins. -/
def TableWithJoins.relation : TableWithJoins → TableFactor
  | mk relation _ => relation

/-- The target of an assignment: a column, or several at once. -/
inductive AssignmentTarget
  | column (name : Name)
  | tuple (names : List Name)

structure Assignment where
  target : AssignmentTarget
  value : Expr

/-- What an insertion does about rows that exist already. -/
inductive ConflictRule
  | none
  /-- Words that ask for nothing to be rewritten. -/
  | words (text : String)
  /-- Assignments to the existing row, behind those words and under a condition. -/
  | assign (words : String) (assignments : List Assignment) (condition : Option Expr)

structure Insert where
  words : String
  table : Name
  aliasName : Option Ident
  columns : List Ident
  partition : List Part
  source : Option Query
  conflict : ConflictRule
  returning : Option (List SelectItem)

structure Update where
  words : String
  table : TableWithJoins
  assignments : List Assignment
  /-- The further relations, and whether they stand in front of the assignments. -/
  relations : Option (Bool × List TableWithJoins)
  condition : Option Expr
  returning : Option (List SelectItem)

structure Delete where
  words : String
  relations : List TableWithJoins
  further : Option (List TableWithJoins)
  condition : Option Expr
  returning : Option (List SelectItem)
  tail : List Part

/-- A statement. -/
inductive Statement
  | query (query : Query)
  | insert (insert : Insert)
  | update (update : Update)
  | delete (delete : Delete)
  /-- A statement that is explained, behind the words that ask for it. -/
  | explain (words : String) (statement : Statement)
  /-- A definition of data, or a transfer of a whole table. -/
  | definition (parts : List Part)
  | utility (parts : List Part)

end ColumnVeil.Sql
