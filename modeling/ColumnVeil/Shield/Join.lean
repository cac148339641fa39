import ColumnVeil.Crypto.Sha256
import ColumnVeil.Shield.Basic
import ColumnVeil.Shield.Values

/-!
# Joins on encrypted columns

Columns that cannot be compared in the server are joined through shadow columns, which hold
the first bytes of a digest.  Such a join lets rows through whose values differ, so both
columns have to be in the projection, and every row of the result is looked at again when
its values are known.
-/

namespace ColumnVeil

open Sql

namespace JoinShadow

/-- What is remembered between a query and its results. -/
structure State where
  /-- The joined columns, with the index of the statement that joins them. -/
  pairs : List (Nat × ColumnRef × ColumnRef) := []
  /-- The positions that are compared in each row of the current result set. -/
  active : List (Nat × Nat) := []
deriving DecidableEq, Repr

/-- The columns on the two sides of an equality outside the client's projection, if both
are joined through shadows. -/
def pair? {σ : Type} (catalog : Catalog) (left : Expr) (operator : BinaryOperator)
    (right : Expr) (context : Context) : Walk σ (Option (ColumnRef × ColumnRef)) := do
  if operator ≠ .equal then return none
  if context.selectBody then return none
  let left ← Walk.resolve left context
  let right ← Walk.resolve right context
  match left, right with
  | some left, some right =>
    let isJoined (column : ColumnRef) : Bool :=
      (catalog.ruleOf? column).any fun rule => rule.joinShadow.isSome
    return if isJoined left && isJoined right then some (left, right) else none
  | _, _ => return none

/-- The value of a shadow column: the first bytes of a digest. -/
def value (catalog : Catalog) (rule : ColumnRule) (literal : Literal) : Except Failure Expr := do
  match ← rule.plaintext literal with
  | some plaintext => return .ofBytes ((Crypto.Sha256.digest plaintext).take catalog.joinKeySize)
  | none => return .null

/-- The values of joined columns. -/
def treatment (catalog : Catalog) : Treatment State where
  kind := "join"
  carriage? rule := rule.joinShadow.map Carriage.append
  value rule literal := Walk.ofExcept (value catalog rule literal)

/-- The shadow of a column. -/
def shadow? (catalog : Catalog) (column : ColumnRef) : Option String :=
  (catalog.ruleOf? column).bind ColumnRule.joinShadow

/-- An equality of joined columns is put to their shadows, and remembered. -/
def operation (catalog : Catalog) (left : Expr) (operator : BinaryOperator) (right : Expr)
    (context : Context) : Walk State (Option Expr) := do
  match ← pair? catalog left operator right context with
  | none => return none
  | some (leftColumn, rightColumn) =>
    let scope ← Walk.scope
    if !(scope.shows leftColumn && scope.shows rightColumn) then throw (.query .joinColumnMissing)
    match shadow? catalog leftColumn, shadow? catalog rightColumn with
    | some leftShadow, some rightShadow =>
      modify fun state => { state with
        own := { state.own with
          pairs := state.own.pairs ++ [(scope.statementIndex, leftColumn, rightColumn)] } }
      return some (.binary (left.renamed leftShadow) operator (right.renamed rightShadow))
    | _, _ => return none

/-- A joined column outside the client's projection is refused. -/
def column (catalog : Catalog) (expr : Expr) (column : ColumnRef) (context : Context) :
    Walk State Expr :=
  if context.selectBody || (shadow? catalog column).isNone then return expr
  else throw (.query (.joinUse column))

/-- What happens to joined columns in statements. -/
def visitor (catalog : Catalog) : Visitor State where
  insert := (treatment catalog).treatInsert catalog
  update := (treatment catalog).treatUpdate catalog
  operation := operation catalog
  column := column catalog

/-- The positions of a pair of columns among the output columns of some names. -/
def positions? (results : ResultColumns) (names : List String) (left right : ColumnRef) :
    Option (Nat × Nat) := do
  let position (column : ColumnRef) : Option Nat :=
    names.findIdx? fun name => results.column? name == some column
  return (← position left, ← position right)

/-- Find out which positions of the rows of a result set have to be compared. -/
def describe (columns : List Wire.Column) (statement : Nat) :
    Walk State (List Wire.Column) := do
  modify fun state => { state with own := { state.own with active := [] } }
  let state ← get
  let pairs := state.own.pairs.filterMap fun (index, pair) =>
    if index = statement then some pair else none
  match pairs, state.scope.results? statement with
  | [], _ => return columns
  | _, none => return columns
  | pairs, some results =>
    match pairs.mapM fun (left, right) =>
        positions? results (columns.map Wire.Column.label) left right with
    | some active =>
      set { state with own := { state.own with active } }
      return columns
    | none => throw (.query .joinColumnMissing)

/-- Whether the values at two positions of a row differ.  A missing value differs from
nothing. -/
def differs (row : Row) (positions : Nat × Nat) : Bool :=
  match row[positions.1]?.join, row[positions.2]?.join with
  | some left, some right => left != right
  | _, _ => false

/-- Discard a row whose joined values differ. -/
def inspect (row : Row) : Walk State (RowAction × Row) := do
  let active := (← get).own.active
  return (if active.any (differs row) then .discard else .keep, row)

/-- The shield for joined columns. -/
def shield (catalog : Catalog) : Shield (Traversal State) where
  protect statements := do
    modify fun state => { state with own := {} }
    walkStatements (visitor catalog) statements
  describe := describe
  inspect := inspect

end JoinShadow

end ColumnVeil
