import ColumnVeil.Shield.Join

/-!
# Search through a blind index

The values of an encrypted column are found through a shadow column that holds a keyed
digest of each.  A comparison of such a column with literals becomes a comparison of the
shadow with their digests; every other use outside the client's projection is refused,
grouping apart.
-/

namespace ColumnVeil

open Sql

namespace IndexShadow

/-- The value of a shadow column: the keyed digest of the bytes of a literal. -/
def value (rule : ColumnRule) (index : BlindIndex) (literal : Literal) : Except Failure Expr := do
  match ← rule.plaintext literal with
  | some plaintext => return .ofBytes (Crypto.Sha256.hmac index.key plaintext)
  | none => return .null

/-- The values of indexed columns. -/
def treatment : Treatment Unit where
  kind := "blind-indexed"
  carriage? rule := rule.blindIndex.map fun index => .append index.column
  value rule literal := match rule.blindIndex with
    | some index => Walk.ofExcept (value rule index literal)
    | none => return .null

/-- The rule and the index of a column that an expression refers to. -/
def indexed? (catalog : Catalog) (expr : Expr) (context : Context) :
    Walk Unit (Option (ColumnRule × BlindIndex)) := do
  match ← Walk.resolve expr context with
  | none => return none
  | some column => return do
    let rule ← catalog.ruleOf? column
    return (rule, ← rule.blindIndex)

/-- A membership test of an indexed column in a list of literals is put to its shadow. -/
def membership (catalog : Catalog) (operand : Expr) (items : List Expr) (context : Context) :
    Walk Unit (Option (Expr × List Expr)) := do
  if !operand.isColumn then return none
  match items.mapM Expr.literal? with
  | none => return none
  | some literals =>
    match ← indexed? catalog operand context with
    | none => return none
    | some (rule, index) =>
      let items ← literals.mapM fun literal => Walk.ofExcept (value rule index literal)
      return some (operand.renamed index.column, items)

/-- A comparison of an indexed column with a literal is put to its shadow.  An equality of
columns that are joined through shadows is left as it is. -/
def operation (catalog : Catalog) (left : Expr) (operator : BinaryOperator) (right : Expr)
    (context : Context) : Walk Unit (Option Expr) := do
  if (← JoinShadow.pair? catalog left operator right context).isSome then
    return some (.binary left operator right)
  if operator ≠ .equal ∧ operator ≠ .notEqual then return none
  let compared (column literal : Expr) : Walk Unit (Option (Expr × Expr)) := do
    match ← indexed? catalog column context with
    | none => return none
    | some (rule, index) =>
      let value ← Walk.ofExcept (value rule index (literal.literal?.getD .null))
      return some (column.renamed index.column, value)
  match Expr.sides? left right with
  | some .columnFirst =>
    return (← compared left right).map fun (column, value) => .binary column operator value
  | some .literalFirst =>
    return (← compared right left).map fun (column, value) => .binary value operator column
  | none => return none

/-- An indexed column is grouped by its shadow, and refused elsewhere outside the client's
projection. -/
def column (catalog : Catalog) (expr : Expr) (column : ColumnRef) (context : Context) :
    Walk Unit Expr :=
  match (catalog.ruleOf? column).bind ColumnRule.blindIndex with
  | none => return expr
  | some index =>
    if context.selectBody then return expr
    else if context.groupBy then return expr.renamed index.column
    else throw (.query (.indexedUse column))

/-- What happens to indexed columns in statements. -/
def visitor (catalog : Catalog) : Visitor Unit where
  insert := treatment.treatInsert catalog
  update := treatment.treatUpdate catalog
  membership := membership catalog
  operation := operation catalog
  column := column catalog

/-- The shield for indexed columns. -/
def shield (catalog : Catalog) : Shield (Traversal Unit) where
  protect := walkStatements (visitor catalog)
  describe columns _ := return columns
  inspect row := return (.keep, row)

end IndexShadow

end ColumnVeil
