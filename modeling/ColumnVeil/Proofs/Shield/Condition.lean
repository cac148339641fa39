import ColumnVeil.Sql.Literal

/-!
# Truth of conditions

The condition of a search is built from comparisons of columns with literals.  In a row it
is true, false or unknown: a comparison with NULL on either side is unknown, and what is
known of one operand may decide an operation.

Which column equals which literal is left to a test, so that one condition can be asked of
the values that a client works with and another of the values that the server stores.
-/

namespace ColumnVeil.Sql

/-! ## Truth values -/

/-- The truth of a condition; nothing stands for unknown. -/
abbrev Truth := Option Bool

namespace Truth

def negation : Truth → Truth
  | some value => some !value
  | none => none

def both : Truth → Truth → Truth
  | some false, _ => some false
  | _, some false => some false
  | some true, some true => some true
  | _, _ => none

def either : Truth → Truth → Truth
  | some true, _ => some true
  | _, some true => some true
  | some false, some false => some false
  | _, _ => none

/-- Whether one of several conditions is true. -/
def any (truths : List Truth) : Truth :=
  truths.foldr either (some false)

end Truth

/-! ## Conditions -/

namespace Expr

/-- The operands of a comparison of a column with a constant. -/
def Sides.operands (column constant : Expr) : Sides → Expr × Expr
  | .columnFirst => (column, constant)
  | .literalFirst => (constant, column)

/-- What is compared in a test for equality, and the literal that it is compared with. -/
def comparand? (left right : Expr) : Option (Expr × Literal) :=
  match right.literal? with
  | some literal => some (left, literal)
  | none => left.literal?.map fun literal => (right, literal)

/--
A condition that compares columns with literals, for equality or inequality or for
membership in a list.
-/
inductive IsCondition : Expr → Prop where
  | connective {left right : Expr} {operator : BinaryOperator} :
      operator = .and ∨ operator = .or → IsCondition left → IsCondition right →
        IsCondition (.binary left operator right)
  | negation {inner : Expr} : IsCondition inner → IsCondition (.unary .not inner)
  | nested {inner : Expr} : IsCondition inner → IsCondition (.nested inner)
  | comparison {column constant left right : Expr} {operator : BinaryOperator} {sides : Sides} :
      operator = .equal ∨ operator = .notEqual → column.isColumn = true →
        constant.literal?.isSome = true → sides.operands column constant = (left, right) →
          IsCondition (.binary left operator right)
  | membership {column : Expr} {negated : Bool} {items : List Expr} :
      column.isColumn = true → (∀ item ∈ items, item.literal?.isSome = true) →
        IsCondition (.inList column negated items)

@[simp]
theorem isColumn_renamed (expr : Expr) (column : String) :
    (expr.renamed column).isColumn = expr.isColumn := by
  cases expr <;> rfl

theorem literal?_of_isColumn {expr : Expr} (isColumn : expr.isColumn = true) :
    expr.literal? = none := by
  cases expr with
  | identifier ident =>
      rfl
  | compound parts =>
      rfl
  | _ => cases isColumn

section Operands

variable {column constant left right : Expr} {sides : Sides}

theorem sides?_operands (isColumn : column.isColumn = true)
    (literal : constant.literal?.isSome = true)
    (placed : sides.operands column constant = (left, right)) :
    sides? left right = some sides := by
  cases sides with
  | columnFirst =>
      cases placed
      simp [sides?, isColumn, literal]
  | literalFirst =>
      cases placed
      simp [sides?, isColumn, literal, literal?_of_isColumn isColumn]

/-- The sides of a comparison of a column with a literal. -/
theorem exists_operands_of_sides? (found : sides? left right = some sides) :
    ∃ column constant, sides.operands column constant = (left, right) ∧
      column.isColumn = true ∧ constant.literal?.isSome = true := by
  unfold sides? at found
  split at found
  · rename_i columnFirst
    cases found
    exact ⟨left, right, rfl, columnFirst.1, columnFirst.2⟩
  split at found
  · rename_i literalFirst
    cases found
    exact ⟨right, left, rfl, literalFirst.1, literalFirst.2⟩
  · cases found

theorem literal_of_operands (literal : constant.literal?.isSome = true)
    (placed : sides.operands column constant = (left, right)) :
    left.literal?.isSome = true ∨ right.literal?.isSome = true := by
  cases sides with
  | columnFirst =>
      cases placed
      exact Or.inr literal
  | literalFirst =>
      cases placed
      exact Or.inl literal

/-- A comparison has its column and its literal on one side each. -/
theorem operands_unique {other otherConstant : Expr} {otherSides : Sides}
    (isColumn : column.isColumn = true) (literal : constant.literal?.isSome = true)
    (placed : sides.operands column constant = (left, right)) (otherIsColumn : other.isColumn = true)
    (otherLiteral : otherConstant.literal?.isSome = true)
    (otherPlaced : otherSides.operands other otherConstant = (left, right)) :
    otherSides = sides ∧ other = column ∧ otherConstant = constant := by
  have same := (sides?_operands otherIsColumn otherLiteral otherPlaced).symm.trans
    (sides?_operands isColumn literal placed)
  cases same
  cases sides with
  | columnFirst =>
      cases placed
      cases otherPlaced
      exact ⟨rfl, rfl, rfl⟩
  | literalFirst =>
      cases placed
      cases otherPlaced
      exact ⟨rfl, rfl, rfl⟩

theorem comparand?_operands {literal : Literal} (isColumn : column.isColumn = true)
    (written : constant.literal? = some literal)
    (placed : sides.operands column constant = (left, right)) :
    comparand? left right = some (column, literal) := by
  cases sides with
  | columnFirst =>
      cases placed
      rw [comparand?, written]
  | literalFirst =>
      cases placed
      rw [comparand?, literal?_of_isColumn isColumn, written, Option.map_some]

end Operands

/-- The comparisons of a condition: what is compared, and with which literal. -/
def comparisons : Expr → List (Expr × Literal)
  | .binary left .and right => left.comparisons ++ right.comparisons
  | .binary left .or right => left.comparisons ++ right.comparisons
  | .binary left _ right => (comparand? left right).toList
  | .unary _ inner => inner.comparisons
  | .nested inner => inner.comparisons
  | .inList operand _ items =>
      items.filterMap fun item => item.literal?.map fun literal => (operand, literal)
  | _ => []

theorem comparisons_connective {left right : Expr} {operator : BinaryOperator}
    (connects : operator = .and ∨ operator = .or) :
    (binary left operator right).comparisons = left.comparisons ++ right.comparisons := by
  rcases connects with rfl | rfl <;> rfl

theorem mem_comparisons {left right : Expr} {operator : BinaryOperator}
    {comparison : Expr × Literal} (compares : operator = .equal ∨ operator = .notEqual)
    (compared : comparand? left right = some comparison) :
    comparison ∈ (binary left operator right).comparisons := by
  rcases compares with rfl | rfl <;> simp [comparisons, compared]

/-- The truth of a condition, if a test says what equals which literal. -/
def truth (test : Expr → Literal → Truth) : Expr → Truth
  | .binary left .and right => (left.truth test).both (right.truth test)
  | .binary left .or right => (left.truth test).either (right.truth test)
  | .binary left .equal right =>
      (comparand? left right).bind fun (column, literal) => test column literal
  | .binary left .notEqual right =>
      Truth.negation
        ((comparand? left right).bind fun (column, literal) => test column literal)
  | .unary .not inner => (inner.truth test).negation
  | .nested inner => inner.truth test
  | .inList operand negated items =>
      let found := Truth.any (items.filterMap fun item => item.literal?.map (test operand))
      if negated then found.negation else found
  | _ => none

end Expr

/-! ## Rows -/

/-- What a reference to a column names: the relation, if it names one, and the column. -/
structure Reference where
  relation : List String
  column : String
deriving DecidableEq

/-- A reference to another column of the same relation. -/
def Reference.beside (reference : Reference) (column : String) : Reference :=
  { reference with column := (⟨column, none⟩ : Ident).normal }

def Expr.reference? : Expr → Option Reference
  | .identifier ident => some ⟨[], ident.normal⟩
  | .compound parts =>
      parts.getLast?.map fun last => ⟨parts.dropLast.map Ident.normal, last.normal⟩
  | _ => none

/-- A renamed reference stays in its relation. -/
@[simp]
theorem Expr.reference?_renamed (expr : Expr) (column : String) :
    (expr.renamed column).reference? = expr.reference?.map fun found => found.beside column := by
  cases expr with
  | identifier ident =>
      rfl
  | compound parts =>
      cases parts with
      | nil =>
          rfl
      | cons first rest =>
          simp [renamed, reference?, Reference.beside, List.getLast?_cons]
  | _ => rfl

/--
A value of a row that is not NULL.  A value that is no string of bytes is known by
the literals that it equals.
-/
inductive Cell where
  | bytes (stored : Bytes)
  | other (equals : Literal → Bool)

/-- The bytes that a literal stands for, if it is written in hexadecimal. -/
def Literal.bytes? : Literal → Option Bytes
  | .string text =>
      match text.toList with
      | '\\' :: 'x' :: digits => Hex.decodeChars? digits
      | _ => none
  | _ => none

theorem Literal.bytes?_encode (bytes : Bytes) :
    (Literal.string ("\\x" ++ Hex.encode bytes)).bytes? = some bytes := by
  have characters : ("\\x" ++ Hex.encode bytes).toList =
      '\\' :: 'x' :: Hex.encodeChars bytes := by
    simp [Hex.encode]
  rw [Literal.bytes?, characters]
  exact Hex.decodeChars?_encodeChars bytes

/-- Whether a value equals a literal; nothing is known of NULL. -/
def Cell.equals : Cell → Literal → Truth
  | _, .null => none
  | .bytes stored, literal => literal.bytes?.map fun bytes => stored == bytes
  | .other equals, literal => some (equals literal)

/-- The server's test for equality in a row. -/
def equalsIn (row : Reference → Option Cell) (column : Expr) (literal : Literal) : Truth :=
  (column.reference?.bind row).bind fun cell => cell.equals literal

end ColumnVeil.Sql
