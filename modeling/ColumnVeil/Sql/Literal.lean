import ColumnVeil.Bytes
import ColumnVeil.Sql.Printer

/-!
# Columns and literals in expressions

What an expression has to look like to be a reference to a column, a literal, or one
compared with the other.
-/

namespace ColumnVeil.Sql

/-- A column of a table, both by their normal names. -/
structure ColumnRef where
  table : String
  column : String
deriving DecidableEq, Repr

/-- How a column is written in a message. -/
def ColumnRef.text (reference : ColumnRef) : String :=
  reference.table ++ "." ++ reference.column

/-- A constant operand of a comparison, or a constant that is stored. -/
inductive Literal
  | null
  | string (text : String)
  | number (text : String)
  | boolean (value : Bool)
deriving DecidableEq, Repr

/-- The literal that a constant is, if it is one whose content is known. -/
def Value.literal? : Value → Option Literal
  | null => some .null
  | string text => some (.string text)
  | escapedString text => some (.string text)
  | marked text => some (.string text)
  | number digits _ => some (.number digits)
  | boolean value => some (.boolean value)
  | _ => none

namespace Expr

/-- The literal that an expression is: a constant, possibly in parentheses, or a number
under minus signs. -/
def literal? : Expr → Option Literal
  | value constant => constant.literal?
  | unary .minus operand =>
    match operand.literal? with
    | some (.number text) => some (.number ("-" ++ text))
    | _ => none
  | nested inner => inner.literal?
  | _ => none

/-- Whether an expression is a reference to a column. -/
def isColumn : Expr → Bool
  | identifier _ => true
  | compound _ => true
  | _ => false

/-- The parts of a reference to a column. -/
def columnName : Expr → Name
  | identifier ident => [ident]
  | compound parts => parts
  | _ => []

/-- The sides on which a comparison has a column and a literal. -/
inductive Sides
  | columnFirst
  | literalFirst
deriving DecidableEq, Repr

/-- On which sides a comparison of two operands has a column and a literal, if it does. -/
def sides? (left right : Expr) : Option Sides :=
  if left.isColumn ∧ right.literal?.isSome then some .columnFirst
  else if right.isColumn ∧ left.literal?.isSome then some .literalFirst
  else none

/-- The column and the literal of a test for equality or inequality between the two. -/
def columnComparison? : Expr → Option (Expr × Expr)
  | binary left operator right =>
    if operator = .equal ∨ operator = .notEqual then
      match sides? left right with
      | some .columnFirst => some (left, right)
      | some .literalFirst => some (right, left)
      | none => none
    else none
  | _ => none

/-- The columns of a test for equality between two of them. -/
def columnEquality? : Expr → Option (Expr × Expr)
  | binary left .equal right => if left.isColumn ∧ right.isColumn then some (left, right) else none
  | _ => none

/-- A reference to another column of the same relation. -/
def renamed (column : String) : Expr → Expr
  | identifier _ => identifier ⟨column, none⟩
  | compound parts =>
    compound (if parts.isEmpty then [] else parts.dropLast ++ [⟨column, none⟩])
  | other => other

/-- The constant for a string of bytes. -/
def ofBytes (bytes : Bytes) : Expr :=
  value (.string ("\\x" ++ Hex.encode bytes))

/-- The constant for no value. -/
def null : Expr :=
  value .null

end Expr

end ColumnVeil.Sql
