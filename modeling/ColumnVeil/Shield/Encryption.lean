import ColumnVeil.Crypto.Cbc
import ColumnVeil.Shield.Basic
import ColumnVeil.Shield.Values

/-!
# Encrypted columns

Literals for encrypted columns are encrypted in statements, and the values of such columns
are decrypted in results.  The server can do nothing with them but store and return them, so
every use outside the client's projection is refused.
-/

namespace ColumnVeil

open Sql

namespace Encryption

/-- An encrypted column of a result set. -/
structure EncryptedColumn where
  label : String
  rule : ColumnRule
  key : Bytes
deriving DecidableEq, Repr

/-- The columns of the current result set that are encrypted, and the source of the random
first blocks. -/
structure State where
  results : List (Option EncryptedColumn) := []
  entropy : Crypto.Entropy

/-- The encrypted constant for a literal. -/
def value (rule : ColumnRule) (key : Bytes) (literal : Literal) : Walk State Expr := do
  match ← Walk.ofExcept (rule.plaintext literal) with
  | none => return .null
  | some plaintext =>
    let state ← get
    match Crypto.Cbc.encrypt key plaintext state.own.entropy with
    | .ok (payload, entropy) =>
      set { state with own := { state.own with entropy } }
      return .ofBytes payload
    | .error error => throw (.cipher error)

/-- The values of encrypted columns. -/
def treatment : Treatment State where
  kind := "encrypted"
  carriage? rule := rule.encryptionKey.map fun _ => .replace
  value rule literal := match rule.encryptionKey with
    | some key => value rule key literal
    | none => return .null

/-- Whether a table in scope is protected. -/
def inProtectedScope (catalog : Catalog) : Walk State Bool := do
  return (← Walk.scope).tables.any catalog.isProtected

/-- Refuse something where a table in scope is protected. -/
def refuseProtected (catalog : Catalog) (failure : Failure) : Walk State Unit := do
  if ← inProtectedScope catalog then throw failure

/-- What happens to encrypted columns in statements. -/
def visitor (catalog : Catalog) : Visitor State where
  insert := treatment.treatInsert catalog
  update := treatment.treatUpdate catalog
  column expr column context :=
    if !context.selectBody && (catalog.ruleOf? column).any fun rule => rule.encryptionKey.isSome then
      throw (.query (.encryptedUse column))
    else return expr
  wildcard := refuseProtected catalog (.query .starExpression)
  unsupported feature := refuseProtected catalog (.unsupported (.onProtectedTable feature))
  other := refuseProtected catalog (.unsupported .statement)

/-- The encrypted column behind an output column of a statement. -/
def encrypted? (catalog : Catalog) (results : Option ResultColumns) (label : String) :
    Option EncryptedColumn := do
  let column ← (← results).column? label
  let rule ← catalog.ruleOf? column
  return { label, rule, key := ← rule.encryptionKey }

/-- Record the next column of a result set. -/
def recordColumn (column : Option EncryptedColumn) : Walk State Unit :=
  modify fun state => { state with own := { state.own with results := state.own.results ++ [column] } }

/-- Describe the encrypted columns among some columns as what the client works with. -/
def describeColumns (catalog : Catalog) (results : Option ResultColumns) :
    List Wire.Column → Walk State (List Wire.Column)
  | [] => return []
  | column :: rest => do
    let column ← match encrypted? catalog results column.label with
      | none =>
        recordColumn none
        pure column
      | some encrypted =>
        if column.formatCode ≠ 0 then throw (.unsupported (.binaryFormat encrypted.label))
        recordColumn (some encrypted)
        pure { column with typeOid := encrypted.rule.dataType, typeSize := encrypted.rule.width }
    return column :: (← describeColumns catalog results rest)

/-- Describe a result set. -/
def describe (catalog : Catalog) (columns : List Wire.Column) (statement : Nat) :
    Walk State (List Wire.Column) := do
  modify fun state => { state with own := { state.own with results := [] } }
  describeColumns catalog ((← Walk.scope).results? statement) columns

/-- The text of an encrypted value as the server returns it. -/
def decrypt? (column : EncryptedColumn) (returned : Bytes) : Option Bytes := do
  let payload ← decodeByteaText? returned
  let plaintext ← (Crypto.Cbc.decrypt column.key payload).toOption
  column.rule.render plaintext

/-- The value at a column of a result set. -/
def decryptValue (column : Option EncryptedColumn) (value : Option Bytes) :
    Except Failure (Option Bytes) :=
  match column, value with
  | some column, some returned =>
    match decrypt? column returned with
    | some text => .ok (some text)
    | none => .error (.undecryptable column.label)
  | _, value => .ok value

/-- The values of a row of a result set. -/
def decryptRow : List (Option EncryptedColumn) → Row → Except Failure Row
  | _, [] => .ok []
  | [], row => .ok row
  | column :: columns, value :: row => do
    return (← decryptValue column value) :: (← decryptRow columns row)

/-- Decrypt a row. -/
def inspect (row : Row) : Walk State (RowAction × Row) := do
  return (.keep, ← Walk.ofExcept (decryptRow (← get).own.results row))

/-- The shield for encrypted columns. -/
def shield (catalog : Catalog) : Shield (Traversal State) where
  protect statements := do
    modify fun state => { state with own := { state.own with results := [] } }
    walkStatements (visitor catalog) statements
  describe := describe catalog
  inspect := inspect

end Encryption

end ColumnVeil
