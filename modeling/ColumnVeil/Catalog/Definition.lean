import ColumnVeil.Catalog.Basic
import ColumnVeil.Failure

/-!
# Definitions of protected tables

A configuration defines tables and their columns.  `Catalog.ofDefinitions` checks the
definitions and records them; a catalog that it accepts holds no key of a wrong length and
a join key size that a digest can fill.
-/

namespace ColumnVeil

/-- The definition of a column in a configuration. -/
structure ColumnDefinition where
  name : String
  type : String := "text"
  width : Option Int16 := none
  encryptionKey : Option Bytes := none
  blindIndexKey : Option Bytes := none
  blindIndexColumn : Option String := none
  join : Bool := false
  joinColumn : Option String := none
deriving DecidableEq, Repr

/-- The definition of a table in a configuration. -/
structure TableDefinition where
  name : String
  columns : List ColumnDefinition := []
deriving DecidableEq, Repr

namespace ColumnDefinition

/-- Refuse a key of a wrong length. -/
def checkKey (field table column : String) (key : Bytes) : Except Failure Unit :=
  if key.length ≠ Crypto.Cbc.keySize then
    .error (.config (.keyLength field table column key.length))
  else .ok ()

/-- The shadow that a definition names, else the one named after the column. -/
def shadow (column suffix : String) (named : Option String) : String :=
  match named with
  | some name => Text.lowercase name
  | none => column ++ suffix

/-- The rule that a definition of a column of a table states. -/
def rule (definition : ColumnDefinition) (table : String) : Except Failure ColumnRule := do
  let some dataType := DataType.ofName? definition.type
    | .error (.config (.unknownType definition.type table definition.name))
  let column := Text.lowercase definition.name
  match definition.encryptionKey with
  | some key => checkKey "encryption_key" table column key
  | none => pure ()
  let blindIndex ← match definition.blindIndexKey, definition.blindIndexColumn with
    | some key, named => do
      checkKey "blind_index_key" table column key
      pure (some ⟨shadow column "_bi" named, key⟩)
    | none, some _ => .error (.config (.indexColumnWithoutKey table column))
    | none, none => pure none
  let joinShadow :=
    if definition.join || definition.joinColumn.isSome then
      some (shadow column "_join" definition.joinColumn)
    else none
  return {
    column
    dataType
    width := definition.width.getD dataType.width
    encryptionKey := definition.encryptionKey
    blindIndex
    joinShadow }

end ColumnDefinition

namespace Catalog

/-- Record the columns of a table. -/
def addTable (catalog : Catalog) (table : TableDefinition) : Except Failure Catalog :=
  table.columns.foldlM (fun catalog definition => do
    return catalog.insert table.name (← definition.rule table.name)) catalog

/-- The catalog of some tables. -/
def ofDefinitions (tables : List TableDefinition) (joinKeySize : Nat) :
    Except Failure Catalog :=
  if joinKeySize = 0 ∨ 32 < joinKeySize then .error (.config (.joinKeySize joinKeySize))
  else tables.foldlM addTable { joinKeySize }

end Catalog

end ColumnVeil
