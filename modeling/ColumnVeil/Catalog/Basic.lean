import ColumnVeil.Catalog.DataType
import ColumnVeil.Sql.Literal

/-!
# The catalog of protected columns

How each column is protected: its values encrypted, found through a blind index, or joined
through a shadow.  The catalog is asked by the names that queries use, in whatever case.
-/

namespace ColumnVeil

/-- The shadow column through which the values of a column are found, with its key. -/
structure BlindIndex where
  column : String
  key : Bytes
deriving DecidableEq, Repr

/-- How a column is protected. -/
structure ColumnRule where
  column : String
  /-- The type of the values that the client works with. -/
  dataType : DataType
  width : Int16
  encryptionKey : Option Bytes := none
  blindIndex : Option BlindIndex := none
  /-- The shadow column through which the column is joined. -/
  joinShadow : Option String := none
deriving DecidableEq, Repr

namespace ColumnRule

/-- A column of a type without protection. -/
def plain (column : String) (dataType : DataType) : ColumnRule :=
  { column, dataType, width := dataType.width }

/-- Encrypt the values of a column. -/
def encrypted (rule : ColumnRule) (key : Bytes) : ColumnRule :=
  { rule with encryptionKey := some key }

/-- Find the values of a column through a shadow named after it. -/
def indexed (rule : ColumnRule) (key : Bytes) : ColumnRule :=
  { rule with blindIndex := some ⟨rule.column ++ "_bi", key⟩ }

/-- Join a column through a shadow named after it. -/
def joined (rule : ColumnRule) : ColumnRule :=
  { rule with joinShadow := some (rule.column ++ "_join") }

/-- Whether anything about a column is protected. -/
def isProtected (rule : ColumnRule) : Bool :=
  rule.encryptionKey.isSome || rule.blindIndex.isSome || rule.joinShadow.isSome

end ColumnRule

/-- A name as the catalog keeps it. -/
def foldCase (name : String) : String :=
  if name.toList.any Text.isUppercase then Text.lowercase name else name

/-- The rules of all columns, each under the lower-case names of its table and itself, and
the number of bytes that a join shadow keeps of a digest. -/
structure Catalog where
  rules : List (Sql.ColumnRef × ColumnRule) := []
  joinKeySize : Nat := 8
deriving DecidableEq, Repr

namespace Catalog

/-- The number of bytes that a join shadow keeps unless a configuration says otherwise. -/
def defaultJoinKeySize : Nat := 8

/-- Record the rule of a column, in place of one recorded before. -/
def insert (catalog : Catalog) (table : String) (rule : ColumnRule) : Catalog :=
  let key : Sql.ColumnRef := ⟨Text.lowercase table, Text.lowercase rule.column⟩
  { catalog with
    rules := (key, rule) :: catalog.rules.filter fun entry => entry.1 != key }

/-- The rule of a column. -/
def rule? (catalog : Catalog) (table column : String) : Option ColumnRule :=
  catalog.rules.lookup ⟨foldCase table, foldCase column⟩

/-- The rule of a column that a reference names. -/
def ruleOf? (catalog : Catalog) (reference : Sql.ColumnRef) : Option ColumnRule :=
  catalog.rule? reference.table reference.column

/-- Whether any column of a table is protected. -/
def isProtected (catalog : Catalog) (table : String) : Bool :=
  catalog.rules.any fun (key, rule) => key.table == foldCase table && rule.isProtected

/-- The number of tables with a recorded column. -/
def tableCount (catalog : Catalog) : Nat :=
  (catalog.rules.map fun entry => entry.1.table).eraseDups.length

end Catalog

end ColumnVeil
