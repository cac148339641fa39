import ColumnVeil.Bytes
import ColumnVeil.Catalog.Definition
import ColumnVeil.Settings.Basic
import ColumnVeil.Settings.Document

/-!
# Settings in documents

The structures of a configuration are read from a document field by field.  Fields that are
left out take their defaults, and fields of other names are passed over.
-/

namespace ColumnVeil

/-- Read a field, or take a default where it is left out. -/
def fieldOr {α : Type} (entries : List (String × Document)) (name : String) (fallback : Option α)
    (read : Document → Option α) : Option α :=
  match entries.lookup name with
  | some document => read document
  | none => fallback

/-- Read something that may be null. -/
def nullable {α : Type} (read : Document → Option α) : Document → Option (Option α)
  | .null => some none
  | document => (read document).map some

/-- Read every item of a list. -/
def eachItem {α : Type} (read : Document → Option α) : Document → Option (List α)
  | .list items => items.mapM read
  | _ => none

variable (rules : ScalarRules)

/-- A key in hexadecimal digits, between which and its ends blanks do not count. -/
def decodeKey (document : Document) : Option Bytes := do
  Hex.decode? (Text.trim (← rules.text? document))

/-- The definition of a column. -/
def ColumnDefinition.ofDocument? (document : Document) : Option ColumnDefinition := do
  let entries ← document.fields?
    ["name", "type", "size", "encryption_key", "blind_index_key", "blind_index_column", "join",
      "join_column"] rules.surplus
  return {
    name := ← fieldOr entries "name" none rules.text?
    type := ← fieldOr entries "type" (some "text") rules.text?
    width := ← fieldOr entries "size" (some none)
      (nullable fun size => (rules.signed? 16 size).map Int16.ofInt)
    encryptionKey := ← fieldOr entries "encryption_key" (some none) (nullable (decodeKey rules))
    blindIndexKey := ← fieldOr entries "blind_index_key" (some none) (nullable (decodeKey rules))
    blindIndexColumn := ← fieldOr entries "blind_index_column" (some none) (nullable rules.text?)
    join := ← fieldOr entries "join" (some false) rules.boolean?
    joinColumn := ← fieldOr entries "join_column" (some none) (nullable rules.text?) }

/-- The definition of a table. -/
def TableDefinition.ofDocument? (document : Document) : Option TableDefinition := do
  let entries ← document.fields? ["name", "columns"] rules.surplus
  return {
    name := ← fieldOr entries "name" none rules.text?
    columns := ← fieldOr entries "columns" (some []) (eachItem (ColumnDefinition.ofDocument? rules)) }

/-- How the server is talked to. -/
def ServerEncryption.ofDocument? (document : Document) : Option ServerEncryption := do
  match ← rules.choice? ["disable", "require"] document with
  | "require" => return .require
  | _ => return .disable

/-- The settings of a relay. -/
def Settings.ofDocument? (document : Document) : Option Settings := do
  let defaults : Settings := {}
  let entries ← document.fields?
    ["listen", "upstream", "enable_sql_parsing", "permissive_parsing", "terminate_ssl",
      "upstream_ssl", "tls_cert", "tls_key", "upstream_ca", "upstream_server_name",
      "max_message_size", "join_key_size", "tables"] rules.surplus
  return {
    listen := ← fieldOr entries "listen" (some defaults.listen) rules.text?
    server := ← fieldOr entries "upstream" (some defaults.server) rules.text?
    shielding := ← fieldOr entries "enable_sql_parsing" (some defaults.shielding) rules.boolean?
    permissive := ← fieldOr entries "permissive_parsing" (some defaults.permissive) rules.boolean?
    terminateTls := ← fieldOr entries "terminate_ssl" (some defaults.terminateTls) rules.boolean?
    serverEncryption := ← fieldOr entries "upstream_ssl" (some defaults.serverEncryption)
      (ServerEncryption.ofDocument? rules)
    certificate := ← fieldOr entries "tls_cert" (some none) (nullable rules.text?)
    privateKey := ← fieldOr entries "tls_key" (some none) (nullable rules.text?)
    serverAuthority := ← fieldOr entries "upstream_ca" (some none) (nullable rules.text?)
    serverName := ← fieldOr entries "upstream_server_name" (some none) (nullable rules.text?)
    maxMessageSize := ← fieldOr entries "max_message_size" (some defaults.maxMessageSize)
      (rules.unsigned? 32)
    joinKeySize := ← fieldOr entries "join_key_size" (some defaults.joinKeySize) (rules.unsigned? 64)
    tables := ← fieldOr entries "tables" (some []) (eachItem (TableDefinition.ofDocument? rules)) }

end ColumnVeil
