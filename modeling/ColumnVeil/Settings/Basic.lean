import ColumnVeil.Catalog.Definition

/-!
# Settings

Everything that one relay needs to know before it starts.
-/

namespace ColumnVeil

/-- Whether the connection to the server is encrypted. -/
inductive ServerEncryption
  | disable
  | require
deriving DecidableEq, Repr

/-- The word for whether the connection to the server is encrypted. -/
def ServerEncryption.word : ServerEncryption → String
  | disable => "disable"
  | require => "require"

/-- The largest message that is accepted unless the settings say otherwise. -/
def defaultMaxMessageSize : Nat := 0x3FFFFFFF

/-- The settings of a relay. -/
structure Settings where
  /-- The address at which clients are accepted. -/
  listen : String := "127.0.0.1:6432"
  /-- The address of the server. -/
  server : String := "127.0.0.1:5432"
  /-- Shield queries and results, instead of passing all messages on. -/
  shielding : Bool := true
  /-- Pass on queries that cannot be read, for the server to complain of them. -/
  permissive : Bool := false
  /-- Answer a client's request for encryption here, and decrypt its messages. -/
  terminateTls : Bool := false
  serverEncryption : ServerEncryption := .disable
  certificate : Option String := none
  privateKey : Option String := none
  serverAuthority : Option String := none
  serverName : Option String := none
  maxMessageSize : Nat := defaultMaxMessageSize
  joinKeySize : Nat := Catalog.defaultJoinKeySize
  tables : List TableDefinition := []
deriving DecidableEq, Repr

namespace Settings

/-- Refuse settings that contradict each other. -/
def validate (settings : Settings) : Except Failure Unit :=
  if settings.certificate.isSome ≠ settings.privateKey.isSome then
    .error (.config .certificateWithoutKey)
  else if settings.maxMessageSize < 5 then
    .error (.config (.messageSizeTooSmall settings.maxMessageSize))
  else .ok ()

/-- The catalog of the tables that the settings define. -/
def catalog (settings : Settings) : Except Failure Catalog :=
  Catalog.ofDefinitions settings.tables settings.joinKeySize

/-- The text in front of the last colon, if there is one. -/
def beforeLastColon? (characters : List Char) : Option (List Char) :=
  let reversed := characters.reverse
  if reversed.contains ':' then some ((reversed.dropWhile (· != ':')).drop 1).reverse else none

/-- The name under which the server is known in an encrypted connection: the configured name,
or else the host in the server's address. -/
def serverHost (settings : Settings) : String :=
  match settings.serverName with
  | some name => name
  | none =>
    match beforeLastColon? settings.server.toList with
    | some host =>
      let isBracket (character : Char) : Bool := character == '[' || character == ']'
      String.ofList ((host.dropWhile isBracket).reverse.dropWhile isBracket).reverse
    | none => settings.server

end Settings

end ColumnVeil
