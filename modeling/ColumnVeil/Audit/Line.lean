import ColumnVeil.Audit.Event
import ColumnVeil.Audit.Timestamp

/-!
# Lines of the audit log

An event is written as one line, either a JSON object or words with an equals sign.
-/

namespace ColumnVeil.Audit

/-- The level under which a line is logged. -/
inductive Level
  | info
  | warning
  | error
deriving DecidableEq, Repr

/-- The name of a level. -/
def Level.word : Level → String
  | info => "INFO"
  | warning => "WARN"
  | error => "ERROR"

/-- The level of a line of words about an event of a severity. -/
def Severity.level : Severity → Level
  | info => .info
  | warning => .warning
  | high => .warning
  | critical => .error

/-- A line of the log. -/
structure Line where
  level : Level
  text : String
deriving DecidableEq, Repr

/-- A character inside a JSON string. -/
def jsonCharacter (character : Char) : List Char :=
  match character with
  | '"' => ['\\', '"']
  | '\\' => ['\\', '\\']
  | '\n' => ['\\', 'n']
  | '\r' => ['\\', 'r']
  | '\t' => ['\\', 't']
  | '\x08' => ['\\', 'b']
  | '\x0c' => ['\\', 'f']
  | other =>
    if other.toNat < 32 then
      ['\\', 'u', '0', '0', Nat.digitChar (other.toNat / 16), Nat.digitChar (other.toNat % 16)]
    else [other]

/-- A text as a JSON string. -/
def jsonString (text : String) : String :=
  String.ofList ('"' :: text.toList.flatMap jsonCharacter ++ ['"'])

/-- A text as a JSON string, or the JSON null. -/
def jsonStringOrNull : Option String → String
  | some text => jsonString text
  | none => "null"

/-- A JSON object of keys and values that are JSON already. -/
def jsonObject (entries : List (String × String)) : String :=
  "\x7b" ++ String.intercalate "," (entries.map fun entry => jsonString entry.1 ++ ":" ++ entry.2)
    ++ "\x7d"

namespace Event

/-- An event as a JSON object, which holds the time if one is given. -/
def json (event : Event) (time : Option Nat) : String :=
  let stamp := match time with
    | some microseconds => [("timestamp", toString microseconds)]
    | none => []
  jsonObject <| stamp ++
    [ ("event_type", jsonString event.kind.name),
      ("severity", jsonString event.severity.name),
      ("client_addr", jsonStringOrNull (event.client.map (·.text))),
      ("session_id", jsonStringOrNull event.session),
      ("query", jsonStringOrNull event.query),
      ("message", jsonString event.message),
      ("metadata", jsonObject (event.details.map fun detail => (detail.1, jsonString detail.2))) ]

/-- An event in words; further facts are in the order of their keys. -/
def words (event : Event) (time : Option Nat) : String :=
  let word (name : String) : Option String → List String
    | some value => [name ++ "=" ++ value]
    | none => []
  let quoted (text : String) : String := "\"" ++ text ++ "\""
  let details := event.details.mergeSort fun left right => left.1 ≤ right.1
  String.intercalate " " <|
    ["SECURITY_AUDIT"] ++ word "timestamp" (time.map Timestamp.text)
      ++ ["severity=" ++ event.severity.word, "type=" ++ event.kind.word]
      ++ word "client" (event.client.map (·.text)) ++ word "session" event.session
      ++ word "query" (event.query.map quoted)
      ++ details.map (fun detail => detail.1 ++ "=" ++ detail.2)
      ++ ["message=" ++ quoted event.message]

/-- The line of an event.  JSON lines are all on one level, as they tell the severity. -/
def line (event : Event) (asJson : Bool) (time : Option Nat) : Line :=
  if asJson then ⟨.info, event.json time⟩ else ⟨event.severity.level, event.words time⟩

end Event

end ColumnVeil.Audit
