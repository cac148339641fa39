import ColumnVeil.Settings.Decode
import ColumnVeil.Settings.Layers
import ColumnVeil.Settings.Toml
import ColumnVeil.Settings.Yaml

/-!
# Loading settings

Settings are read from a file, whose ending tells its notation, and from environment
variables, which win over the file.  What cannot be read is refused, and so are settings
that contradict each other.
-/

namespace ColumnVeil

/-- A file with settings; a file that does not exist has no contents. -/
structure SettingsFile where
  path : String
  contents : Option String
deriving DecidableEq, Repr

namespace SettingsFile

/-- What follows the last point in the name of a file, unless the name begins with it. -/
def ending? (path : String) : Option String :=
  let reversed := (path.toList.reverse).takeWhile (· != '/')
  let ending := reversed.takeWhile (· != '.')
  if reversed.length ≤ ending.length + 1 then none else some (String.ofList ending.reverse)

/-- The document of a text in the notation of an ending. -/
def read? (ending text : String) : Option Document :=
  match ending with
  | "json" => Document.ofJson? text
  | "toml" => Document.ofToml? text
  | "yaml" => Document.ofYaml? text
  | "yml" => Document.ofYaml? text
  | _ => none

/-- A text without the mark of its byte order. -/
def withoutMark (text : String) : String :=
  match text.toList with
  | '\uFEFF' :: rest => String.ofList rest
  | _ => text

/-- The entries of a file, whose document is a record or nothing. -/
def entries? (file : SettingsFile) : Option (List (String × Document)) := do
  match ← read? (← ending? file.path) (withoutMark (← file.contents)) with
  | .record entries => return entries
  | .null => return []
  | _ => none

end SettingsFile

/-- The settings of a file, if one is given, under some environment variables. -/
def Settings.load (file : Option SettingsFile) (environment : List (String × String)) :
    Except Failure Settings := do
  let loaded : Option Settings := do
    let entries ← match file with
      | some file => file.entries?
      | none => some []
    Settings.ofDocument? .lenient (((Document.record []).lay entries).lay (Environment.layer environment))
  let some settings := loaded | .error (.config .unreadable)
  settings.validate
  return settings

end ColumnVeil
