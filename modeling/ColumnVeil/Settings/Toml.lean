import ColumnVeil.Settings.Toml.Scalar
import ColumnVeil.Settings.Toml.Tree

/-!
# Documents in TOML

`Document.ofToml?` reads a text line by line: headers open a table, and the assignments that
follow go into it.
-/

namespace ColumnVeil

namespace TomlText

/-- Pass over a comment. -/
def skipComment? : Rest → Option Rest
  | '#' :: rest =>
    let comment := rest.takeWhile fun character => character != '\n' && character != '\r'
    if comment.all isPlain then some (rest.drop comment.length) else none
  | rest => some rest

/-- Pass over blanks, comments and ends of lines; `fuel` bounds the number of lines. -/
def skipGap? : (fuel : Nat) → Rest → Option Rest
  | 0, _ => none
  | fuel + 1, rest => do
    let rest ← skipComment? (skipBlanks rest)
    match newline? rest with
    | some rest => skipGap? fuel rest
    | none => return rest

/-- Pass over what may stand behind a header or an assignment, up to the next line. -/
def endLine? (rest : Rest) : Option Rest := do
  let rest ← skipComment? (skipBlanks rest)
  if rest.isEmpty then some [] else newline? rest

/-- A character of a key without quotes. -/
def isKeyCharacter (character : Char) : Bool :=
  character.isAlphanum || character == '_' || character == '-'

/-- One part of a key, and what follows it. -/
def readKeyPart? (rest : Rest) : Option (String × Rest) :=
  let bare := rest.takeWhile isKeyCharacter
  if bare.isEmpty then
    (readQuoted? false rest).map fun (text, rest) => (String.ofList text, rest)
  else some (String.ofList bare, rest.drop bare.length)

/-- A key with points between its parts, as a path and the last part, and what follows it. -/
def readKey? : (fuel : Nat) → Rest → Option (List String × String × Rest)
  | 0, _ => none
  | fuel + 1, rest => do
    let (part, rest) ← readKeyPart? (skipBlanks rest)
    match skipBlanks rest with
    | '.' :: rest =>
      let (path, key, rest) ← readKey? fuel rest
      return (part :: path, key, rest)
    | rest => return ([], part, rest)

mutual

/-- A value, and what follows it; `fuel` bounds the number of steps. -/
def readValue? : (fuel : Nat) → Rest → Option (Document × Rest)
  | 0, _ => none
  | fuel + 1, rest =>
    match rest with
    | '[' :: rest => (readItems? fuel rest).map fun (items, rest) => (.list items, rest)
    | '\x7b' :: rest =>
      match skipBlanks rest with
      | '\x7d' :: rest => some (.record [], rest)
      | rest => (readInline? fuel (.declared, []) rest).map fun ((_, entries), rest) =>
          (.record (entriesToDocuments entries), rest)
    | rest =>
      if rest.head? == some '"' || rest.head? == some '\'' then
        (readQuoted? true rest).map fun (text, rest) => (.string (String.ofList text), rest)
      else readWord? rest

/-- The items of an array behind its bracket or a comma, and what follows the array. -/
def readItems? : (fuel : Nat) → Rest → Option (List Document × Rest)
  | 0, _ => none
  | fuel + 1, rest => do
    match ← skipGap? (rest.length + 1) rest with
    | ']' :: rest => return ([], rest)
    | rest =>
      let (item, rest) ← readValue? fuel rest
      match ← skipGap? (rest.length + 1) rest with
      | ',' :: rest =>
        let (items, rest) ← readItems? fuel rest
        return (item :: items, rest)
      | ']' :: rest => return ([item], rest)
      | _ => none

/-- The assignments of a table in braces, and what follows the table. -/
def readInline? : (fuel : Nat) → Table → Rest → Option (Table × Rest)
  | 0, _, _ => none
  | fuel + 1, table, rest => do
    let (path, key, rest) ← readKey? (rest.length + 1) rest
    match skipBlanks rest with
    | '=' :: rest =>
      let (value, rest) ← readValue? fuel (skipBlanks rest)
      let table ← table.assign path key value
      match skipBlanks rest with
      | ',' :: rest => readInline? fuel table rest
      | '\x7d' :: rest => return (table, rest)
      | _ => none
    | _ => none

end

/-- The table of a whole document and the path of the table that is open. -/
abbrev State := Table × List String

/-- A header, behind its brackets. -/
def readHeader? (several : Bool) (table : Table) (rest : Rest) : Option (State × Rest) := do
  let (path, key, rest) ← readKey? (rest.length + 1) rest
  let table ← if several then table.declareNext path key else table.declare path key
  let state : State := (table, path ++ [key])
  match several, rest with
  | true, ']' :: ']' :: rest => return (state, rest)
  | false, ']' :: rest => return (state, rest)
  | _, _ => none

/-- An assignment to the open table. -/
def readAssignment? (state : State) (rest : Rest) : Option (State × Rest) := do
  let (table, opened) := state
  let (path, key, rest) ← readKey? (rest.length + 1) rest
  match rest with
  | '=' :: rest =>
    let (value, rest) ← readValue? (2 * rest.length + 2) (skipBlanks rest)
    return ((← Table.changeAt false (Table.assign path key value) opened table, opened), rest)
  | _ => none

/-- The lines of a document; `fuel` bounds their number. -/
def readDocument? : (fuel : Nat) → State → Rest → Option State
  | 0, _, _ => none
  | fuel + 1, state, rest => do
    match ← skipGap? (rest.length + 1) rest with
    | [] => return state
    | rest =>
      let (state, rest) ← match rest with
        | '[' :: '[' :: rest => readHeader? true state.1 rest
        | '[' :: rest => readHeader? false state.1 rest
        | rest => readAssignment? state rest
      readDocument? fuel state (← endLine? rest)

end TomlText

/-- The document that a TOML text spells. -/
def Document.ofToml? (text : String) : Option Document := do
  let characters := text.toList
  let (table, _) ← TomlText.readDocument? (characters.length + 1) ((.declared, []), []) characters
  return .record (TomlText.entriesToDocuments table.2)

end ColumnVeil
