import ColumnVeil.Settings.Document

/-!
# Documents in JSON

`Document.ofJson?` reads a JSON text.  Of entries with one name the last counts, integers
that do not fit 64 bits become real numbers, and texts nested too deep are refused.
-/

namespace ColumnVeil

namespace JsonText

/-- The characters of a text that are still to be read. -/
abbrev Rest := List Char

/-- Pass over white space. -/
def skipSpace : Rest → Rest :=
  List.dropWhile fun character =>
    character == ' ' || character == '\n' || character == '\t' || character == '\r'

/-- The number that some hexadecimal digits stand for. -/
def hexNumber? (digits : List Char) : Option Nat :=
  digits.foldlM (fun value digit => do
    if digit.isDigit then return 16 * value + (digit.toNat - 48)
    else if 'a' ≤ digit ∧ digit ≤ 'f' then return 16 * value + (digit.toNat - 87)
    else if 'A' ≤ digit ∧ digit ≤ 'F' then return 16 * value + (digit.toNat - 55)
    else none) 0

/-- The character that a letter stands for behind a backslash. -/
def escaped? : Char → Option Char
  | '"' => some '"'
  | '\\' => some '\\'
  | '/' => some '/'
  | 'b' => some '\x08'
  | 'f' => some '\x0c'
  | 'n' => some '\n'
  | 'r' => some '\r'
  | 't' => some '\t'
  | _ => none

/-- The character that a pair of surrogates stands for. -/
def surrogatePair? (high low : Nat) : Option Char :=
  if 0xD800 ≤ high ∧ high < 0xDC00 ∧ 0xDC00 ≤ low ∧ low < 0xE000 then
    some (Char.ofNat (0x10000 + (high - 0xD800) * 0x400 + (low - 0xDC00)))
  else none

/-- The rest of a string behind its opening quote, and what follows it. -/
def readString? : Rest → Option (List Char × Rest)
  | '"' :: rest => some ([], rest)
  | '\\' :: 'u' :: a :: b :: c :: d :: rest => do
    let code ← hexNumber? [a, b, c, d]
    if 0xD800 ≤ code ∧ code < 0xE000 then
      match rest with
      | '\\' :: 'u' :: e :: f :: g :: h :: rest => do
        let character ← surrogatePair? code (← hexNumber? [e, f, g, h])
        let (others, rest) ← readString? rest
        return (character :: others, rest)
      | _ => none
    else
      let (others, rest) ← readString? rest
      return (Char.ofNat code :: others, rest)
  | '\\' :: letter :: rest => do
    let character ← escaped? letter
    let (others, rest) ← readString? rest
    return (character :: others, rest)
  | character :: rest => do
    if character.toNat < 32 || character == '\\' then none
    else
      let (others, rest) ← readString? rest
      return (character :: others, rest)
  | [] => none

/-- The digits at the start of a text, and what follows them. -/
def spanDigits (rest : Rest) : List Char × Rest :=
  (rest.takeWhile Char.isDigit, rest.dropWhile Char.isDigit)

/-- The fraction and the exponent of a number, as they are written. -/
def readTail? (rest : Rest) : Option (List Char × Rest) := do
  let (fraction, rest) ← match rest with
    | '.' :: rest =>
      let (digits, rest) := spanDigits rest
      if digits.isEmpty then none else some ('.' :: digits, rest)
    | rest => some ([], rest)
  match rest with
  | mark :: rest' =>
    if mark == 'e' || mark == 'E' then
      let (sign, rest') := match rest' with
        | '+' :: rest' => (['+'], rest')
        | '-' :: rest' => (['-'], rest')
        | rest' => ([], rest')
      let (digits, rest') := spanDigits rest'
      if digits.isEmpty then none else some (fraction ++ 'e' :: sign ++ digits, rest')
    else some (fraction, rest)
  | [] => some (fraction, rest)

/-- A number without its sign, and what follows it. -/
def readNumber? (negative : Bool) (rest : Rest) : Option (Document × Rest) := do
  let (digits, rest) := spanDigits rest
  if digits.isEmpty || (digits.head? == some '0' && 1 < digits.length) then none
  else
    let (tail, rest) ← readTail? rest
    let size : Int := Decimal.natOfDigits digits
    let value := if negative then -size else size
    let isInteger := tail.isEmpty && -0x8000000000000000 ≤ value && value < 0x8000000000000000
      && !(negative && size == 0)
    if isInteger then return (.integer value, rest)
    else
      let decimal ← Decimal.Scientific.ofChars? (digits ++ tail)
      let magnitude := decimal.round Decimal.double
      if magnitude = .infinite then none else return (.real ⟨negative, magnitude⟩, rest)

/-- What follows a word at the start of a text. -/
def afterWord? (word : String) (rest : Rest) : Option Rest :=
  if word.toList.isPrefixOf rest then some (rest.drop word.length) else none

/-- The entries with the last of each name. -/
def lastOfEach (entries : List (String × Document)) : List (String × Document) :=
  entries.foldl (fun kept (name, value) => Document.put name value kept) []

mutual

/-- A value, and what follows it.  `depth` is how deep values may still be nested, and `fuel`
bounds the number of steps. -/
def readValue? : (fuel depth : Nat) → Rest → Option (Document × Rest)
  | 0, _, _ => none
  | fuel + 1, depth, rest =>
    match skipSpace rest with
    | '"' :: rest => (readString? rest).map fun (text, rest) => (.string (String.ofList text), rest)
    | '[' :: rest =>
      if depth ≤ 1 then none
      else match skipSpace rest with
        | ']' :: rest => some (.list [], rest)
        | rest => (readItems? fuel (depth - 1) rest).map fun (items, rest) => (.list items, rest)
    | '\x7b' :: rest =>
      if depth ≤ 1 then none
      else match skipSpace rest with
        | '\x7d' :: rest => some (.record [], rest)
        | rest => (readEntries? fuel (depth - 1) rest).map fun (entries, rest) =>
            (.record (lastOfEach entries), rest)
    | '-' :: rest => readNumber? true rest
    | rest =>
      match afterWord? "null" rest, afterWord? "true" rest, afterWord? "false" rest with
      | some rest, _, _ => some (.null, rest)
      | _, some rest, _ => some (.boolean true, rest)
      | _, _, some rest => some (.boolean false, rest)
      | _, _, _ => readNumber? false rest

/-- The items of a list that is not empty, and what follows the list. -/
def readItems? : (fuel depth : Nat) → Rest → Option (List Document × Rest)
  | 0, _, _ => none
  | fuel + 1, depth, rest => do
    let (item, rest) ← readValue? fuel depth rest
    match skipSpace rest with
    | ',' :: rest =>
      let (items, rest) ← readItems? fuel depth rest
      return (item :: items, rest)
    | ']' :: rest => return ([item], rest)
    | _ => none

/-- The entries of a record that is not empty, and what follows the record. -/
def readEntries? : (fuel depth : Nat) → Rest → Option (List (String × Document) × Rest)
  | 0, _, _ => none
  | fuel + 1, depth, rest => do
    match skipSpace rest with
    | '"' :: rest =>
      let (name, rest) ← readString? rest
      match skipSpace rest with
      | ':' :: rest =>
        let (value, rest) ← readValue? fuel depth rest
        let entry := (String.ofList name, value)
        match skipSpace rest with
        | ',' :: rest =>
          let (entries, rest) ← readEntries? fuel depth rest
          return (entry :: entries, rest)
        | '\x7d' :: rest => return ([entry], rest)
        | _ => none
      | _ => none
    | _ => none

end

/-- How deep values may be nested. -/
def depthLimit : Nat := 128

end JsonText

/-- The document that a JSON text spells. -/
def Document.ofJson? (text : String) : Option Document := do
  let characters := text.toList
  let (document, rest) ←
    JsonText.readValue? (2 * characters.length + 2) JsonText.depthLimit characters
  if (JsonText.skipSpace rest).isEmpty then some document else none

end ColumnVeil
