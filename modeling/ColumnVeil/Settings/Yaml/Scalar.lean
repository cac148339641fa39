import ColumnVeil.Settings.Json

/-!
# Scalars of YAML

A scalar without quotes and without a tag is a number, a truth value, nothing or a text by
its spelling.  A scalar in quotes is a text; its lines are folded, so that a line end becomes
a blank and empty lines become line ends.
-/

namespace ColumnVeil.YamlText

/-- The characters of a text that are still to be read. -/
abbrev Rest := List Char

/-- A blank within a line. -/
def isBlank (character : Char) : Bool :=
  character == ' ' || character == '\t'

/-- Nothing, or a character that parts words. -/
def endsWord : Rest → Bool
  | [] => true
  | character :: _ => isBlank character || character == '\n'

/-- An integer of 64 bits in a base. -/
def integerIn? (base : Nat) (digits : List Char) : Option Int := do
  if digits.isEmpty then none
  else
    let value ← digits.foldlM (fun value digit => do
      let next ← JsonText.hexNumber? [digit]
      if next < base then some (base * value + next) else none) 0
    if value < 0x8000000000000000 then some (value : Int) else none

/-- The integer that a scalar spells. -/
def integer? (text : String) : Option Int :=
  match text.toList with
  | '0' :: 'x' :: digits => integerIn? 16 digits
  | '0' :: 'o' :: digits => integerIn? 8 digits
  | _ => Decimal.parseSigned? 64 text

/-- The values that a scalar can have, with the spelling of a real number. -/
inductive Scalar
  | null
  | boolean (value : Bool)
  | integer (value : Int)
  | real (spelling : String)
  | string (text : String)
deriving DecidableEq, Repr

namespace Scalar

/-- The spellings of numbers beyond all others and of no number. -/
def specialReals : List String :=
  [".inf", ".Inf", ".INF", "+.inf", "+.Inf", "+.INF", "-.inf", "-.Inf", "-.INF", ".nan", ".NaN",
    ".NAN"]

/-- A scalar that spells a real number. -/
def isReal (text : String) : Bool :=
  specialReals.contains text
    || text.toList.any Char.isDigit && (Decimal.parseFloat? Decimal.double text).isSome

/-- The value of a scalar without quotes and without a tag. -/
def ofPlain (text : String) : Scalar :=
  if ["", "~", "null"].contains text then null
  else if text == "true" then boolean true
  else if text == "false" then boolean false
  else match integer? text with
    | some value => integer value
    | none => if isReal text then real text else string text

/-- The value of a scalar without quotes under a tag; a text that does not fit is nothing. -/
def ofTagged (tag text : String) : Scalar :=
  match tag with
  | "!!bool" => if text == "true" then boolean true else if text == "false" then boolean false else null
  | "!!int" => ((Decimal.parseSigned? 64 text).map integer).getD null
  | "!!float" => if isReal text then real text else null
  | "!!null" => null
  | _ => string text

/-- The document of a scalar.  Special real numbers have none. -/
def toDocument? : Scalar → Option Document
  | null => some .null
  | boolean value => some (.boolean value)
  | integer value => some (.integer value)
  | real spelling => (Decimal.parseFloat? Decimal.double spelling).map .real
  | string text => some (.string text)

/-- The name that a scalar is as a key; nothing is no name. -/
def name? : Scalar → Option String
  | null => none
  | boolean value => some (if value then "true" else "false")
  | integer value => some (Decimal.renderInt value)
  | real spelling => some spelling
  | string text => some text

end Scalar

/-! ## Quotes -/

/-- The characters that single letters stand for behind a backslash. -/
def escapes : List (Char × Char) :=
  [ ('0', '\x00'), ('a', '\x07'), ('b', '\x08'), ('t', '\t'), ('\t', '\t'), ('n', '\n'),
    ('v', '\x0b'), ('f', '\x0c'), ('r', '\r'), ('e', '\x1b'), (' ', ' '), ('"', '"'), ('/', '/'),
    ('\\', '\\'), ('N', '\u0085'), ('_', '\u00a0'), ('L', '\u2028'), ('P', '\u2029') ]

/-- The number of digits of the code points behind some letters. -/
def codeWidth? : Char → Option Nat
  | 'x' => some 2
  | 'u' => some 4
  | 'U' => some 8
  | _ => none

/-- The character of an escape behind its backslash, and what follows it. -/
def readEscape? : Rest → Option (Char × Rest)
  | letter :: rest =>
    match codeWidth? letter with
    | some width => do
      let code ← JsonText.hexNumber? (rest.take width)
      if rest.length < width || (0xD800 ≤ code && code < 0xE000) || 0x110000 ≤ code then none
      else return (Char.ofNat code, rest.drop width)
    | none => (escapes.lookup letter).map (·, rest)
  | [] => none

/-- Pass over the blank lines at the start of a text: their number, and what follows without
the blanks in front of it.  None if what follows is indented by less than `least`. -/
def skipEmptyLines? (least : Nat) : (fuel : Nat) → Rest → Option (Nat × Rest)
  | 0, _ => none
  | fuel + 1, rest =>
    match rest.dropWhile isBlank with
    | '\n' :: rest => (skipEmptyLines? least fuel rest).map fun (count, rest) => (count + 1, rest)
    | behind => if (rest.takeWhile (· == ' ')).length < least then none else some (0, behind)

/-- What a line end and a number of empty lines after it become. -/
def folded (emptyLines : Nat) : List Char :=
  if emptyLines = 0 then [' '] else List.replicate emptyLines '\n'

/-- The rest of a scalar behind its opening quote, and what follows it.  Further lines are
indented by `least` or more; `fuel` bounds the number of steps. -/
def readQuoted? (quote : Char) (least : Nat) : (fuel : Nat) → Rest → Option (List Char × Rest)
  | 0, _ => none
  | _, [] => none
  | fuel + 1, character :: rest => do
    if character == quote then
      if quote == '\'' && rest.head? == some '\'' then
        let (others, rest) ← readQuoted? quote least fuel (rest.drop 1)
        return ('\'' :: others, rest)
      else return ([], rest)
    else if character == '\\' && quote == '"' then
      match rest with
      | '\n' :: rest =>
        let (count, rest) ← skipEmptyLines? least (rest.length + 1) rest
        let (others, rest) ← readQuoted? quote least fuel rest
        return (List.replicate count '\n' ++ others, rest)
      | rest =>
        let (escaped, rest) ← readEscape? rest
        let (others, rest) ← readQuoted? quote least fuel rest
        return (escaped :: others, rest)
    else
      let blanks := (character :: rest).takeWhile isBlank
      match (character :: rest).drop blanks.length with
      | '\n' :: rest =>
        let (count, rest) ← skipEmptyLines? least (rest.length + 1) rest
        let (others, rest) ← readQuoted? quote least fuel rest
        return (folded count ++ others, rest)
      | _ =>
        let (others, rest) ← readQuoted? quote least fuel rest
        return (character :: others, rest)

end ColumnVeil.YamlText
