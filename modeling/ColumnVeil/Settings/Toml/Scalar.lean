import ColumnVeil.Calendar
import ColumnVeil.Settings.Json

/-!
# Scalars of TOML

Numbers, truth values, dates and times, which are written without quotes, and strings.
-/

namespace ColumnVeil.TomlText

/-- The characters of a text that are still to be read. -/
abbrev Rest := List Char

/-! ## Words -/

/-- Digits without the underscores between them; an underscore stands between two digits. -/
def ungroup? (isDigit : Char → Bool) : List Char → Option (List Char)
  | [] => none
  | [digit] => if isDigit digit then some [digit] else none
  | digit :: '_' :: rest =>
    if isDigit digit then (ungroup? isDigit rest).map (digit :: ·) else none
  | digit :: rest =>
    if isDigit digit then (ungroup? isDigit rest).map (digit :: ·) else none

/-- A digit of a base up to 16. -/
def isDigitOf (base : Nat) (character : Char) : Bool :=
  (JsonText.hexNumber? [character]).any fun value => value < base

/-- The number that digits of a base stand for. -/
def numberIn? (base : Nat) (text : List Char) : Option Nat := do
  let digits ← ungroup? (isDigitOf base) text
  digits.foldlM (fun value digit => do
    return base * value + (← JsonText.hexNumber? [digit])) 0

/-- The sign at the start of a text: whether it is a minus, and what follows it. -/
def readSign : List Char → Bool × List Char
  | '-' :: rest => (true, rest)
  | '+' :: rest => (false, rest)
  | rest => (false, rest)

/-- An integer of 64 bits. -/
def integer? (text : List Char) : Option Int := do
  let value : Int ← match text with
    | '0' :: 'x' :: digits => (numberIn? 16 digits).map Int.ofNat
    | '0' :: 'o' :: digits => (numberIn? 8 digits).map Int.ofNat
    | '0' :: 'b' :: digits => (numberIn? 2 digits).map Int.ofNat
    | text =>
      let (negative, digits) := readSign text
      if digits.head? == some '0' && 1 < digits.length then none
      else (numberIn? 10 digits).map fun size => if negative then -(size : Int) else size
  if -0x8000000000000000 ≤ value ∧ value < 0x8000000000000000 then some value else none

/-- A real number: digits, then a point with digits or an exponent or both. -/
def real? (text : List Char) : Option Decimal.Value := do
  let (negative, text) := readSign text
  if text = ['i', 'n', 'f'] then return ⟨negative, .infinite⟩
  else if text = ['n', 'a', 'n'] then return ⟨negative, .notANumber⟩
  else
    let isMark (character : Char) : Bool := character == 'e' || character == 'E'
    let mantissa := text.takeWhile fun character => !isMark character
    let power := (text.dropWhile fun character => !isMark character).drop 1
    let (falling, powerDigits) := readSign power
    let exponent ←
      if mantissa.length = text.length then some []
      else (ungroup? Char.isDigit powerDigits).map fun digits =>
        'e' :: (if falling then '-' :: digits else digits)
    let whole ← ungroup? Char.isDigit (mantissa.takeWhile (· != '.'))
    let fraction ← match mantissa.dropWhile (· != '.') with
      | _ :: digits => (ungroup? Char.isDigit digits).map ('.' :: ·)
      | [] => some []
    if (whole.head? == some '0' && 1 < whole.length) || (exponent.isEmpty && fraction.isEmpty) then none
    else
      let decimal ← Decimal.Scientific.ofChars? (whole ++ fraction ++ exponent)
      let magnitude := decimal.round Decimal.double
      if magnitude = .infinite then none else return ⟨negative, magnitude⟩

/-- The number of some digits within bounds, with leading zeros. -/
def twoDigits? (low high : Nat) (tens ones : Char) : Option Nat :=
  let value := Decimal.natOfDigits [tens, ones]
  if tens.isDigit && ones.isDigit && low ≤ value && value ≤ high then some value else none

/-- A date at the start of a text, which stays as it is written, and what follows it. -/
def readDate? : List Char → Option (List Char × List Char)
  | a :: b :: c :: d :: '-' :: e :: f :: '-' :: g :: h :: rest => do
    if [a, b, c, d].all Char.isDigit then
      let year := Decimal.natOfDigits [a, b, c, d]
      let month ← twoDigits? 1 12 e f
      let _ ← twoDigits? 1 ((Calendar.monthLengths year)[month - 1]?.getD 0) g h
      return ([a, b, c, d, '-', e, f, '-', g, h], rest)
    else none
  | _ => none

/-- A time of day at the start of a text, with at most nine decimals and none that is a zero
at the end, and what follows it. -/
def readTime? : List Char → Option (List Char × List Char)
  | a :: b :: ':' :: c :: d :: ':' :: e :: f :: rest => do
    let _ ← twoDigits? 0 23 a b
    let _ ← twoDigits? 0 59 c d
    let _ ← twoDigits? 0 60 e f
    let time := [a, b, ':', c, d, ':', e, f]
    match rest with
    | '.' :: rest =>
      let decimals := rest.takeWhile Char.isDigit
      let kept := ((decimals.take 9).reverse.dropWhile (· == '0')).reverse
      if decimals.isEmpty then none
      else return (if kept.isEmpty then time else time ++ '.' :: kept, rest.drop decimals.length)
    | rest => return (time, rest)
  | _ => none

/-- The distance from universal time that a whole text spells. -/
def offset? : List Char → Option (List Char)
  | [] => some []
  | ['Z'] => some ['Z']
  | ['z'] => some ['Z']
  | [sign, a, b, ':', c, d] => do
    let hours ← twoDigits? 0 23 a b
    let minutes ← twoDigits? 0 59 c d
    if sign = '+' ∨ (sign = '-' ∧ hours + minutes = 0) then return ['+', a, b, ':', c, d]
    else if sign = '-' then return ['-', a, b, ':', c, d]
    else none
  | _ => none

/-- A date, a time of day, or both and perhaps a distance from universal time. -/
def moment? (text : List Char) : Option (List Char) :=
  match readDate? text with
  | some (date, []) => some date
  | some (date, separator :: rest) => do
    if separator == 'T' || separator == 't' || separator == ' ' then
      let (time, rest) ← readTime? rest
      return date ++ 'T' :: time ++ (← offset? rest)
    else none
  | none =>
    match readTime? text with
    | some (time, []) => some time
    | _ => none

/-- The value of a word. -/
def word? (text : List Char) : Option Document :=
  if text = ['t', 'r', 'u', 'e'] then some (.boolean true)
  else if text = ['f', 'a', 'l', 's', 'e'] then some (.boolean false)
  else
    (integer? text).map .integer <|> (real? text).map .real
      <|> (moment? text).map fun moment => .string (String.ofList moment)

/-- A character of a word. -/
def isWordCharacter (character : Char) : Bool :=
  character.isAlphanum || character == '_' || character == '+' || character == '-'
    || character == '.' || character == ':'

/-- A word and what follows it.  A blank may part the date and the time of a moment. -/
def readWord? (rest : Rest) : Option (Document × Rest) :=
  let first := rest.takeWhile isWordCharacter
  let behind := rest.dropWhile isWordCharacter
  match behind with
  | ' ' :: a :: b :: ':' :: _ =>
    let second := (behind.drop 1).takeWhile isWordCharacter
    if (readDate? first).any (·.2.isEmpty) && a.isDigit && b.isDigit then
      (word? (first ++ ' ' :: second)).map (·, behind.drop (1 + second.length))
    else (word? first).map (·, behind)
  | behind => (word? first).map (·, behind)

/-! ## Strings -/

/-- A character that may stand in a string or a comment. -/
def isPlain (character : Char) : Bool :=
  character == '\t' || (32 ≤ character.toNat && character.toNat != 127)

/-- The character of a code point that is one. -/
def character? (code : Nat) : Option Char :=
  if code < 0xD800 ∨ (0xE000 ≤ code ∧ code < 0x110000) then some (Char.ofNat code) else none

/-- The character of an escape behind its backslash, and what follows it. -/
def readEscape? : Rest → Option (Char × Rest)
  | 'u' :: rest => do
    if rest.length < 4 then none
    else return (← character? (← JsonText.hexNumber? (rest.take 4)), rest.drop 4)
  | 'U' :: rest => do
    if rest.length < 8 then none
    else return (← character? (← JsonText.hexNumber? (rest.take 8)), rest.drop 8)
  | '/' :: _ => none
  | letter :: rest => (JsonText.escaped? letter).map (·, rest)
  | [] => none

/-- Pass over one end of a line. -/
def newline? : Rest → Option Rest
  | '\n' :: rest => some rest
  | '\r' :: '\n' :: rest => some rest
  | _ => none

/-- Pass over blanks within a line. -/
def skipBlanks : Rest → Rest :=
  List.dropWhile fun character => character == ' ' || character == '\t'

/-- Pass over blanks and ends of lines; `fuel` bounds the number of lines. -/
def skipLines : (fuel : Nat) → Rest → Rest
  | 0, rest => rest
  | fuel + 1, rest =>
    match newline? (skipBlanks rest) with
    | some rest => skipLines fuel rest
    | none => skipBlanks rest

/-- The rest of a string of one line, and what follows it.  Between single quotes nothing is
escaped. -/
def readLine? (quote : Char) : (fuel : Nat) → Rest → Option (List Char × Rest)
  | 0, _ => none
  | _, [] => none
  | fuel + 1, character :: rest => do
    if character == quote then return ([], rest)
    else if character == '\\' && quote == '"' then
      let (escaped, rest) ← readEscape? rest
      let (others, rest) ← readLine? quote fuel rest
      return (escaped :: others, rest)
    else if isPlain character then
      let (others, rest) ← readLine? quote fuel rest
      return (character :: others, rest)
    else none

/-- The rest of a string of several lines, and what follows it.  Up to two quotes may stand in
front of the three that close it, and a backslash at the end of a line joins it with what
follows. -/
def readBlock? (quote : Char) : (fuel : Nat) → Rest → Option (List Char × Rest)
  | 0, _ => none
  | _, [] => none
  | fuel + 1, character :: rest => do
    if character == quote then
      let quotes := 1 + (rest.takeWhile (· == quote)).length
      let behind := rest.drop (quotes - 1)
      if 3 ≤ quotes then
        if 5 < quotes then none else return (List.replicate (quotes - 3) quote, behind)
      else
        let (others, rest) ← readBlock? quote fuel behind
        return (List.replicate quotes quote ++ others, rest)
    else if character == '\\' && quote == '"' then
      match newline? (skipBlanks rest) with
      | some rest => readBlock? quote fuel (skipLines rest.length rest)
      | none =>
        let (escaped, rest) ← readEscape? rest
        let (others, rest) ← readBlock? quote fuel rest
        return (escaped :: others, rest)
    else match newline? (character :: rest) with
      | some rest =>
        let (others, rest) ← readBlock? quote fuel rest
        return ('\n' :: others, rest)
      | none =>
        if isPlain character then
          let (others, rest) ← readBlock? quote fuel rest
          return (character :: others, rest)
        else none

/-- A string at its opening quote, and what follows it; only a value may have several lines.
A line end right behind the opening quotes does not count. -/
def readQuoted? (severalLines : Bool) : Rest → Option (List Char × Rest)
  | quote :: rest =>
    if quote != '"' && quote != '\'' then none
    else if severalLines && rest.take 2 == [quote, quote] then
      let inside := rest.drop 2
      readBlock? quote (inside.length + 1) ((newline? inside).getD inside)
    else readLine? quote (rest.length + 1) rest
  | [] => none

end ColumnVeil.TomlText
