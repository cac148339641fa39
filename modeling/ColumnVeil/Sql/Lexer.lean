import ColumnVeil.Sql.Token
import ColumnVeil.Text.Alphabet
import ColumnVeil.Text.Numeral
import ColumnVeil.Text.Blank

/-!
# From text to tokens

A query text is cut from the left: at every position the reader finds one lexeme, a token
or a stretch of blank text, and says how many characters it spans.  Positions follow from
those lengths, so no reader of a single lexeme has to keep count of lines.
-/

namespace ColumnVeil.Sql

/-- What stands at the head of a text: a token, or blank text when there is none, and its
length. -/
structure Lexeme where
  token : Option Token
  length : Nat

/-- Why no lexeme was found, and how far from the head of the text. -/
structure LexicalFault where
  message : String
  offset : Nat

abbrev Scan := Except LexicalFault Lexeme

namespace Lexeme

/-- A character that can begin an identifier. -/
def startsWord (character : Char) : Bool :=
  Text.isAlphabetic character || character = '_'

/-- A character that can continue an identifier. -/
def continuesWord (character : Char) : Bool :=
  Text.isAlphabetic character || character.isDigit || character = '$' || character = '_'

/-- A character that can continue an operator. -/
def continuesOperator (character : Char) : Bool :=
  "+-*/<>=~!@#%^&|\x60?".toList.contains character

/-- A hexadecimal digit of either case. -/
def isHexDigit (character : Char) : Bool :=
  (digitValue character).isSome
where
  /-- The value of a hexadecimal digit. -/
  digitValue (character : Char) : Option Nat :=
    let code := character.toNat
    if 48 ≤ code ∧ code ≤ 57 then some (code - 48)
    else if 97 ≤ code ∧ code ≤ 102 then some (code - 87)
    else if 65 ≤ code ∧ code ≤ 70 then some (code - 55)
    else none

/-- The value of a hexadecimal digit. -/
def hexValue (character : Char) : Option Nat :=
  isHexDigit.digitValue character

/-- The character with a code, unless the code names none. -/
def charOfCode? (code : Nat) : Option Char :=
  if code < 0xD800 ∨ (0xDFFF < code ∧ code < 0x110000) then some (Char.ofNat code) else none

/-- A word without quotation marks, which begins at the head. -/
def bareWord (characters : List Char) : Lexeme :=
  match characters with
  | [] => ⟨none, 0⟩
  | first :: rest =>
    let body := rest.takeWhile continuesWord
    ⟨some (.word (String.ofList (first :: body)) false), body.length + 1⟩

/-- The text up to a closing mark, where a doubled mark stands for itself, and the number of
characters up to and with that mark. -/
def quotedText (mark : Char) (before : List Char) (count : Nat) :
    List Char → Option (String × Nat)
  | [] => none
  | character :: next :: rest =>
    if character = mark then
      if next = mark then quotedText mark (mark :: before) (count + 2) rest
      else some (String.ofList before.reverse, count + 1)
    else quotedText mark (character :: before) (count + 1) (next :: rest)
  | [character] =>
    if character = mark then some (String.ofList before.reverse, count + 1) else none

/-- The character that a letter after a backslash stands for in a hexadecimal string. -/
def controlCharacter : Char → Char
  | '0' => Char.ofNat 0
  | 'a' => Char.ofNat 7
  | 'b' => Char.ofNat 8
  | 'f' => Char.ofNat 12
  | 'n' => '\n'
  | 'r' => '\r'
  | 't' => '\t'
  | 'Z' => Char.ofNat 26
  | other => other

/-- As `quotedText` with an apostrophe for a mark, except that a backslash gives the next
character another meaning. -/
def backslashText (before : List Char) (count : Nat) : List Char → Option (String × Nat)
  | [] => none
  | '\\' :: next :: rest => backslashText (controlCharacter next :: before) (count + 2) rest
  | '\'' :: '\'' :: rest => backslashText ('\'' :: before) (count + 2) rest
  | '\'' :: _ => some (String.ofList before.reverse, count + 1)
  | ['\\'] => none
  | character :: rest => backslashText (character :: before) (count + 1) rest

/-- The number that a run of digits spells in a base, a leading plus sign allowed. -/
def codeOfDigits? (base : Nat) (digits : List Char) : Option Nat :=
  let digits := match digits with
    | '+' :: rest => rest
    | digits => digits
  if digits.isEmpty then none
  else digits.foldl (fun total digit => do
    let total ← total
    let value ← hexValue digit
    if value < base then pure (total * base + value) else none) (some 0)

/-- The character of one byte; only ASCII can be written so. -/
def byteCharacter? (base : Nat) (digits : List Char) : Option Char := do
  let code ← codeOfDigits? base digits
  let code := code % 256
  if code < 128 then some (Char.ofNat code) else none

/-- What follows a backslash in an escaped string: the character it stands for and the
number of characters it takes. -/
def escapeSequence? : List Char → Option (Char × Nat)
  | [] => none
  | 'b' :: _ => some (Char.ofNat 8, 1)
  | 'f' :: _ => some (Char.ofNat 12, 1)
  | 'n' :: _ => some ('\n', 1)
  | 'r' :: _ => some ('\r', 1)
  | 't' :: _ => some ('\t', 1)
  | 'u' :: rest => codePoint? 4 rest
  | 'U' :: rest => codePoint? 8 rest
  | 'x' :: rest =>
    let digits := (rest.take 2).takeWhile isHexDigit
    if digits.isEmpty then some ('x', 1)
    else (byteCharacter? 16 digits).map (·, digits.length + 1)
  | first :: rest =>
    if isOctal first then
      let digits := first :: (rest.take 2).takeWhile isOctal
      (byteCharacter? 8 digits).map (·, digits.length)
    else some (first, 1)
where
  /-- A character given by a fixed number of hexadecimal digits. -/
  codePoint? (width : Nat) (rest : List Char) : Option (Char × Nat) :=
    if rest.length < width then none
    else do
      let code ← codeOfDigits? 16 (rest.take width)
      let character ← charOfCode? code
      pure (character, width + 1)
  /-- A digit below eight. -/
  isOctal (character : Char) : Bool :=
    '0' ≤ character ∧ character ≤ '7'

/-- The body of an escaped string up to its closing apostrophe.  No escape may stand for
the character of code zero. -/
def escapedText (before : List Char) (count : Nat) :
    (fuel : Nat) → List Char → Option (String × Nat)
  | 0, _ => none
  | _ + 1, [] => none
  | fuel + 1, '\'' :: '\'' :: rest => escapedText ('\'' :: before) (count + 2) fuel rest
  | _ + 1, '\'' :: _ => some (String.ofList before.reverse, count + 1)
  | fuel + 1, '\\' :: rest => do
    let (character, width) ← escapeSequence? rest
    if character = Char.ofNat 0 then none
    else escapedText (character :: before) (count + 1 + width) fuel (rest.drop width)
  | fuel + 1, character :: rest => escapedText (character :: before) (count + 1) fuel rest

/-- A character given by exactly `width` hexadecimal digits, or the fault at the digit that
is none. -/
def unicodeEscape (width value offset : Nat) : List Char → Except LexicalFault Char :=
  match width with
  | 0 => fun _ => match charOfCode? value with
    | some character => .ok character
    | none => .error
      ⟨"Invalid unicode character: " ++ String.ofList (Nat.toDigits 16 value), offset⟩
  | width + 1 => fun
    | [] => .error ⟨"Unexpected EOF while parsing hex digit in escaped unicode string.", offset⟩
    | digit :: rest => match hexValue digit with
      | some number => unicodeEscape width (value * 16 + number) (offset + 1) rest
      | none => .error
        ⟨"Invalid hex digit in escaped unicode string: " ++ digit.toString, offset + 1⟩

/-- The body of a string with Unicode escapes, from `count` characters into the lexeme. -/
def unicodeText (before : List Char) (count : Nat) :
    (fuel : Nat) → List Char → Except LexicalFault (String × Nat)
  | 0, _ | _ + 1, [] => .error ⟨"Unterminated unicode encoded string literal", count⟩
  | fuel + 1, '\'' :: '\'' :: rest => unicodeText ('\'' :: before) (count + 2) fuel rest
  | _ + 1, '\'' :: _ => .ok (String.ofList before.reverse, count + 1)
  | fuel + 1, '\\' :: '\\' :: rest => unicodeText ('\\' :: before) (count + 2) fuel rest
  | fuel + 1, '\\' :: '+' :: rest => do
    let character ← unicodeEscape 6 0 (count + 2) rest
    unicodeText (character :: before) (count + 8) fuel (rest.drop 6)
  | fuel + 1, '\\' :: rest => do
    let character ← unicodeEscape 4 0 (count + 1) rest
    unicodeText (character :: before) (count + 5) fuel (rest.drop 4)
  | fuel + 1, character :: rest => unicodeText (character :: before) (count + 1) fuel rest

/-- A string in the given style whose opening mark comes after `lead` characters. -/
def stringOf (style : StringStyle) (lead : Nat) (body : Option (String × Nat)) : Scan :=
  match body with
  | some (text, count) => .ok ⟨some (.string style text), lead + 1 + count⟩
  | none => .error ⟨"Unterminated string literal", lead⟩

/-- A run of digits; an underscore belongs to it where a digit follows. -/
def digitRun (isDigit : Char → Bool) : List Char → List Char
  | [] => []
  | '_' :: next :: rest => if isHexDigit next then '_' :: digitRun isDigit (next :: rest) else []
  | character :: rest => if isDigit character then character :: digitRun isDigit rest else []

/-- The exponent of a number, if one stands at the head. -/
def exponent : List Char → List Char
  | mark :: rest =>
    if mark = 'e' ∨ mark = 'E' then
      let (sign, rest) : List Char × List Char := match rest with
        | '+' :: rest => (['+'], rest)
        | '-' :: rest => (['-'], rest)
        | rest => ([], rest)
      let digits := rest.takeWhile Char.isDigit
      if digits.isEmpty then [] else mark :: sign ++ digits
    else []
  | [] => []

/-- A number, or the period that has no digits about it. -/
def number (characters : List Char) : Lexeme :=
  let whole := digitRun Char.isDigit characters
  let rest := characters.drop whole.length
  match whole, rest with
  | ['0'], 'x' :: rest =>
    let digits := digitRun isHexDigit rest
    ⟨some (.string .hexadecimal (String.ofList digits)), digits.length + 2⟩
  | _, _ =>
    let (point, rest) : List Char × List Char := match rest with
      | '.' :: rest => (['.'], rest)
      | rest => ([], rest)
    let fraction := digitRun Char.isDigit rest
    let mantissa := whole ++ point ++ fraction
    if mantissa = ['.'] then ⟨some (.symbol "."), 1⟩
    else
      let rest := rest.drop fraction.length
      let power := exponent rest
      let long := (rest.drop power.length).head? = some 'L'
      let digits := mantissa ++ power
      ⟨some (.number (String.ofList digits) long), digits.length + if long then 1 else 0⟩

/-- An operator that begins with `lead`: longer if operator characters follow, else the
symbol itself. -/
def operator (lead : String) (rest : List Char) : Lexeme :=
  let more := rest.takeWhile continuesOperator
  if more.isEmpty then ⟨some (.symbol lead), lead.length⟩
  else ⟨some (.customOperator (lead ++ String.ofList more)), lead.length + more.length⟩

/-- As `operator`, where the beginning alone is no operator. -/
def openOperator (lead : String) (rest : List Char) : Scan :=
  if (rest.head?.map continuesOperator).getD false then .ok (operator lead rest)
  else .error ⟨"Expected a valid binary operator after '" ++ lead ++ "'", lead.length⟩

/-- A symbol of a fixed length. -/
def fixed (text : String) (length : Nat := text.length) : Scan :=
  .ok ⟨some (.symbol text), length⟩

/-- The text between two pairs of dollar signs. -/
def dollarPairText (before : List Char) (count : Nat) (previous : Option Char) :
    List Char → Option (String × Nat)
  | [] => none
  | character :: rest =>
    if previous = some '$' then
      if character = '$' then some (String.ofList before.reverse, count + 1)
      else dollarPairText (character :: '$' :: before) (count + 1) (some character) rest
    else if character = '$' then dollarPairText before (count + 1) (some character) rest
    else dollarPairText (character :: before) (count + 1) (some character) rest

/-- The text before the first occurrence of a closing mark. -/
def textBefore (mark : List Char) (before : List Char) (count : Nat) :
    List Char → Option (String × Nat)
  | [] => none
  | character :: rest =>
    if mark.isPrefixOf (character :: rest) then
      some (String.ofList before.reverse, count + mark.length)
    else textBefore mark (character :: before) (count + 1) rest

/-- A string between dollar signs, or a numbered parameter. -/
def dollar (total : Nat) : List Char → Scan
  | '$' :: '$' :: rest => match dollarPairText [] 0 none rest with
    | some (text, count) => .ok ⟨some (.dollarString none text), count + 2⟩
    | none => .error ⟨"Unterminated dollar-quoted string", total⟩
  | _ :: rest =>
    let label := rest.takeWhile fun character =>
      Text.isAlphabetic character || Text.isNumeral character || character = '_'
    match rest.drop label.length with
    | '$' :: body => match textBefore ('$' :: label ++ ['$']) [] 0 body with
      | some (text, count) =>
        .ok ⟨some (.dollarString (some (String.ofList label)) text), label.length + 2 + count⟩
      | none => .error ⟨"Unterminated dollar-quoted, expected $", total⟩
    | _ => .ok ⟨some (.placeholder (String.ofList ('$' :: label))), label.length + 1⟩
  | [] => .ok ⟨none, 0⟩

/-- The length of a comment between slash and asterisk, in which such comments nest, from
behind its opening. -/
def commentLength (count depth : Nat) : List Char → Option Nat
  | [] => none
  | [_] => none
  | '/' :: '*' :: rest => commentLength (count + 2) (depth + 1) rest
  | '*' :: '/' :: rest => match depth with
    | 0 => some (count + 2)
    | depth + 1 => commentLength (count + 2) depth rest
  | _ :: next :: rest => commentLength (count + 1) depth (next :: rest)

/-- An operator or a punctuation mark. -/
def symbol (characters : List Char) : Option Scan :=
  match characters with
  | '(' :: _ => some (fixed "(")
  | ')' :: _ => some (fixed ")")
  | ',' :: _ => some (fixed ",")
  | '-' :: '>' :: '>' :: rest => some (.ok (operator "->>" rest))
  | '-' :: '>' :: rest => some (.ok (operator "->" rest))
  | '-' :: rest => some (.ok (operator "-" rest))
  | '/' :: _ => some (fixed "/")
  | '+' :: _ => some (fixed "+")
  | '*' :: _ => some (fixed "*")
  | '%' :: rest =>
    if (rest.head?.map Text.isBlank).getD false then some (fixed "%")
    else some (.ok (operator "%" rest))
  | '|' :: '/' :: rest => some (.ok (operator "|/" rest))
  | '|' :: '|' :: '/' :: rest => some (.ok (operator "||/" rest))
  | '|' :: '|' :: rest => some (.ok (operator "||" rest))
  | '|' :: '&' :: '>' :: rest => some (.ok (operator "|&>" rest))
  | '|' :: '&' :: rest => some (openOperator "|&" rest)
  | '|' :: '>' :: '>' :: rest => some (.ok (operator "|>>" rest))
  | '|' :: '>' :: rest => some (openOperator "|>" rest)
  | '|' :: rest => some (.ok (operator "|" rest))
  | '=' :: '>' :: _ => some (fixed "=>")
  | '=' :: '=' :: _ => some (fixed "==")
  | '=' :: _ => some (fixed "=")
  | '!' :: '=' :: _ => some (fixed "<>")
  | '!' :: '!' :: _ => some (fixed "!!")
  | '!' :: '~' :: '*' :: _ => some (fixed "!~*")
  | '!' :: '~' :: '~' :: '*' :: _ => some (fixed "!~~*")
  | '!' :: '~' :: '~' :: _ => some (fixed "!~~")
  | '!' :: '~' :: _ => some (fixed "!~")
  | '!' :: _ => some (fixed "!")
  | '<' :: '=' :: '>' :: rest => some (.ok (operator "<=>" rest))
  | '<' :: '=' :: rest => some (.ok (operator "<=" rest))
  | '<' :: '|' :: rest =>
    let scanned := operator "<<|" rest
    some (.ok ⟨scanned.token, scanned.length - 1⟩)
  | '<' :: '>' :: rest => some (.ok (operator "<>" rest))
  | '<' :: '<' :: '|' :: rest => some (.ok (operator "<<|" rest))
  | '<' :: '<' :: rest => some (.ok (operator "<<" rest))
  | '<' :: '-' :: '>' :: rest => some (.ok (operator "<->" rest))
  | '<' :: '-' :: rest => some (openOperator "<-" rest)
  | '<' :: '^' :: rest => some (.ok (operator "<^" rest))
  | '<' :: '@' :: rest => some (.ok (operator "<@" rest))
  | '<' :: rest => some (.ok (operator "<" rest))
  | '>' :: '=' :: rest => some (.ok (operator ">=" rest))
  | '>' :: '>' :: rest => some (.ok (operator ">>" rest))
  | '>' :: '^' :: rest => some (.ok (operator ">^" rest))
  | '>' :: rest => some (.ok (operator ">" rest))
  | ':' :: ':' :: _ => some (fixed "::")
  | ':' :: '=' :: _ => some (fixed ":=")
  | ':' :: _ => some (fixed ":")
  | ';' :: _ => some (fixed ";")
  | '\\' :: _ => some (fixed "\\")
  | '[' :: _ => some (fixed "[")
  | ']' :: _ => some (fixed "]")
  | '&' :: '>' :: rest => some (fixed "&>" (2 + (rest.take 1).length))
  | '&' :: '<' :: '|' :: _ => some (fixed "&<|")
  | '&' :: '<' :: rest => some (.ok (operator "&<" rest))
  | '&' :: '&' :: rest => some (.ok (operator "&&" rest))
  | '&' :: rest => some (.ok (operator "&" rest))
  | '^' :: '@' :: _ => some (fixed "^@")
  | '^' :: _ => some (fixed "^")
  | '\x7b' :: _ => some (fixed "\x7b")
  | '\x7d' :: _ => some (fixed "\x7d")
  | '~' :: '*' :: rest => some (.ok (operator "~*" rest))
  | '~' :: '=' :: rest => some (.ok (operator "~=" rest))
  | '~' :: '~' :: '*' :: rest => some (.ok (operator "~~*" rest))
  | '~' :: '~' :: rest => some (.ok (operator "~~" rest))
  | '~' :: rest => some (.ok (operator "~" rest))
  | '#' :: '-' :: rest => some (.ok (operator "#-" rest))
  | '#' :: '>' :: '>' :: rest => some (.ok (operator "#>>" rest))
  | '#' :: '>' :: rest => some (.ok (operator "#>" rest))
  | '#' :: ' ' :: _ => some (fixed "#")
  | '#' :: '#' :: rest => some (.ok (operator "##" rest))
  | '#' :: rest => some (.ok (operator "#" rest))
  | '@' :: '@' :: _ => some (fixed "@@")
  | '@' :: '-' :: '@' :: _ => some (fixed "@-@")
  | '@' :: '-' :: rest => some (openOperator "@-" rest)
  | '@' :: '>' :: _ => some (fixed "@>")
  | '@' :: '?' :: _ => some (fixed "@?")
  | '@' :: _ => some (fixed "@")
  | '?' :: '|' :: '|' :: _ => some (fixed "?||")
  | '?' :: '|' :: _ => some (fixed "?|")
  | '?' :: '&' :: _ => some (fixed "?&")
  | '?' :: '-' :: '|' :: _ => some (fixed "?-|")
  | '?' :: '-' :: _ => some (fixed "?-")
  | '?' :: '#' :: _ => some (fixed "?#")
  | '?' :: _ => some (fixed "?")
  | _ => none

/-- Blank text at the head, comments included: its length, or a fault, or nothing. -/
def blank (characters : List Char) (total : Nat) : Option Scan :=
  match characters with
  | ' ' :: _ | '\t' :: _ | '\n' :: _ => some (.ok ⟨none, 1⟩)
  | '\r' :: '\n' :: _ => some (.ok ⟨none, 2⟩)
  | '\r' :: _ => some (.ok ⟨none, 1⟩)
  | '-' :: '-' :: rest =>
    let body := rest.takeWhile fun character => character != '\n' && character != '\r'
    some (.ok ⟨none, 2 + body.length + (rest.drop body.length |>.take 1).length⟩)
  | '/' :: '*' :: rest => some (match commentLength 0 0 rest with
    | some length => .ok ⟨none, length + 2⟩
    | none => .error ⟨"Unexpected EOF while in a multi-line comment", total⟩)
  | _ => none

/-- A string constant, with or without a letter in front. -/
def stringConstant (characters : List Char) : Option Scan :=
  match characters with
  | 'B' :: '\'' :: rest | 'b' :: '\'' :: rest => some (stringOf .bits 1 (quotedText '\'' [] 0 rest))
  | 'B' :: '"' :: rest | 'b' :: '"' :: rest =>
    some (stringOf .markedBits 1 (quotedText '"' [] 0 rest))
  | 'N' :: '\'' :: rest | 'n' :: '\'' :: rest =>
    some (stringOf .national 1 (quotedText '\'' [] 0 rest))
  | 'E' :: '\'' :: rest | 'e' :: '\'' :: rest =>
    some (match escapedText [] 0 (rest.length + 1) rest with
      | some (text, count) => .ok ⟨some (.string .escaped text), count + 2⟩
      | none => .error ⟨"Unterminated encoded string literal", 0⟩)
  | 'U' :: '&' :: '\'' :: rest | 'u' :: '&' :: '\'' :: rest =>
    some (do
      let (text, count) ← unicodeText [] 3 (rest.length + 1) rest
      pure ⟨some (.string .unicode text), count⟩)
  | 'X' :: '\'' :: rest | 'x' :: '\'' :: rest =>
    some (stringOf .hexadecimal 1 (backslashText [] 0 rest))
  | '\'' :: rest => some (stringOf .plain 0 (quotedText '\'' [] 0 rest))
  | _ => none

/-- The lexeme at the head of a text of `total` characters.  A period in front of an
underscore separates names, so it needs a word before it. -/
def scan (previous : Option Token) (characters : List Char) (total : Nat) : Scan :=
  match characters with
  | [] => .ok ⟨none, 0⟩
  | '"' :: rest => match quotedText '"' [] 0 rest with
    | some (text, count) => .ok ⟨some (.word text true), count + 1⟩
    | none => .error ⟨"Expected close delimiter '\"' before EOF.", 0⟩
  | '.' :: '_' :: _ => match previous with
    | some (.word ..) => fixed "."
    | _ => .error ⟨"Unexpected character '_'", 0⟩
  | first :: _ =>
    if first.isDigit || first = '.' then .ok (number characters)
    else if let some scanned := blank characters total then scanned
    else if let some scanned := stringConstant characters then scanned
    else if let some scanned := symbol characters then scanned
    else if startsWord first then .ok (bareWord characters)
    else if first = '$' then dollar total characters
    else if Text.isBlank first then .ok ⟨none, 1⟩
    else .ok ⟨some (.stray first), 1⟩

end Lexeme

/-- What the reader of a text keeps between two lexemes: where it is, the last thing it
saw, the blank text since the last token and the tokens so far, the newest first. -/
structure LexerState where
  place : Place := .start
  previous : Option Token := none
  gap : List Char := []
  tokens : List Located := []

/-- Cuts a text of `total` characters into tokens. -/
def lexFrom : (total : Nat) → LexerState → List Char → Except ParseError (List Located)
  | _, state, [] => .ok state.tokens.reverse
  | 0, state, _ :: _ => .ok state.tokens.reverse
  | total + 1, state, first :: rest =>
    match Lexeme.scan state.previous (first :: rest) (total + 1) with
    | .error fault =>
      .error (.lexical fault.message (state.place.afterAll ((first :: rest).take fault.offset)))
    | .ok lexeme =>
      let extra := lexeme.length - 1
      let spelled := first :: rest.take extra
      let place := state.place.afterAll spelled
      let state : LexerState := match lexeme.token with
        | none => { state with place, previous := none, gap := state.gap ++ spelled }
        | some token =>
          { place, previous := some token, tokens :=
            { token, place := state.place, gap := state.gap } :: state.tokens }
      lexFrom (total - extra) state (rest.drop extra)

/-- The tokens of a text. -/
def lex (text : String) : Except ParseError (List Located) :=
  lexFrom text.length {} text.toList

end ColumnVeil.Sql
