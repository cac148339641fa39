import ColumnVeil.Text.Case

/-!
# Tokens of a query text

A query text is read as words, literals and symbols.  This module holds the tokens, the
places at which they stand, the spelling of a token in a message, and the ways in which a
text can fail to be a query.
-/

namespace ColumnVeil.Sql

/-- A position in a query text, both counts from one. -/
structure Place where
  line : Nat
  column : Nat
deriving DecidableEq, Repr, Inhabited

namespace Place

/-- The place of the first character. -/
def start : Place := ⟨1, 1⟩

/-- The place that follows a character. -/
def after (place : Place) (character : Char) : Place :=
  if character = '\n' then ⟨place.line + 1, 1⟩ else ⟨place.line, place.column + 1⟩

/-- The place that follows several characters. -/
def afterAll (place : Place) (characters : List Char) : Place :=
  characters.foldl after place

/-- How a message names a place. -/
def suffix (place : Place) : String :=
  " at Line: " ++ toString place.line ++ ", Column: " ++ toString place.column

end Place

/-- How a string constant is introduced: plainly, or by one of the letters that give its
body a meaning of its own. -/
inductive StringStyle
  | plain
  | national
  | escaped
  | unicode
  | hexadecimal
  | bits
  /-- A bit string between double quotation marks. -/
  | markedBits
deriving DecidableEq, Repr

/-- A lexical unit of a query. -/
inductive Token
  /-- An identifier or a keyword; `quoted` if it stood between quotation marks. -/
  | word (value : String) (quoted : Bool)
  /-- An unsigned number as it was written, and whether the letter `L` followed it. -/
  | number (digits : String) (long : Bool)
  | string (style : StringStyle) (text : String)
  | dollarString (label : Option String) (text : String)
  | placeholder (text : String)
  /-- Punctuation or an operator of the language, in its canonical spelling. -/
  | symbol (text : String)
  /-- An operator that the language leaves to extensions. -/
  | customOperator (text : String)
  /-- A character that belongs to no other token. -/
  | stray (character : Char)
deriving DecidableEq, Repr

namespace Token

/-- The text between dollar signs with its label on both sides. -/
def dollarQuoted (label : Option String) (text : String) : String :=
  let mark := "$" ++ label.getD "" ++ "$"
  mark ++ text ++ mark

/-- The spelling of a token in a message. -/
def text : Token → String
  | word value quoted => if quoted then "\"" ++ value ++ "\"" else value
  | number digits long => if long then digits ++ "L" else digits
  | string .plain body => "'" ++ body ++ "'"
  | string .national body => "N'" ++ body ++ "'"
  | string .escaped body => "E'" ++ body ++ "'"
  | string .unicode body => "U&'" ++ body ++ "'"
  | string .hexadecimal body => "X'" ++ body ++ "'"
  | string .bits body => "B'" ++ body ++ "'"
  | string .markedBits body => "B\"" ++ body ++ "\""
  | dollarString label body => dollarQuoted label body
  | placeholder body => body
  | symbol body => body
  | customOperator body => body
  | stray character => character.toString

/-- The keyword that a token spells: its capitals, if it is a word without quotation marks. -/
def keyword? : Token → Option String
  | word value false => some (Text.asciiCapitals value)
  | _ => none

end Token

/-- A token where it was found, with the keyword that it spells and the blank text in front
of it. -/
structure Located where
  token : Token
  place : Place
  gap : List Char := []
  keyword : Option String := token.keyword?
deriving Repr

/-- Why a text is not accepted as a query. -/
inductive ParseError
  /-- The text has no token at a place. -/
  | lexical (message : String) (place : Place)
  /-- Something else was required where a token, or the end of the text, was found. -/
  | expected (what : String) (found : Option Located)
  /-- A construct is refused, with the place of its fault where one is known. -/
  | refused (message : String) (place : Option Place)
  /-- The query nests deeper than the reader follows. -/
  | tooDeep
deriving Repr

/-- The text of a parse error. -/
def ParseError.message : ParseError → String
  | lexical message place => "sql parser error: " ++ message ++ place.suffix
  | expected what none => "sql parser error: Expected: " ++ what ++ ", found: EOF"
  | expected what (some found) =>
    "sql parser error: Expected: " ++ what ++ ", found: " ++ found.token.text ++ found.place.suffix
  | refused message place =>
    "sql parser error: " ++ message ++ (place.map Place.suffix).getD ""
  | tooDeep => "sql parser error: recursion limit exceeded"

end ColumnVeil.Sql
