import ColumnVeil.Sql.Parser.Basic
import ColumnVeil.Sql.Printer

/-!
# Reading names, aliases and constants

The constructs that hold no others: identifiers, dotted names, constants, and the names
that a query gives to its columns and relations.
-/

namespace ColumnVeil.Sql

open Parse

/-- The identifier that a token spells. -/
def Token.ident? : Token → Option Ident
  | word value quoted => some ⟨value, if quoted then some '"' else none⟩
  | string .plain text => some ⟨text, some '\''⟩
  | _ => none

/-- Whether a token is a word. -/
def Token.isWord : Token → Bool
  | word .. => true
  | _ => false

namespace Parse

/-- An identifier. -/
def ident : Parse Ident := do
  match ← next with
  | some found => match found.token.ident? with
    | some ident => return ident
    | none => expectedAt found "identifier"
  | none => expectedAt none "identifier"

/-- The further parts of a dotted name. -/
def nameFrom (before : Name) : (fuel : Tokens) → Parse Name
  | [] => return before.reverse
  | _ :: fuel => do
    if ← symbol "." then
      let part ← ident
      nameFrom (part :: before) fuel
    else return before.reverse

/-- A dotted name. -/
def name : Parse Name := do
  let tokens ← get
  let first ← ident
  nameFrom [first] tokens

/-- Identifiers between parentheses; `optional` if there may be none at all. -/
def columnList (optional : Bool) : Parse (List Ident) := do
  if ← symbol "(" then
    let columns ← commaList ident
    expectSymbol ")"
    return columns
  else if optional then return []
  else expected "a list of columns in parentheses"

/-- Dotted names between parentheses. -/
def nameList : Parse (List Name) := do
  if ← symbol "(" then
    let columns ← commaList name
    expectSymbol ")"
    return columns
  else expected "a list of columns in parentheses"

/-- The text of a string constant where only its text counts. -/
def literalString : Parse String := do
  match ← next with
  | some found => match found.token with
    | .word value _ => return value
    | .string .plain text | .string .escaped text | .string .unicode text => return text
    | _ => expectedAt found "literal string"
  | none => expectedAt none "literal string"

/-- An unsigned whole number below two to the sixty-fourth. -/
def literalNat : Parse Nat := do
  match ← next with
  | some found => match found.token with
    | .number digits _ =>
      let refusal (reason : String) : Parse Nat :=
        refuse ("Could not parse '" ++ digits ++ "' as u64: " ++ reason) found.place
      if digits.toList.all Char.isDigit then
        let value := digits.toList.foldl (fun total digit => total * 10 + (digit.toNat - 48)) 0
        if value < 0x10000000000000000 then return value
        else refusal "number too large to fit in target type"
      else refusal "invalid digit found in string"
    | _ => expectedAt found "literal int"
  | none => expectedAt none "literal int"

/-- A constant. -/
def value : Parse Value := do
  match ← next with
  | none => expectedAt none "a value"
  | some found => match found.token with
    | .word text true => return .marked text
    | .word _ false => match found.keyword with
      | some "TRUE" => return .boolean true
      | some "FALSE" => return .boolean false
      | some "NULL" => return .null
      | _ => expectedAt found "a concrete value"
    | .number digits long => return .number digits long
    | .string .plain text => return .string text
    | .string .national text => return .nationalString text
    | .string .escaped text => return .escapedString text
    | .string .unicode text => return .unicodeString text
    | .string .hexadecimal text => return .hexString text
    | .string .bits text => return .bitString text
    | .string .markedBits text => return .markedBitString text
    | .dollarString label text => return .dollarString label text
    | .placeholder text => return .placeholder text
    | .symbol ":" => placeholderAfter ":"
    | .symbol "@" => placeholderAfter "@"
    | _ => expectedAt found "a value"
where
  /-- A named parameter behind its mark. -/
  placeholderAfter (mark : String) : Parse Value := do
    match ← next with
    | some found => match found.token with
      | .word text _ => return .placeholder (mark ++ text)
      | .number digits false => return .placeholder (mark ++ digits)
      | _ => expectedAt found "placeholder"
    | none => expectedAt none "placeholder"

/-- A number constant, or a placeholder for one. -/
def numberValue : Parse Value := do
  let found ← peek
  let value ← value
  match value with
  | .number .. | .placeholder _ => return value
  | _ => expectedAt found "literal number"

/-- The keywords that end a projection item, so that they cannot name it without `AS`. -/
def columnAliasStops : List String :=
  ["WITH", "EXPLAIN", "ANALYZE", "SELECT", "WHERE", "GROUP", "SORT", "HAVING", "ORDER", "TOP",
    "LATERAL", "VIEW", "LIMIT", "OFFSET", "FETCH", "UNION", "EXCEPT", "INTERSECT", "MINUS",
    "CLUSTER", "DISTRIBUTE", "RETURNING", "FROM", "INTO", "END"]

/-- The keywords that end a relation, so that they cannot name it without `AS`. -/
def tableAliasStops : List String :=
  ["WITH", "EXPLAIN", "ANALYZE", "SELECT", "WHERE", "GROUP", "SORT", "HAVING", "ORDER", "PIVOT",
    "UNPIVOT", "TOP", "LATERAL", "VIEW", "LIMIT", "OFFSET", "FETCH", "UNION", "EXCEPT",
    "INTERSECT", "MINUS", "ON", "JOIN", "INNER", "CROSS", "FULL", "LEFT", "RIGHT", "NATURAL",
    "USING", "CLUSTER", "DISTRIBUTE", "GLOBAL", "ANTI", "SEMI", "RETURNING", "ASOF",
    "MATCH_CONDITION", "OUTER", "SET", "QUALIFY", "WINDOW", "END", "FOR", "PARTITION",
    "PREWHERE", "SETTINGS", "FORMAT", "START", "CONNECT", "MATCH_RECOGNIZE", "SAMPLE",
    "TABLESAMPLE", "FROM", "OPEN"]

/-- An alias: any word behind `AS`, else a word that is not one of `stops`. -/
def optionalAlias (stops : List String) : Parse (Option Ident) := do
  let explicit ← keyword "AS"
  let found ← peek
  match found.map Located.token with
  | some (.word text quoted) =>
    let stopped := match found.bind Located.keyword with
      | some word => stops.contains word
      | none => false
    if explicit || !stopped then
      let _ ← next
      return some ⟨text, if quoted then some '"' else none⟩
    else return none
  | some (.string .plain text) =>
    let _ ← next
    return some ⟨text, some '\''⟩
  | _ => if explicit then expected "an identifier after AS" else return none

end Parse

end ColumnVeil.Sql
