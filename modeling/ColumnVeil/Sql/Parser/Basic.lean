import ColumnVeil.Sql.Lexer
import ColumnVeil.Sql.Syntax

/-!
# Readers of constructs

A reader takes the tokens that are left and gives a construct with the tokens behind it, or
an error.  A failed reader leaves no trace, so an attempt that fails can be followed by
another from the same place; only nesting that is too deep ends every attempt.

Constructs nest in one another without end.  A `Grammar` holds the readers of the three
that nest, one level down, so the readers of this folder are ordinary functions of it; each
level of depth is built from the one below.
-/

namespace ColumnVeil.Sql

/-- The tokens that are left to read. -/
abbrev Tokens := List Located

/-- A reader of a construct. -/
abbrev Parse := StateT Tokens (Except ParseError)

/-- The readers of the constructs in which others nest, one level further down: an
expression that binds more strongly than a given precedence, a query, and a statement. -/
structure Grammar where
  subexpr : Nat → Parse Expr
  query : Parse Query
  statement : Parse Statement

/-- Any expression. -/
def Grammar.expr (grammar : Grammar) : Parse Expr :=
  grammar.subexpr 0

namespace Parse

variable {α : Type}

/-- Fails at a token, or at the end of the text. -/
def expectedAt (found : Option Located) (what : String) : Parse α :=
  throw (.expected what found)

/-- Fails at the next token. -/
def expected (what : String) : Parse α := do
  throw (.expected what (← get).head?)

/-- Refuses a construct at a place. -/
def refuse (message : String) (place : Option Place := none) : Parse α :=
  throw (.refused message place)

/-- The next token, which is left where it is. -/
def peek : Parse (Option Located) := do
  return (← get).head?

/-- The token at an index from here. -/
def peekAt (index : Nat) : Parse (Option Located) := do
  return (← get)[index]?

/-- The next token, which is passed over. -/
def next : Parse (Option Located) := do
  let tokens ← get
  set tokens.tail
  return tokens.head?

/-- The keyword that the next token spells. -/
def peekKeyword : Parse (Option String) := do
  return (← get).head?.bind Located.keyword

/-- Whether the next token is a keyword. -/
def atKeyword (keyword : String) : Parse Bool := do
  return (← peekKeyword) = some keyword

/-- Whether the next token is one of some keywords. -/
def atAnyKeyword (keywords : List String) : Parse Bool := do
  match ← peekKeyword with
  | some keyword => return keywords.contains keyword
  | none => return false

/-- Passes over a keyword if it comes next. -/
def keyword (word : String) : Parse Bool := do
  match ← get with
  | first :: rest =>
    if first.keyword = some word then
      set rest
      return true
    else return false
  | [] => return false

/-- Passes over several keywords if they all come next. -/
def keywords (words : List String) : Parse Bool := do
  let tokens ← get
  if (tokens.take words.length).map Located.keyword = words.map some then
    set (tokens.drop words.length)
    return true
  else return false

/-- Passes over one of some keywords if it comes next. -/
def anyKeyword (words : List String) : Parse (Option String) := do
  match ← peekKeyword with
  | some word =>
    if words.contains word then
      let _ ← next
      return some word
    else return none
  | none => return none

/-- Requires a keyword. -/
def expectKeyword (word : String) : Parse Unit := do
  unless ← keyword word do expected word

/-- Requires several keywords in turn. -/
def expectKeywords (words : List String) : Parse Unit :=
  words.forM expectKeyword

/-- Requires one of some keywords. -/
def expectAnyKeyword (words : List String) : Parse String := do
  match ← anyKeyword words with
  | some word => return word
  | none => expected ("one of " ++ " or ".intercalate words)

/-- Whether the next token is a symbol. -/
def atSymbol (text : String) : Parse Bool := do
  return (← get).head?.map Located.token = some (.symbol text)

/-- Passes over a symbol if it comes next. -/
def symbol (text : String) : Parse Bool := do
  match ← get with
  | first :: rest =>
    if first.token = .symbol text then
      set rest
      return true
    else return false
  | [] => return false

/-- Requires a symbol. -/
def expectSymbol (text : String) : Parse Unit := do
  unless ← symbol text do expected text

/-- What a reader gives, or nothing at all if it fails other than for depth. -/
def attempt (reader : Parse α) : Parse (Option α) := fun tokens =>
  match reader tokens with
  | .ok (value, rest) => .ok (some value, rest)
  | .error .tooDeep => .error .tooDeep
  | .error _ => .ok (none, tokens)

/-- Reads on if a keyword comes next. -/
def afterKeyword (word : String) (reader : Parse α) : Parse (Option α) := do
  if ← keyword word then return some (← reader) else return none

/-- A reader between parentheses. -/
def parenthesized (reader : Parse α) : Parse α := do
  expectSymbol "("
  let value ← reader
  expectSymbol ")"
  return value

/-- The further items of a list with commas, at most as many as there are tokens. -/
def commaListFrom (item : Parse α) (before : List α) : (fuel : Tokens) → Parse (List α)
  | [] => return before.reverse
  | _ :: fuel => do
    if ← symbol "," then
      let value ← item
      commaListFrom item (value :: before) fuel
    else return before.reverse

/-- One or more items with commas between them. -/
def commaList (item : Parse α) : Parse (List α) := do
  let tokens ← get
  let value ← item
  commaListFrom item [value] tokens

/-- Items with commas between them up to a symbol, which may come at once. -/
def commaListBefore (stop : String) (item : Parse α) : Parse (List α) := do
  if ← atSymbol stop then return [] else commaList item

/-- Reads as long as a reader gives something, at most as often as there are tokens. -/
def manyFrom (item : Parse (Option α)) (before : List α) : (fuel : Tokens) → Parse (List α)
  | [] => return before.reverse
  | _ :: fuel => do
    match ← item with
    | some value => manyFrom item (value :: before) fuel
    | none => return before.reverse

/-- Everything that a reader gives before it gives nothing. -/
def many (item : Parse (Option α)) : Parse (List α) := do
  manyFrom item [] (← get)

end Parse

end ColumnVeil.Sql
