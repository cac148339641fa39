import ColumnVeil.Sql.Parser.Utility

/-!
# Reading queries

A query text is a list of statements with semicolons between them.  `parse` reads it as one
list; it follows constructs that nest to a depth of `depthLimit` and refuses deeper ones.
-/

namespace ColumnVeil.Sql

open Parse

/-- How deeply statements, queries and expressions may nest in one another. -/
def depthLimit : Nat := 50

/-- The readers of the constructs that nest at most to a depth. -/
def Grammar.atDepth : Nat → Grammar
  | 0 =>
    { subexpr := fun _ => throw .tooDeep
      query := throw .tooDeep
      statement := throw .tooDeep }
  | depth + 1 =>
    let inner := atDepth depth
    { subexpr := fun precedence => exprAbove inner precedence
      query := fullQuery inner (change inner)
      statement := statementHere inner }

namespace Parse

/-- Passes over semicolons, and says whether there were any. -/
def semicolons : (fuel : Tokens) → Parse Bool
  | [] => return false
  | _ :: fuel => do
    if ← symbol ";" then
      let _ ← semicolons fuel
      return true
    else return false

/-- The statements that are left; `apart` if a semicolon has to come before the next. -/
def statementsFrom (grammar : Grammar) (before : List Statement) (apart : Bool) :
    (fuel : Tokens) → Parse (List Statement)
  | [] => return before.reverse
  | _ :: fuel => do
    let separated ← semicolons (← get)
    if (← get).isEmpty then return before.reverse
    if apart && !separated then
      if ← atKeyword "END" then return before.reverse
      expected "end of statement"
    let statement ← grammar.statement
    statementsFrom grammar (statement :: before) true fuel

end Parse

/-- The statements of a text. -/
def parse (text : String) : Except ParseError (List Statement) := do
  let tokens ← lex text
  let (statements, _) ← statementsFrom (Grammar.atDepth depthLimit) [] false tokens tokens
  return statements

end ColumnVeil.Sql
