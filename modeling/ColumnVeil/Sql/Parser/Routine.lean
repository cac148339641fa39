import ColumnVeil.Sql.Parser.Column

/-!
# Reading routines

Statements that create functions and procedures, triggers that call functions, and the
policies that decide which rows a role may see.  The body of a routine is a constant, so
nothing in it belongs to the query.
-/

namespace ColumnVeil.Sql

open Parse

namespace Parse

/-- A role by its name or by what it is to the session. -/
def owner : Parse String := do
  match ← anyKeyword ["CURRENT_USER", "CURRENT_ROLE", "SESSION_USER"] with
  | some word => return word
  | none => return (← ident).text

end Parse

namespace Grammar

variable (grammar : Grammar)

/-- An argument of a routine: its mode, its name, its type and its default value. -/
def routineArgument : Parse (List Part) := do
  let mode := match ← anyKeyword ["IN", "OUT", "INOUT"] with
    | some word => word ++ " "
    | none => ""
  let first ← peek
  let type ← dataTypeText
  let described ← match ← attempt dataTypeText with
    | some type => pure ((first.map fun found => found.token.text ++ " ").getD "" ++ type)
    | none => pure type
  let isDefault ← if ← keyword "DEFAULT" then pure true else symbol "="
  let initial : List Part ← if isDefault then do
      pure [.words " = ", .expr (← grammar.expr)]
    else pure []
  return .words (mode ++ described) :: initial

/-- The arguments of a routine up to the closing parenthesis, in pieces. -/
def routineArguments : Parse (List Part) := do
  let arguments ← commaListBefore ")" (routineArgument grammar)
  expectSymbol ")"
  return .words "(" :: Part.commas arguments ++ [.words ")"]

/-- The name of a routine, with its arguments if it has any. -/
def routineName : Parse (List Part) := do
  let routine ← name
  if ← symbol "(" then
    if ← symbol ")" then return [.words routine.text]
    else return .words routine.text :: (← routineArguments grammar)
  else return [.words routine.text]

/-- The body of a function that is given as a constant. -/
def routineBody : Parse String := do
  match (← peek).map Located.token with
  | some (.dollarString label text) =>
    let _ ← next
    return (Value.dollarString label text).text
  | _ => return (Value.string (← literalString)).text

/-- The rows that a function returns, or the type of its value. -/
def returnType : Parse String := do
  if ← keyword "TABLE" then
    if ← symbol "(" then
      let columns ← commaList (columnDefinition grammar)
      expectSymbol ")"
      return "TABLE(" ++ Part.texts (Part.commas columns) ++ ")"
    else return "TABLE"
  else dataTypeText

/-- A clause of a function: its place in print, its name in a complaint, and its pieces. -/
def functionClause : Parse (Option (Nat × String × List Part)) := do
  let clause (place : Nat) (label text : String) : Option (Nat × String × List Part) :=
    some (place, label, [.words text])
  if ← keyword "AS" then return clause 4 "AS" (" AS " ++ (← routineBody))
  else if ← keyword "LANGUAGE" then return clause 0 "LANGUAGE" (" LANGUAGE " ++ (← ident).text)
  else match ← anyKeyword ["IMMUTABLE", "STABLE", "VOLATILE"] with
  | some word => return clause 1 "IMMUTABLE | STABLE | VOLATILE" (" " ++ word)
  | none =>
    let missing (text : String) : Option (Nat × String × List Part) :=
      clause 2 "CALLED ON NULL INPUT | RETURNS NULL ON NULL INPUT | STRICT" text
    if ← keywords ["CALLED", "ON", "NULL", "INPUT"] then return missing " CALLED ON NULL INPUT"
    else if ← keywords ["RETURNS", "NULL", "ON", "NULL", "INPUT"] then
      return missing " RETURNS NULL ON NULL INPUT"
    else if ← keyword "STRICT" then return missing " STRICT"
    else if ← keyword "PARALLEL" then
      match ← anyKeyword ["UNSAFE", "RESTRICTED", "SAFE"] with
      | some word => return clause 3 "PARALLEL \x7b UNSAFE | RESTRICTED | SAFE \x7d" (" PARALLEL " ++ word)
      | none => expected "one of UNSAFE | RESTRICTED | SAFE"
    else if ← keyword "RETURN" then
      return some (4, "RETURN", [.words " RETURN ", .expr (← grammar.expr)])
    else return none

/-- The clauses of a function in any order, each at most once. -/
def functionClausesFrom (before : List (Nat × List Part)) : (fuel : Tokens) →
    Parse (List (Nat × List Part))
  | [] => return before
  | _ :: fuel => do
    match ← functionClause grammar with
    | none => return before
    | some (place, label, parts) =>
      if before.any fun other => other.1 == place then
        refuse (label ++ " specified more than once")
      else functionClausesFrom ((place, parts) :: before) fuel

/-- A function that is created, behind the words that say how. -/
def createFunction (lead : String) : Parse Statement := do
  let function ← name
  expectSymbol "("
  let arguments ← routineArguments grammar
  let type ← match ← afterKeyword "RETURNS" (returnType grammar) with
    | some type => pure (" RETURNS " ++ type)
    | none => pure ""
  let clauses ← functionClausesFrom grammar [] (← get)
  let shown := [0, 1, 2, 3, 4].flatMap fun place => (clauses.lookup place).getD []
  return .utility (.words ("CREATE " ++ lead ++ "FUNCTION " ++ function.text) :: arguments ++
    .words type :: shown)

/-- What a trigger waits for, in print. -/
def triggerEvent : Parse String := do
  let word ← expectAnyKeyword ["INSERT", "UPDATE", "DELETE", "TRUNCATE"]
  if word == "UPDATE" && (← keyword "OF") then
    return "UPDATE OF " ++ commaSeparated ((← commaList ident).map Ident.text)
  else return word

/-- A name for the rows before or after the event of a trigger, in print. -/
def triggerRows : Parse (Option String) := do
  let word ← if ← keywords ["OLD", "TABLE"] then pure "OLD TABLE"
    else if ← keywords ["NEW", "TABLE"] then pure "NEW TABLE"
    else return none
  let link := if ← keyword "AS" then " AS " else " "
  return some (" " ++ word ++ link ++ (← name).text)

/-- A trigger that is created, behind the words that say how. -/
def createTrigger (lead : String) : Parse Statement := do
  let trigger ← name
  let period ← match ← expectAnyKeyword ["FOR", "BEFORE", "AFTER", "INSTEAD"] with
    | "INSTEAD" => do
      expectKeyword "OF"
      pure "INSTEAD OF"
    | word => pure word
  let event ← triggerEvent
  let further ← many (afterKeyword "OR" triggerEvent)
  expectKeyword "ON"
  let table ← name
  let referred ← match ← afterKeyword "FROM" name with
    | some referred => pure (" FROM " ++ referred.text)
    | none => pure ""
  let timing ← constraintTiming
  let rows ← if ← keyword "REFERENCING" then do
      pure (" REFERENCING" ++ String.join (← many triggerRows))
    else pure ""
  expectKeyword "FOR"
  let each := if ← keyword "EACH" then "EACH " else ""
  let object ← expectAnyKeyword ["ROW", "STATEMENT"]
  let condition : List Part ← match ← afterKeyword "WHEN" grammar.expr with
    | some condition => pure [.words " WHEN ", .expr condition]
    | none => pure []
  expectKeyword "EXECUTE"
  let kind ← expectAnyKeyword ["FUNCTION", "PROCEDURE"]
  let routine ← routineName grammar
  return .utility (.words ("CREATE " ++ lead ++ "TRIGGER " ++ trigger.text ++ " " ++ period ++ " " ++
    joinWith " OR " (event :: further) ++ " ON " ++ table.text ++ referred ++ timing ++ rows ++
    " FOR " ++ each ++ object) :: condition ++ .words (" EXECUTE " ++ kind ++ " ") :: routine)

/-- The roles of a policy and the conditions on its rows, in pieces. -/
def policyTerms : Parse (List Part) := do
  let roles ← match ← afterKeyword "TO" (commaList owner) with
    | some roles => pure (" TO " ++ commaSeparated roles)
    | none => pure ""
  let visible : List Part ← match ← afterKeyword "USING" (parenthesized grammar.expr) with
    | some condition => pure [.words " USING (", .expr condition, .words ")"]
    | none => pure []
  let check : List Part ← if ← keywords ["WITH", "CHECK"] then do
      pure [.words " WITH CHECK (", .expr (← parenthesized grammar.expr), .words ")"]
    else pure []
  return .words roles :: visible ++ check

/-- A policy that is created. -/
def createPolicy : Parse Statement := do
  let policy ← ident
  expectKeyword "ON"
  let table ← name
  let kind ← if ← keyword "AS" then do
      pure (" AS " ++ (← expectAnyKeyword ["PERMISSIVE", "RESTRICTIVE"]))
    else pure ""
  let command ← if ← keyword "FOR" then do
      pure (" FOR " ++ (← expectAnyKeyword ["ALL", "SELECT", "INSERT", "UPDATE", "DELETE"]))
    else pure ""
  let terms ← policyTerms grammar
  return .utility (.words ("CREATE POLICY " ++ policy.text ++ " ON ") :: .relation table
    :: .words (kind ++ command) :: terms)

/-- A policy that is changed. -/
def alterPolicy : Parse Statement := do
  let policy ← ident
  expectKeyword "ON"
  let table ← name
  let change : List Part ← if ← keyword "RENAME" then do
      expectKeyword "TO"
      pure [.words (" RENAME TO " ++ (← ident).text)]
    else policyTerms grammar
  return .utility (.words ("ALTER POLICY " ++ policy.text ++ " ON ") :: .relation table :: change)

/-- A restricted type that is created. -/
def createDomain : Parse Statement := do
  let domain ← name
  expectKeyword "AS"
  let type ← dataTypeText
  let collation ← match ← afterKeyword "COLLATE" ident with
    | some collation => pure (" COLLATE " ++ collation.text)
    | none => pure ""
  let initial : List Part ← match ← afterKeyword "DEFAULT" grammar.expr with
    | some value => pure [.words " DEFAULT ", .expr value]
    | none => pure []
  let constraints ← many (do
    return (← tableConstraint grammar).map fun parts => .words " " :: parts)
  return .utility (.words ("CREATE DOMAIN " ++ domain.text ++ " AS " ++ type ++ collation) :: initial
    ++ constraints.flatten)

end Grammar

end ColumnVeil.Sql
