import ColumnVeil.Sql.Parser.Query

/-!
# Reading columns and constraints

The clauses that definitions of several kinds of object share, and the columns and
constraints of a table.  None of them is looked into, so they are kept as pieces for
printing.
-/

namespace ColumnVeil.Sql

open Parse

namespace Parse

/-- `IF EXISTS` in print, if it comes next. -/
def ifExists : Parse String := do
  if ← keywords ["IF", "EXISTS"] then return "IF EXISTS " else return ""

/-- `IF NOT EXISTS` in print, if it comes next. -/
def ifNotExists : Parse String := do
  if ← keywords ["IF", "NOT", "EXISTS"] then return "IF NOT EXISTS " else return ""

/-- Whether dependent objects go too, in print with a blank in front. -/
def cascadeOption : Parse String := do
  match ← anyKeyword ["CASCADE", "RESTRICT"] with
  | some word => return " " ++ word
  | none => return ""

/-- A parenthesised list of columns in print. -/
def columnsText (optional : Bool) : Parse String := do
  match ← columnList optional with
  | [] => return ""
  | columns => return "(" ++ commaSeparated (columns.map Ident.text) ++ ")"

/-- What happens to referring rows. -/
def referentialAction : Parse String := do
  if ← keyword "RESTRICT" then return "RESTRICT"
  else if ← keyword "CASCADE" then return "CASCADE"
  else if ← keywords ["SET", "NULL"] then return "SET NULL"
  else if ← keywords ["NO", "ACTION"] then return "NO ACTION"
  else if ← keywords ["SET", "DEFAULT"] then return "SET DEFAULT"
  else expected "one of RESTRICT, CASCADE, SET NULL, NO ACTION or SET DEFAULT"

/-- A clause about when a constraint is checked, with the question that it answers. -/
def timingClause : Parse (Option (Nat × String)) := do
  if ← keywords ["NOT", "DEFERRABLE"] then return some (0, " NOT DEFERRABLE")
  else if ← keyword "DEFERRABLE" then return some (0, " DEFERRABLE")
  else if ← keyword "INITIALLY" then
    match ← anyKeyword ["DEFERRED", "IMMEDIATE"] with
    | some word => return some (1, " INITIALLY " ++ word)
    | none => expected "one of DEFERRED or IMMEDIATE"
  else if ← keyword "ENFORCED" then return some (2, " ENFORCED")
  else if ← keywords ["NOT", "ENFORCED"] then return some (2, " NOT ENFORCED")
  else return none

/-- The clauses about when a constraint is checked, each question answered at most once. -/
def timingClausesFrom (before : List (Nat × String)) : (fuel : Tokens) →
    Parse (List (Nat × String))
  | [] => return before
  | _ :: fuel => do
    let here ← get
    match ← timingClause with
    | none => return before
    | some clause =>
      if before.any fun other => other.1 == clause.1 then
        set here
        return before
      else timingClausesFrom (clause :: before) fuel

/-- When a constraint is checked, in print, the clauses in their canonical order. -/
def constraintTiming : Parse String := do
  let clauses ← timingClausesFrom [] (← get)
  let shown (question : Nat) : String := (clauses.lookup question).getD ""
  return shown 0 ++ shown 1 ++ shown 2

/-- What a foreign key does when the row it refers to changes, in print. -/
def referenceActions : Parse String := do
  let clauses ← many (do
    if ← keywords ["ON", "DELETE"] then return some (true, ← referentialAction)
    else if ← keywords ["ON", "UPDATE"] then return some (false, ← referentialAction)
    else return none)
  let shown (onDelete : Bool) (lead : String) : String :=
    match clauses.find? fun clause => clause.1 == onDelete with
    | some (_, action) => lead ++ action
    | none => ""
  return shown true " ON DELETE " ++ shown false " ON UPDATE "

end Parse

namespace Grammar

variable (grammar : Grammar)

/-- An option of a column, in pieces, if one comes next. -/
def columnOption : Parse (Option (List Part)) := do
  let plain (text : String) : Option (List Part) := some [.words text]
  if ← keywords ["CHARACTER", "SET"] then return plain ("CHARACTER SET " ++ (← name).text)
  else if ← keyword "COLLATE" then return plain ("COLLATE " ++ (← name).text)
  else if ← keywords ["NOT", "NULL"] then return plain "NOT NULL"
  else if ← keyword "COMMENT" then
    return plain ("COMMENT " ++ quotedWith '\'' (← literalString))
  else if ← keyword "NULL" then return plain "NULL"
  else if ← keyword "DEFAULT" then return some [.words "DEFAULT ", .expr (← grammar.expr)]
  else if ← keywords ["PRIMARY", "KEY"] then return plain ("PRIMARY KEY" ++ (← constraintTiming))
  else if ← keyword "UNIQUE" then return plain ("UNIQUE" ++ (← constraintTiming))
  else if ← keyword "REFERENCES" then
    let table ← name
    let columns ← columnsText true
    let actions ← referenceActions
    let timing ← constraintTiming
    return plain ("REFERENCES " ++ table.text ++ (if columns.isEmpty then "" else " " ++ columns) ++
      actions ++ timing)
  else if ← keyword "CHECK" then
    let condition ← parenthesized grammar.expr
    return some [.words "CHECK (", .expr condition, .words ")"]
  else if ← keywords ["GENERATED", "ALWAYS", "AS", "IDENTITY"] then
    return plain "GENERATED ALWAYS AS IDENTITY"
  else if ← keywords ["GENERATED", "BY", "DEFAULT", "AS", "IDENTITY"] then
    return plain "GENERATED BY DEFAULT AS IDENTITY"
  else if ← keywords ["GENERATED", "ALWAYS", "AS"] then
    let value ← parenthesized grammar.expr
    let kind := match ← anyKeyword ["STORED", "VIRTUAL"] with
      | some word => ") " ++ word
      | none => ")"
    return some [.words "GENERATED ALWAYS AS (", .expr value, .words kind]
  else return none

/-- A definition of a column. -/
def columnDefinition : Parse (List Part) := do
  let column ← ident
  let type ← dataTypeText
  let options ← many (do
    if ← keyword "CONSTRAINT" then
      let label ← ident
      match ← columnOption grammar with
      | some option => return some (.words (" CONSTRAINT " ++ label.text ++ " ") :: option)
      | none => expected "constraint details after CONSTRAINT <name>"
    else match ← columnOption grammar with
      | some option => return some (.words " " :: option)
      | none => return none)
  return .words (column.text ++ " " ++ type) :: options.flatten

/-- A constraint of a table, in pieces, if one comes next. -/
def tableConstraint : Parse (Option (List Part)) := do
  let lead ← match ← afterKeyword "CONSTRAINT" ident with
    | some label => pure ("CONSTRAINT " ++ label.text ++ " ")
    | none => pure ""
  let plain (text : String) : Option (List Part) := some [.words (lead ++ text)]
  if ← keyword "UNIQUE" then
    let columns ← columnsText false
    return plain ("UNIQUE " ++ columns ++ (← constraintTiming))
  else if ← keywords ["PRIMARY", "KEY"] then
    let columns ← columnsText false
    return plain ("PRIMARY KEY " ++ columns ++ (← constraintTiming))
  else if ← keywords ["FOREIGN", "KEY"] then
    let columns ← columnsText false
    expectKeyword "REFERENCES"
    let table ← name
    let referred ← columnsText true
    let actions ← referenceActions
    let timing ← constraintTiming
    return plain ("FOREIGN KEY " ++ columns ++ " REFERENCES " ++ table.text ++ referred ++ actions ++
      timing)
  else if ← keyword "CHECK" then
    let condition ← parenthesized grammar.expr
    return some [.words (lead ++ "CHECK ("), .expr condition, .words ")"]
  else if lead.isEmpty then return none
  else expected "PRIMARY, UNIQUE, FOREIGN, or CHECK"

/-- The further columns and constraints of a table, each with whether it is a column. -/
def tableElementsFrom (before : List (Bool × List Part)) : (fuel : Tokens) →
    Parse (List (Bool × List Part))
  | [] => expected "',' or ')' after column definition"
  | _ :: fuel => do
    let element ← match ← tableConstraint grammar with
      | some parts => pure (false, parts)
      | none =>
        match (← peek).map Located.token with
        | some (.word _ _) => do pure (true, ← columnDefinition grammar)
        | _ => expected "column name or constraint definition"
    let comma ← symbol ","
    if ← atSymbol ")" then
      if comma then tableElementsFrom (element :: before) fuel
      else
        let _ ← next
        return (element :: before).reverse
    else if comma then tableElementsFrom (element :: before) fuel
    else expected "',' or ')' after column definition"

/-- The columns and constraints of a table, the columns printed first; nothing if there is
no list. -/
def tableElements : Parse (List Part) := do
  unless ← symbol "(" do return []
  if ← symbol ")" then return []
  let elements ← tableElementsFrom grammar [] (← get)
  let chosen (column : Bool) : List (List Part) :=
    (elements.filter fun element => element.1 == column).map Prod.snd
  return .words " (" :: Part.commas (chosen true ++ chosen false) ++ [.words ")"]

/-- Options with values in parentheses behind a keyword, in pieces. -/
def withOptions (lead : String) : Parse (List Part) := do
  unless ← keyword lead do return []
  expectSymbol "("
  let options ← commaList (do
    let option ← ident
    expectSymbol "="
    return [.words (option.text ++ " = "), .expr (← grammar.expr)])
  expectSymbol ")"
  return .words (" " ++ lead ++ " (") :: Part.commas options ++ [.words ")"]

end Grammar

end ColumnVeil.Sql
