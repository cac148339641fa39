import ColumnVeil.Sql.Parser.TimeUnit

/-!
# Reading relations that are computed

The relations that documents are taken apart into, and the relations that turn the rows of
another into columns or its columns into rows.
-/

namespace ColumnVeil.Sql

open Parse

namespace Parse

/-- What stands for a value that a document lacks or that cannot be read, in print. -/
def pathFallback : Parse (Option String) := do
  let fallback ← if ← keyword "NULL" then pure "NULL"
    else if ← keyword "ERROR" then pure "ERROR"
    else if ← keyword "DEFAULT" then do pure ("DEFAULT " ++ (← value).text)
    else return none
  expectKeyword "ON"
  return some fallback

/-- The fallbacks of a column of a document: for a lacking value and for a failure. -/
def pathFallbacksFrom (before : Option String × Option String) : (fuel : Tokens) →
    Parse (Option String × Option String)
  | [] => return before
  | _ :: fuel => do
    match ← pathFallback with
    | none => return before
    | some fallback =>
      if ← keyword "EMPTY" then pathFallbacksFrom (some fallback, before.2) fuel
      else
        expectKeyword "ERROR"
        pathFallbacksFrom (before.1, some fallback) fuel

/-- A column that is taken out of a JSON document, nested in others at most as deeply as
there are tokens. -/
def jsonColumnWithin : (fuel : Tokens) → Parse String
  | [] => expected "identifier"
  | _ :: fuel => do
    if ← keyword "NESTED" then
      let _ ← keyword "PATH"
      let path ← value
      expectKeyword "COLUMNS"
      let columns ← parenthesized (commaList (jsonColumnWithin fuel))
      return "NESTED PATH " ++ path.text ++ " COLUMNS (" ++ commaSeparated columns ++ ")"
    let column ← ident
    if ← keyword "FOR" then
      expectKeyword "ORDINALITY"
      return column.text ++ " FOR ORDINALITY"
    let type ← dataTypeText
    let existence := if ← keyword "EXISTS" then " EXISTS" else ""
    expectKeyword "PATH"
    let path ← value
    let (lacking, failing) ← pathFallbacksFrom (none, none) (← get)
    let shown (fallback : Option String) (cause : String) : String :=
      (fallback.map fun text => " " ++ text ++ cause).getD ""
    return column.text ++ " " ++ type ++ existence ++ " PATH " ++ path.text ++
      shown lacking " ON EMPTY" ++ shown failing " ON ERROR"

/-- Passes over a keyword with an opening parenthesis behind it. -/
def openedBy (word : String) : Parse Bool := do
  let opened ← attempt (do
    expectKeyword word
    expectSymbol "(")
  return opened.isSome

end Parse

namespace Grammar

variable (grammar : Grammar)

/-- The rows of a JSON document, behind the opening parenthesis. -/
def jsonTable : Parse TableFactor := do
  let document ← grammar.expr
  expectSymbol ","
  let path ← value
  expectKeyword "COLUMNS"
  let columns ← parenthesized (commaList (do jsonColumnWithin (← get)))
  expectSymbol ")"
  return .function [.words "JSON_TABLE(", .expr document,
    .words (", " ++ path.text ++ " COLUMNS(" ++ commaSeparated columns ++ "))")] (← tableAlias) ""

/-- A column that is taken out of an XML document. -/
def xmlColumn : Parse (List Part) := do
  let column ← ident
  if ← keyword "FOR" then
    expectKeyword "ORDINALITY"
    return [.words (column.text ++ " FOR ORDINALITY")]
  let type ← dataTypeText
  let clause (word : String) : Parse (List Part) := do
    match ← afterKeyword word grammar.expr with
    | some expr => return [.words (" " ++ word ++ " "), .expr expr]
    | none => return []
  let path ← clause "PATH"
  let initial ← clause "DEFAULT"
  let required ← keywords ["NOT", "NULL"]
  unless required do
    let _ ← keyword "NULL"
  return .words (column.text ++ " " ++ type) :: path ++ initial
    ++ [.words (if required then " NOT NULL" else "")]

/-- A document that the rows are taken out of. -/
def xmlPassed : Parse (List Part) := do
  let way ← if ← keyword "BY" then do
      expectKeyword "VALUE"
      pure "BY VALUE "
    else pure ""
  let document ← grammar.expr
  match ← afterKeyword "AS" ident with
  | some label => return [.words way, .expr document, .words (" AS " ++ label.text)]
  | none => return [.words way, .expr document]

/-- The rows of an XML document, behind the opening parenthesis. -/
def xmlTable : Parse TableFactor := do
  let namespaces : List Part ← if ← keyword "XMLNAMESPACES" then do
      let named ← parenthesized (commaList (do
        let location ← grammar.expr
        expectKeyword "AS"
        return [.expr location, .words (" AS " ++ (← ident).text)]))
      expectSymbol ","
      pure (.words "XMLNAMESPACES(" :: Part.commas named ++ [.words "), "])
    else pure []
  let row ← grammar.expr
  let passed ← match ← afterKeyword "PASSING" (commaList (xmlPassed grammar)) with
    | some documents => pure (.words " PASSING " :: Part.commas documents)
    | none => pure []
  expectKeyword "COLUMNS"
  let columns ← commaList (xmlColumn grammar)
  expectSymbol ")"
  return .function (.words "XMLTABLE(" :: namespaces ++ .expr row :: passed
    ++ .words " COLUMNS " :: Part.commas columns ++ [.words ")"]) (← tableAlias) ""

/-- A relation whose rows become columns, behind the opening parenthesis. -/
def pivot (source : TableFactor) : Parse TableFactor := do
  let totals ← commaList (do
    let total ← grammar.expr
    match ← afterKeyword "AS" ident with
    | some label => return [.expr total, .words (" AS " ++ label.text)]
    | none => return [Part.expr total])
  expectKeyword "FOR"
  let column ← name
  expectKeyword "IN"
  expectSymbol "("
  let choices ← if ← keyword "ANY" then pure [.words "ANY"]
    else if ← atAnyKeyword ["SELECT", "WITH"] then do pure [.query (← grammar.query)]
    else Part.commas <$> commaList (do
      let choice ← grammar.expr
      match ← afterKeyword "AS" ident with
      | some label => return [.expr choice, .words (" AS " ++ label.text)]
      | none => return [Part.expr choice])
  expectSymbol ")"
  expectSymbol ")"
  let aliasName ← tableAlias
  return .function (.tables (.mk source []) :: .words " PIVOT(" :: Part.commas totals
    ++ .words (" FOR " ++ column.text ++ " IN (") :: choices
    ++ [.words ("))" ++ TableAlias.suffix aliasName)]) none ""

/-- A relation whose columns become rows, behind the keyword. -/
def unpivot (source : TableFactor) : Parse TableFactor := do
  let gaps ← if ← keywords ["INCLUDE", "NULLS"] then pure " INCLUDE NULLS "
    else if ← keywords ["EXCLUDE", "NULLS"] then pure " EXCLUDE NULLS "
    else pure ""
  expectSymbol "("
  let entry ← ident
  expectKeyword "FOR"
  let column ← ident
  expectKeyword "IN"
  let columns ← columnList false
  expectSymbol ")"
  let aliasName ← tableAlias
  return .function [.tables (.mk source []), .words (" UNPIVOT" ++ gaps ++ "(" ++ entry.text ++ " FOR " ++
    column.text ++ " IN (" ++ commaSeparated (columns.map Ident.text) ++ "))" ++
    TableAlias.suffix aliasName)] none ""

/-- A relation with everything that turns it, at most as often as there are tokens. -/
def turnedFrom (source : TableFactor) : (fuel : Tokens) → Parse TableFactor
  | [] => return source
  | _ :: fuel => do
    if ← keyword "PIVOT" then
      expectSymbol "("
      turnedFrom (← pivot grammar source) fuel
    else if ← keyword "UNPIVOT" then turnedFrom (← unpivot source) fuel
    else return source

/-- A relation with everything that turns it. -/
def turned (source : TableFactor) : Parse TableFactor := do
  turnedFrom grammar source (← get)

end Grammar

end ColumnVeil.Sql
