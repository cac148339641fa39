import ColumnVeil.Sql.Parser.Expr
import ColumnVeil.Sql.Parser.Change
import ColumnVeil.Sql.Parser.Definition

/-!
# Reading statements of the session

Statements about transactions, cursors, prepared statements, settings, privileges and
notifications, and the statements that explain others, each behind its first keyword.
-/

namespace ColumnVeil.Sql

open Parse

namespace Parse

/-- A statement that is kept as its printed form. -/
def utility (text : String) : Parse Statement :=
  return .utility [.words text]

/-- The further modes of a transaction; `required` behind a comma. -/
def transactionModesFrom (before : List String) (required : Bool) :
    (fuel : Tokens) → Parse (List String)
  | [] => return before.reverse
  | _ :: fuel => do
    let mode ← if ← keywords ["ISOLATION", "LEVEL"] then
        if ← keywords ["READ", "UNCOMMITTED"] then pure (some "ISOLATION LEVEL READ UNCOMMITTED")
        else if ← keywords ["READ", "COMMITTED"] then pure (some "ISOLATION LEVEL READ COMMITTED")
        else if ← keywords ["REPEATABLE", "READ"] then
          pure (some "ISOLATION LEVEL REPEATABLE READ")
        else if ← keyword "SERIALIZABLE" then pure (some "ISOLATION LEVEL SERIALIZABLE")
        else if ← keyword "SNAPSHOT" then pure (some "ISOLATION LEVEL SNAPSHOT")
        else expected "isolation level"
      else if ← keywords ["READ", "ONLY"] then pure (some "READ ONLY")
      else if ← keywords ["READ", "WRITE"] then pure (some "READ WRITE")
      else pure none
    match mode with
    | some mode =>
      let comma ← symbol ","
      transactionModesFrom (mode :: before) comma fuel
    | none => if required then expected "transaction mode" else return before.reverse

/-- The modes of a transaction in print, with a blank in front. -/
def transactionModes : Parse String := do
  let tokens ← get
  match ← transactionModesFrom [] false (tokens ++ tokens.take 1) with
  | [] => return ""
  | modes => return " " ++ commaSeparated modes

/-- Whether another transaction follows at once, in print. -/
def transactionChain : Parse String := do
  let _ ← anyKeyword ["TRANSACTION", "WORK"]
  if ← keyword "AND" then
    let none ← keyword "NO"
    expectKeyword "CHAIN"
    return if none then "" else " AND CHAIN"
  else return ""

/-- The start of a transaction behind `BEGIN`. -/
def beginning : Parse Statement := do
  let word := match ← anyKeyword ["TRANSACTION", "WORK"] with
    | some word => " " ++ word
    | none => ""
  utility ("BEGIN" ++ word ++ (← transactionModes))

/-- The start of a transaction behind `START`. -/
def start : Parse Statement := do
  expectKeyword "TRANSACTION"
  utility ("START TRANSACTION" ++ (← transactionModes))

/-- The end of a transaction that takes effect. -/
def commit (word : String) : Parse Statement := do
  utility (word ++ (← transactionChain))

/-- The end of a transaction, or of its part behind a savepoint, that takes no effect. -/
def rollback : Parse Statement := do
  let chain ← transactionChain
  if ← keyword "TO" then
    let _ ← keyword "SAVEPOINT"
    utility ("ROLLBACK" ++ chain ++ " TO SAVEPOINT " ++ (← ident).text)
  else utility ("ROLLBACK" ++ chain)

/-- The end of a savepoint. -/
def release : Parse Statement := do
  let _ ← keyword "SAVEPOINT"
  utility ("RELEASE SAVEPOINT " ++ (← ident).text)

/-- What a session is to forget. -/
def discard : Parse Statement := do
  match ← anyKeyword ["ALL", "PLANS", "SEQUENCES", "TEMP", "TEMPORARY"] with
  | some "TEMPORARY" => utility "DISCARD TEMP"
  | some word => utility ("DISCARD " ++ word)
  | none => expected "ALL, PLANS, SEQUENCES, TEMP or TEMPORARY after DISCARD"

/-- How far and in which direction a cursor moves, in print. -/
def fetchDirection : Parse String := do
  let counted (word : String) : Parse String := do
    return word ++ " " ++ (← numberValue).text
  match ← anyKeyword ["NEXT", "PRIOR", "FIRST", "LAST", "ABSOLUTE", "RELATIVE", "FORWARD",
    "BACKWARD", "ALL"] with
  | some "ABSOLUTE" => counted "ABSOLUTE"
  | some "RELATIVE" => counted "RELATIVE"
  | some "FORWARD" => if ← keyword "ALL" then return "FORWARD ALL" else counted "FORWARD"
  | some "BACKWARD" => if ← keyword "ALL" then return "BACKWARD ALL" else counted "BACKWARD"
  | some word => return word
  | none => return (← numberValue).text

/-- Rows asked of a cursor. -/
def fetchRows : Parse Statement := do
  let direction ← fetchDirection
  match ← anyKeyword ["FROM", "IN"] with
  | some word =>
    let cursor ← ident
    let target ← match ← afterKeyword "INTO" name with
      | some target => pure (" INTO " ++ target.text)
      | none => pure ""
    utility ("FETCH " ++ direction ++ " " ++ word ++ " " ++ cursor.text ++ target)
  | none => refuse "Expected FROM or IN" ((← peek).map Located.place)

/-- The end of a cursor, or of all cursors. -/
def close : Parse Statement := do
  if ← keyword "ALL" then utility "CLOSE ALL" else utility ("CLOSE " ++ (← ident).text)

/-- The end of a prepared statement. -/
def deallocate : Parse Statement := do
  let word := if ← keyword "PREPARE" then "PREPARE " else ""
  utility ("DEALLOCATE " ++ word ++ (← ident).text)

/-- The end of a subscription, or of all of them. -/
def unlisten : Parse Statement := do
  if ← symbol "*" then utility "UNLISTEN *"
  else match ← attempt ident with
    | some channel => utility ("UNLISTEN " ++ channel.text)
    | none => expected "wildcard or identifier"

/-- A notification, with its payload. -/
def notify : Parse Statement := do
  let channel ← ident
  if ← symbol "," then
    utility ("NOTIFY " ++ channel.text ++ ", '" ++ (← literalString) ++ "'")
  else utility ("NOTIFY " ++ channel.text)

/-- The objects that carry a comment. -/
def commented : List String :=
  ["COLUMN", "DATABASE", "DOMAIN", "EXTENSION", "FUNCTION", "INDEX", "PROCEDURE", "ROLE",
    "SCHEMA", "SEQUENCE", "TABLE", "TYPE", "USER", "VIEW"]

/-- A comment on an object. -/
def comment : Parse Statement := do
  let present ← ifExists
  expectKeyword "ON"
  let kind ← if ← keywords ["MATERIALIZED", "VIEW"] then pure "MATERIALIZED VIEW"
    else match ← anyKeyword commented with
      | some word => pure word
      | none => expected "comment object_type"
  let object ← name
  expectKeyword "IS"
  let text ← if ← keyword "NULL" then pure "NULL" else do pure ("'" ++ (← literalString) ++ "'")
  utility ("COMMENT " ++ present ++ "ON " ++ kind ++ " " ++ object.text ++ " IS " ++ text)

/-- The end of another session. -/
def kill : Parse Statement := do
  let word := match ← anyKeyword ["CONNECTION", "QUERY"] with
    | some word => word ++ " "
    | none => ""
  utility ("KILL " ++ word ++ toString (← literalNat))

/-- The words up to the end of a statement or an equals sign. -/
def wordsOfStatement (before : List Ident) : (fuel : Tokens) → Parse (List Ident)
  | [] => return before.reverse
  | _ :: fuel => do
    if (← atSymbol "=") || (← atSymbol ";") then return before.reverse
    match (← next).map Located.token with
    | some (.word value quoted) =>
      wordsOfStatement (⟨value, if quoted then some '"' else none⟩ :: before) fuel
    | some _ => wordsOfStatement before fuel
    | none => return before.reverse

/-- A setting that is asked for. -/
def showSetting : Parse Statement := do
  let _ ← keyword "TERSE"
  let extended ← keyword "EXTENDED"
  let full ← keyword "FULL"
  let _ ← keyword "SESSION"
  let _ ← keyword "GLOBAL"
  if ← keyword "TABLES" then
    let lead := "SHOW " ++ (if extended then "EXTENDED " else "") ++ (if full then "FULL " else "")
    match ← anyKeyword ["FROM", "IN"] with
    | some word => utility (lead ++ "TABLES " ++ word ++ " " ++ (← name).text)
    | none => utility (lead ++ "TABLES")
  else if extended || full then
    refuse "EXTENDED/FULL are not supported with this type of SHOW query"
  else
    match ← wordsOfStatement [] (← get) with
    | [] => utility "SHOW"
    | words => utility ("SHOW " ++ joinWith " " (words.map Ident.text))

/-- A privilege that holds of whole objects or of some of their columns, in print. -/
def privilege : Parse String := do
  match ← anyKeyword ["SELECT", "INSERT", "UPDATE", "REFERENCES"] with
  | some word =>
    match ← columnList true with
    | [] => return word
    | columns => return word ++ " (" ++ commaSeparated (columns.map Ident.text) ++ ")"
  | none =>
    match ← anyKeyword ["CONNECT", "CREATE", "DELETE", "EXECUTE", "TEMPORARY", "TRIGGER",
      "TRUNCATE", "USAGE"] with
    | some word => return word
    | none => expected "a privilege keyword"

/-- The objects that privileges are about, in print. -/
def privilegedObjects : Parse String := do
  if ← keywords ["ALL", "TABLES", "IN", "SCHEMA"] then
    return "ALL TABLES IN SCHEMA " ++ commaSeparated ((← commaList name).map Name.text)
  else if ← keywords ["ALL", "SEQUENCES", "IN", "SCHEMA"] then
    return "ALL SEQUENCES IN SCHEMA " ++ commaSeparated ((← commaList name).map Name.text)
  else
    let kind := match ← anyKeyword ["SEQUENCE", "DATABASE", "SCHEMA", "TABLE", "VIEW"] with
      | some "TABLE" | none => ""
      | some word => word ++ " "
    return kind ++ commaSeparated ((← commaList name).map Name.text)

/-- Those who hold a privilege, in print. -/
def privilegeHolders : Parse String := do
  let holders ← commaList (do
    if ← keyword "PUBLIC" then return "PUBLIC"
    let kind := match ← anyKeyword ["ROLE", "USER", "GROUP"] with
      | some word => word ++ " "
      | none => ""
    return kind ++ (← name).text)
  return commaSeparated holders

/-- The privileges and their objects, in print. -/
def privileges : Parse String := do
  let actions ← if ← keyword "ALL" then do
      let word := if ← keyword "PRIVILEGES" then "ALL PRIVILEGES" else "ALL"
      pure word
    else commaSeparated <$> commaList privilege
  if ← keyword "ON" then return actions ++ " ON " ++ (← privilegedObjects) else return actions

/-- A grant of privileges. -/
def grant : Parse Statement := do
  let granted ← privileges
  expectKeyword "TO"
  let holders ← privilegeHolders
  let option := if ← keywords ["WITH", "GRANT", "OPTION"] then " WITH GRANT OPTION" else ""
  let grantor ← if ← keywords ["GRANTED", "BY"] then do pure (" GRANTED BY " ++ (← ident).text)
    else pure ""
  utility ("GRANT " ++ granted ++ " TO " ++ holders ++ option ++ grantor)

/-- A withdrawal of privileges. -/
def revoke : Parse Statement := do
  let granted ← privileges
  expectKeyword "FROM"
  let holders ← privilegeHolders
  let grantor ← if ← keywords ["GRANTED", "BY"] then do pure (" GRANTED BY " ++ (← ident).text)
    else pure ""
  let cascade ← cascadeOption
  utility ("REVOKE " ++ granted ++ " FROM " ++ holders ++ grantor ++ cascade)

end Parse

namespace Grammar

variable (grammar : Grammar)

/-- An option of an explanation, in pieces. -/
def explainOption : Parse (List Part) := do
  let label ← ident
  if (← atSymbol ",") || (← atSymbol ")") then return [.words label.text]
  else return [.words (label.text ++ " "), .expr (← grammar.expr)]

/-- The format of an explanation, in print. -/
def explainFormat : Parse String := do
  let lead := if ← symbol "=" then "FORMAT=" else "FORMAT "
  match ← anyKeyword ["TEXT", "GRAPHVIZ", "JSON"] with
  | some word => return lead ++ word ++ " "
  | none => expected "fileformat"

/-- An explanation of a statement, or the description of a table. -/
def explain (word : String) : Parse Statement := do
  let words ← if word == "EXPLAIN" && (← atSymbol "(") then do
      let options ← parenthesized (commaList (explainOption grammar))
      pure ("(" ++ Part.texts (Part.commas options) ++ ") ")
    else if ← keywords ["QUERY", "PLAN"] then pure "QUERY PLAN "
    else if ← keyword "ESTIMATE" then pure "ESTIMATE "
    else do
      let analyzed := if ← keyword "ANALYZE" then "ANALYZE " else ""
      let verbose := if ← keyword "VERBOSE" then "VERBOSE " else ""
      let format ← if ← keyword "FORMAT" then explainFormat else pure ""
      pure (analyzed ++ verbose ++ format)
  match ← attempt grammar.statement with
  | some statement => match statement with
    | .explain .. => nestedPlan
    | .utility (.words text :: _) =>
      if ["EXPLAIN ", "DESCRIBE ", "DESC "].contains text then nestedPlan
      else return .explain (word ++ " " ++ words) statement
    | statement => return .explain (word ++ " " ++ words) statement
  | none =>
    let table ← name
    return .utility [.words (word ++ " "), .relation table]
where
  /-- An explanation inside another. -/
  nestedPlan : Parse Statement :=
    refuse "Explain must be root of the plan"

/-- The collection of statistics about a table. -/
def analyze : Parse Statement := do
  let lead := if ← keyword "TABLE" then "ANALYZE TABLE " else "ANALYZE "
  let table ← name
  return .utility [.words lead, .relation table]

/-- A declaration of a cursor. -/
def declareCursor : Parse Statement := do
  let cursor ← ident
  let binary := if ← keyword "BINARY" then " BINARY" else ""
  let sensitivity := match ← anyKeyword ["INSENSITIVE", "ASENSITIVE"] with
    | some word => " " ++ word
    | none => ""
  let scroll ← if ← keyword "SCROLL" then pure " SCROLL"
    else if ← keywords ["NO", "SCROLL"] then pure " NO SCROLL"
    else pure ""
  expectKeyword "CURSOR"
  let hold ← match ← anyKeyword ["WITH", "WITHOUT"] with
    | some word => do
      expectKeyword "HOLD"
      pure (" " ++ word ++ " HOLD")
    | none => pure ""
  expectKeyword "FOR"
  let query ← grammar.query
  return .utility [.words ("DECLARE " ++ cursor.text ++ binary ++ sensitivity ++ scroll ++ " CURSOR" ++
    hold ++ " FOR "), .query query]

/-- A call of a procedure. -/
def callProcedure : Parse Statement := do
  let procedure ← name
  if ← atSymbol "(" then return .utility [.words "CALL ", .expr (← call grammar procedure)]
  else utility ("CALL " ++ procedure.text)

/-- The execution of a prepared statement. -/
def execute : Parse Statement := do
  let prepared ← name
  let lead := "EXECUTE " ++ prepared.text
  let parameters : List Part ← if ← symbol "(" then do
      let values ← if ← atSymbol ")" then pure [] else exprList grammar
      expectSymbol ")"
      pure (.words "(" :: values ++ [.words ")"])
    else if (← get).isEmpty || (← atSymbol ";") || (← atAnyKeyword ["USING", "OUTPUT", "DEFAULT"])
    then pure []
    else do pure (.words " " :: (← exprList grammar))
  let supplied : List Part ← if ← keyword "USING" then do
      pure (.words " USING " :: (← exprList grammar))
    else pure []
  return .utility (.words lead :: parameters ++ supplied)

/-- A statement that is prepared for execution. -/
def prepare : Parse Statement := do
  let prepared ← ident
  let types ← if ← symbol "(" then do
      let types ← commaList dataTypeText
      expectSymbol ")"
      pure ("(" ++ commaSeparated types ++ ") ")
    else pure ""
  expectKeyword "AS"
  let statement ← grammar.statement
  return .utility (.words ("PREPARE " ++ prepared.text ++ " " ++ types ++ "AS ") :: statement.parts)

/-- A value that a setting takes. -/
def settingValue : Parse (List Part) := do
  if ← atAnyKeyword ["SELECT", "WITH"] then
    return [.words "(", .query (← grammar.query), .words ")"]
  match ← attempt grammar.expr with
  | some value => return [.expr value]
  | none => do
    let _ ← next
    expected "variable value"

/-- The values that a setting takes. -/
def settingValues : Parse (List Part) := do
  return Part.commas (← commaList (settingValue grammar))

/-- A change of a setting. -/
def setting : Parse Statement := do
  let reach := match ← anyKeyword ["SESSION", "LOCAL", "GLOBAL"] with
    | some word => word ++ " "
    | none => ""
  let role ← attempt (do
    expectKeyword "ROLE"
    if ← keyword "NONE" then pure "NONE" else do pure (← ident).text)
  match role with
  | some role => return ← utility ("SET " ++ reach ++ "ROLE " ++ role)
  | none => pure ()
  if (← keywords ["TIME", "ZONE"]) || (← keyword "TIMEZONE") then
    if (← symbol "=") || (← keyword "TO") then
      let values ← settingValues grammar
      return .utility (.words ("SET " ++ reach ++ "TIMEZONE = ") :: values)
    else
      let zone ← grammar.expr
      let lead := if reach == "LOCAL " then "SET LOCAL TIME ZONE " else "SET TIME ZONE "
      return .utility [.words lead, .expr zone]
  if ← keyword "NAMES" then
    if ← keyword "DEFAULT" then return ← utility "SET NAMES DEFAULT"
    let encoding ← ident
    let collation ← if ← keyword "COLLATE" then do pure (" COLLATE " ++ (← literalString))
      else pure ""
    return ← utility ("SET NAMES " ++ encoding.text ++ collation)
  if ← keyword "CHARACTERISTICS" then
    expectKeywords ["AS", "TRANSACTION"]
    return ← utility ("SET SESSION CHARACTERISTICS AS TRANSACTION" ++ (← transactionModes))
  if ← keyword "TRANSACTION" then
    if ← keyword "SNAPSHOT" then
      return ← utility ("SET TRANSACTION SNAPSHOT " ++ (← value).text)
    return ← utility ("SET TRANSACTION" ++ (← transactionModes))
  let target ← name
  if (← symbol "=") || (← keyword "TO") then
    let values ← settingValues grammar
    return .utility (.words ("SET " ++ reach ++ target.text ++ " = ") :: values)
  expected "equals sign or TO"

/-- A condition that is asserted. -/
def assertion : Parse Statement := do
  let condition ← grammar.expr
  let message : List Part ← match ← afterKeyword "AS" grammar.expr with
    | some message => pure [.words " AS ", .expr message]
    | none => pure []
  return .utility (.words "ASSERT " :: .expr condition :: message)

/-- The reader of the statement that a keyword begins, behind that keyword. -/
def statementAfter? : String → Option (Parse Statement)
  | "INSERT" => some (change grammar "INSERT")
  | "UPDATE" => some (change grammar "UPDATE")
  | "DELETE" => some (change grammar "DELETE")
  | "EXPLAIN" => some (explain grammar "EXPLAIN")
  | "DESCRIBE" => some (explain grammar "DESCRIBE")
  | "DESC" => some (explain grammar "DESC")
  | "ANALYZE" => some analyze
  | "CREATE" => some (create grammar)
  | "DROP" => some (drop grammar)
  | "ALTER" => some (alter grammar)
  | "TRUNCATE" => some truncate
  | "COPY" => some (copy grammar)
  | "MERGE" => some (merge grammar)
  | "DISCARD" => some discard
  | "DECLARE" => some (declareCursor grammar)
  | "FETCH" => some fetchRows
  | "CLOSE" => some close
  | "CALL" => some (callProcedure grammar)
  | "SET" => some (setting grammar)
  | "SHOW" => some showSetting
  | "USE" => some (do utility ("USE " ++ (← name).text))
  | "GRANT" => some grant
  | "REVOKE" => some revoke
  | "START" => some start
  | "BEGIN" => some beginning
  | "COMMIT" => some (commit "COMMIT")
  | "END" => some (commit "END")
  | "ROLLBACK" => some rollback
  | "SAVEPOINT" => some (do utility ("SAVEPOINT " ++ (← ident).text))
  | "RELEASE" => some release
  | "ASSERT" => some (assertion grammar)
  | "DEALLOCATE" => some deallocate
  | "EXECUTE" | "EXEC" => some (execute grammar)
  | "PREPARE" => some (prepare grammar)
  | "LISTEN" => some (do utility ("LISTEN " ++ (← ident).text))
  | "UNLISTEN" => some unlisten
  | "NOTIFY" => some notify
  | "COMMENT" => some comment
  | "LOAD" => some (do utility ("LOAD " ++ (← ident).text))
  | "KILL" => some kill
  | "REPLACE" => some (do refuse "Unsupported statement REPLACE" ((← peek).map Located.place))
  | _ => none

/-- A statement. -/
def statementHere : Parse Statement := do
  match ← peek with
  | none => expected "an SQL statement"
  | some found =>
    if found.token == .symbol "(" then return .query (← grammar.query)
    match found.keyword with
    | none => expected "an SQL statement"
    | some word =>
      if ["SELECT", "WITH", "VALUES", "FROM"].contains word then return .query (← grammar.query)
      match statementAfter? grammar word with
      | some reader =>
        let _ ← next
        reader
      | none => expected "an SQL statement"

end Grammar

end ColumnVeil.Sql
