import ColumnVeil.Sql.Parser.Routine

/-!
# Reading definitions

Statements that create, alter and drop objects, and those that empty or transfer whole
tables, each behind its first keyword.  None of them is looked into, so they are kept as
pieces for printing.
-/

namespace ColumnVeil.Sql

open Parse

namespace Grammar

variable (grammar : Grammar)

/-- A table that is created, behind the words that say how. -/
def createTable (lead : String) : Parse Statement := do
  let missing ← ifNotExists
  let table ← name
  let like ← match ← anyKeyword ["LIKE", "ILIKE"] with
    | some _ => do
      pure (" LIKE " ++ (← name).text)
    | none => pure ""
  let elements ← tableElements grammar
  let parents ← match ← afterKeyword "INHERITS" nameList with
    | some parents => pure (" INHERITS (" ++ commaSeparated (parents.map Name.text) ++ ")")
    | none => pure ""
  let options ← withOptions grammar "WITH"
  let partition : List Part ← if ← keywords ["PARTITION", "BY"] then do
      pure [.words " PARTITION BY ", .expr (← grammar.expr)]
    else pure []
  let atCommit ← if ← keywords ["ON", "COMMIT"] then
      if ← keywords ["DELETE", "ROWS"] then pure " ON COMMIT DELETE ROWS"
      else if ← keywords ["PRESERVE", "ROWS"] then pure " ON COMMIT PRESERVE ROWS"
      else if ← keyword "DROP" then pure " ON COMMIT DROP"
      else refuse "Expecting DELETE ROWS, PRESERVE ROWS or DROP"
    else pure ""
  let source : List Part ← match ← afterKeyword "AS" grammar.query with
    | some query => pure [.words " AS ", .query query]
    | none => pure []
  let elements := if elements.isEmpty && source.isEmpty && like.isEmpty then [.words " ()"]
    else elements
  return .definition (.words ("CREATE " ++ lead ++ "TABLE " ++ missing) :: .relation table :: elements
    ++ [.words (like ++ parents)] ++ partition ++ options ++ [.words atCommit] ++ source)

/-- A view that is created, behind the words that say how. -/
def createView (lead temporary : String) : Parse Statement := do
  let materialized := if ← keyword "MATERIALIZED" then "MATERIALIZED " else ""
  expectKeyword "VIEW"
  let view ← name
  let columns ← columnsText true
  let options ← withOptions grammar "WITH"
  expectKeyword "AS"
  let query ← grammar.query
  return .definition (.words ("CREATE " ++ lead ++ materialized ++ temporary ++ "VIEW " ++ view.text ++
    (if columns.isEmpty then "" else " " ++ columns)) :: options ++ [.words " AS ", .query query])

/-- A column of an index. -/
def indexColumn : Parse (List Part) := do
  let .mk expr direction ← orderItem grammar
  return [.expr expr, .words direction]

/-- An index that is created. -/
def createIndex (unique : Bool) : Parse Statement := do
  let concurrently := if ← keyword "CONCURRENTLY" then "CONCURRENTLY " else ""
  let missing ← ifNotExists
  let method : Parse String := do
    match ← afterKeyword "USING" ident with
    | some method => return " USING " ++ method.text ++ " "
    | none => return ""
  let (label, early) ← if missing.isEmpty && (← keyword "ON") then pure ("", "") else do
    let label ← name
    let early ← method
    expectKeyword "ON"
    pure (label.text ++ " ", early)
  let table ← name
  let late ← method
  let columns ← parenthesized (commaList (indexColumn grammar))
  let included ← match ← afterKeyword "INCLUDE" (columnsText false) with
    | some columns => pure (" INCLUDE " ++ columns)
    | none => pure ""
  let nulls ← if ← keyword "NULLS" then do
      let negated := if ← keyword "NOT" then "NOT " else ""
      expectKeyword "DISTINCT"
      pure (" NULLS " ++ negated ++ "DISTINCT")
    else pure ""
  let options : List Part ← if ← keyword "WITH" then do
      expectSymbol "("
      let options ← exprList grammar
      expectSymbol ")"
      pure (.words " WITH (" :: options ++ [.words ")"])
    else pure []
  let condition ← afterKeyword "WHERE" grammar.expr
  return .definition (.words ("CREATE " ++ (if unique then "UNIQUE " else "") ++ "INDEX " ++
    concurrently ++ missing ++ label ++ "ON ") :: .relation table
    :: .words ((if late.isEmpty then early else late) ++ "(") :: Part.commas columns
    ++ [.words (")" ++ included ++ nulls)] ++ options ++ conditionParts condition)

/-- A schema that is created. -/
def createSchema : Parse Statement := do
  let missing ← ifNotExists
  let label ← if ← keyword "AUTHORIZATION" then do
      pure ("AUTHORIZATION " ++ (← ident).text)
    else do
      let schema ← name
      if ← keyword "AUTHORIZATION" then
        pure (schema.text ++ " AUTHORIZATION " ++ (← ident).text)
      else pure schema.text
  return .utility [.words ("CREATE SCHEMA " ++ missing ++ label)]

/-- A sequence that is created. -/
def createSequence (temporary : String) : Parse Statement := do
  let missing ← ifNotExists
  let sequence ← name
  let type ← match ← afterKeyword "AS" dataTypeText with
    | some type => pure (" AS " ++ type)
    | none => pure ""
  let options ← many (do
    let valued (lead : String) : Parse (Option (List Part)) := do
      return some [.words (" " ++ lead ++ " "), .expr (← grammar.expr)]
    if ← keyword "INCREMENT" then
      if ← keyword "BY" then valued "INCREMENT BY" else valued "INCREMENT"
    else if ← keyword "MINVALUE" then valued "MINVALUE"
    else if ← keywords ["NO", "MINVALUE"] then return some [.words " NO MINVALUE"]
    else if ← keyword "MAXVALUE" then valued "MAXVALUE"
    else if ← keywords ["NO", "MAXVALUE"] then return some [.words " NO MAXVALUE"]
    else if ← keyword "START" then
      if ← keyword "WITH" then valued "START WITH" else valued "START"
    else if ← keyword "CACHE" then valued "CACHE"
    else if ← keywords ["NO", "CYCLE"] then return some [.words " NO CYCLE"]
    else if ← keyword "CYCLE" then return some [.words " CYCLE"]
    else return none)
  let owner ← if ← keywords ["OWNED", "BY"] then do
      if ← keyword "NONE" then pure " OWNED BY NONE" else pure (" OWNED BY " ++ (← name).text)
    else pure ""
  return .utility (.words ("CREATE " ++ temporary ++ "SEQUENCE " ++ missing ++ sequence.text ++ type)
    :: options.flatten ++ [.words owner])

/-- An extension that is added. -/
def createExtension : Parse Statement := do
  let missing ← ifNotExists
  let extension ← ident
  let isWith ← keyword "WITH"
  let clause (lead : String) : Parse String := do
    match ← afterKeyword lead ident with
    | some label => return " " ++ lead ++ " " ++ label.text
    | none => return ""
  let details ← if isWith then do
      let schema ← clause "SCHEMA"
      let version ← clause "VERSION"
      let cascade := if ← keyword "CASCADE" then " CASCADE" else ""
      pure (schema ++ version ++ cascade)
    else pure ""
  return .utility [.words ("CREATE EXTENSION " ++ missing ++ extension.text ++
    if details.isEmpty then "" else " WITH" ++ details)]

/-- The options of a role, in pieces. -/
def roleOptions : Parse (List Part) := do
  let options ← many (do
    match ← anyKeyword ["SUPERUSER", "NOSUPERUSER", "CREATEDB", "NOCREATEDB", "CREATEROLE",
        "NOCREATEROLE", "INHERIT", "NOINHERIT", "LOGIN", "NOLOGIN", "REPLICATION",
        "NOREPLICATION", "BYPASSRLS", "NOBYPASSRLS"] with
    | some word => return some [Part.words (" " ++ word)]
    | none =>
      if ← keywords ["CONNECTION", "LIMIT"] then
        return some [.words " CONNECTION LIMIT ", .expr (← grammar.expr)]
      else if ← keyword "PASSWORD" then
        if ← keyword "NULL" then return some [.words " PASSWORD NULL"]
        else return some [.words " PASSWORD ", .expr (← grammar.expr)]
      else if ← keywords ["VALID", "UNTIL"] then
        return some [.words " VALID UNTIL ", .expr (← grammar.expr)]
      else return none)
  return options.flatten

/-- A role that is created. -/
def createRole : Parse Statement := do
  let missing ← ifNotExists
  let roles ← commaList name
  let _ ← keyword "WITH"
  let options ← roleOptions grammar
  return .utility (.words ("CREATE ROLE " ++ missing ++ commaSeparated (roles.map Name.text))
    :: options)

/-- A type that is created. -/
def createType : Parse Statement := do
  let type ← name
  expectKeyword "AS"
  if ← keyword "ENUM" then
    let labels ← parenthesized (commaList ident)
    return .utility [.words ("CREATE TYPE " ++ type.text ++ " AS ENUM (" ++
      commaSeparated (labels.map Ident.text) ++ ")")]
  expectSymbol "("
  let attributes ← if ← symbol ")" then pure [] else do
    let attributes ← commaList (do
      let label ← ident
      let type ← dataTypeText
      let collation ← match ← afterKeyword "COLLATE" name with
        | some collation => pure (" COLLATE " ++ collation.text)
        | none => pure ""
      return label.text ++ " " ++ type ++ collation)
    expectSymbol ")"
    pure attributes
  return .utility [.words ("CREATE TYPE " ++ type.text ++ " AS (" ++ commaSeparated attributes ++ ")")]

/-- A creation. -/
def create : Parse Statement := do
  let replace ← keywords ["OR", "REPLACE"]
  let alter ← keywords ["OR", "ALTER"]
  let reach := match ← anyKeyword ["LOCAL", "GLOBAL"] with
    | some word => word ++ " "
    | none => ""
  let temporary := match ← anyKeyword ["TEMP", "TEMPORARY"] with
    | some _ => "TEMPORARY "
    | none => ""
  let lead := (if replace then "OR REPLACE " else "")
  if ← keyword "TABLE" then createTable grammar (lead ++ reach ++ temporary)
  else if ← atAnyKeyword ["MATERIALIZED", "VIEW"] then
    createView grammar ((if alter then "OR ALTER " else "") ++ lead) temporary
  else if ← keyword "POLICY" then createPolicy grammar
  else if ← keyword "FUNCTION" then createFunction grammar (lead ++ temporary)
  else if ← keyword "DOMAIN" then createDomain grammar
  else if ← keyword "TRIGGER" then
    createTrigger grammar ((if alter then "OR ALTER " else "") ++ lead)
  else if ← keywords ["CONSTRAINT", "TRIGGER"] then
    createTrigger grammar ((if alter then "OR ALTER " else "") ++ lead ++ "CONSTRAINT ")
  else if replace then
    expected "[EXTERNAL] TABLE or [MATERIALIZED] VIEW or FUNCTION after CREATE OR REPLACE"
  else if ← keyword "EXTENSION" then createExtension
  else if ← keyword "INDEX" then createIndex grammar false
  else if ← keywords ["UNIQUE", "INDEX"] then createIndex grammar true
  else if ← keyword "SCHEMA" then createSchema
  else if ← keyword "DATABASE" then do
    let missing ← ifNotExists
    return .utility [.words ("CREATE DATABASE " ++ missing ++ (← name).text)]
  else if ← keyword "ROLE" then createRole grammar
  else if ← keyword "SEQUENCE" then createSequence grammar temporary
  else if ← keyword "TYPE" then createType
  else expected "an object type after CREATE"

/-- The objects that can be dropped by name alone. -/
def droppable : List (List String) :=
  [["TABLE"], ["VIEW"], ["MATERIALIZED", "VIEW"], ["INDEX"], ["ROLE"], ["SCHEMA"],
    ["DATABASE"], ["SEQUENCE"], ["STAGE"], ["TYPE"]]

/-- The first of some phrases that comes next. -/
def anyPhrase : List (List String) → Parse (Option (List String))
  | [] => return none
  | phrase :: rest => do
    if ← keywords phrase then return some phrase else anyPhrase rest

/-- A removal. -/
def drop : Parse Statement := do
  match ← anyPhrase droppable with
  | some phrase =>
    let present ← ifExists
    let names ← commaList name
    let place := (← peek).map Located.place
    let cascade ← keyword "CASCADE"
    let restrict ← keyword "RESTRICT"
    let purge ← keyword "PURGE"
    if cascade && restrict then
      refuse "Cannot specify both CASCADE and RESTRICT in DROP" place
    if phrase == ["ROLE"] && (cascade || restrict || purge) then
      refuse "Cannot specify CASCADE, RESTRICT, or PURGE in DROP ROLE" place
    let table ← match ← afterKeyword "ON" name with
      | some table => pure (" ON " ++ table.text)
      | none => pure ""
    return .definition [.words ("DROP " ++ joinWith " " phrase ++ " " ++ present ++
      commaSeparated (names.map Name.text) ++ (if cascade then " CASCADE" else "") ++
      (if restrict then " RESTRICT" else "") ++ (if purge then " PURGE" else "") ++ table)]
  | none =>
    if ← keyword "EXTENSION" then
      let present ← ifExists
      let names ← commaList ident
      let cascade ← cascadeOption
      return .utility [.words ("DROP EXTENSION " ++ present ++
        commaSeparated (names.map Ident.text) ++ cascade)]
    match ← anyKeyword ["FUNCTION", "PROCEDURE"] with
    | some word =>
      let present ← ifExists
      let routines ← commaList (routineName grammar)
      let cascade ← cascadeOption
      return .utility (.words ("DROP " ++ word ++ " " ++ present) :: Part.commas routines
        ++ [.words cascade])
    | none =>
      match ← anyKeyword ["TRIGGER", "POLICY"] with
      | some word =>
        let present ← ifExists
        let label ← if word == "POLICY" then Ident.text <$> ident else Name.text <$> name
        expectKeyword "ON"
        let table ← name
        let cascade ← cascadeOption
        return .utility [.words ("DROP " ++ word ++ " " ++ present ++ label ++ " ON " ++ table.text ++
          cascade)]
      | none =>
        if ← keyword "DOMAIN" then
          let present ← ifExists
          let domain ← name
          let cascade ← cascadeOption
          return .utility [.words ("DROP DOMAIN " ++ present ++ domain.text ++ cascade)]
        expected ("CONNECTOR, DATABASE, EXTENSION, FUNCTION, INDEX, POLICY, PROCEDURE, ROLE, " ++
          "SCHEMA, SECRET, SEQUENCE, STAGE, TABLE, TRIGGER, TYPE, VIEW, or MATERIALIZED VIEW " ++
          "after DROP")

/-- A change of a column. -/
def alterColumn : Parse (List Part) := do
  let _ ← keyword "COLUMN"
  let column ← ident
  let lead := "ALTER COLUMN " ++ column.text ++ " "
  if ← keywords ["SET", "NOT", "NULL"] then return [.words (lead ++ "SET NOT NULL")]
  else if ← keywords ["DROP", "NOT", "NULL"] then return [.words (lead ++ "DROP NOT NULL")]
  else if ← keywords ["SET", "DEFAULT"] then
    return [.words (lead ++ "SET DEFAULT "), .expr (← grammar.expr)]
  else if ← keywords ["DROP", "DEFAULT"] then return [.words (lead ++ "DROP DEFAULT")]
  else
    let set ← keywords ["SET", "DATA", "TYPE"]
    unless set do
      unless ← keyword "TYPE" do
        expected ("SET/DROP NOT NULL, SET DEFAULT, or SET DATA TYPE after ALTER COLUMN")
    let type ← dataTypeText
    let conversion : List Part ← match ← afterKeyword "USING" grammar.expr with
      | some expr => pure [.words " USING ", .expr expr]
      | none => pure []
    return .words (lead ++ (if set then "SET DATA TYPE " else "TYPE ") ++ type) :: conversion

/-- A change of a table. -/
def alterTableOperation : Parse (List Part) := do
  let plain (text : String) : Parse (List Part) := return [.words text]
  if ← keyword "ADD" then
    match ← tableConstraint grammar with
    | some constraint => return .words "ADD " :: constraint
    | none =>
      let early ← ifNotExists
      let word := if ← keyword "COLUMN" then "COLUMN " else ""
      let late ← if early.isEmpty then ifNotExists else pure ""
      let column ← columnDefinition grammar
      return .words ("ADD " ++ word ++ early ++ late) :: column
  else if ← keyword "RENAME" then
    if ← keyword "CONSTRAINT" then
      let old ← ident
      expectKeyword "TO"
      plain ("RENAME CONSTRAINT " ++ old.text ++ " TO " ++ (← ident).text)
    else if ← keyword "TO" then plain ("RENAME TO " ++ (← name).text)
    else
      let _ ← keyword "COLUMN"
      let old ← ident
      expectKeyword "TO"
      plain ("RENAME COLUMN " ++ old.text ++ " TO " ++ (← ident).text)
  else if ← keyword "DISABLE" then
    if ← keywords ["ROW", "LEVEL", "SECURITY"] then plain "DISABLE ROW LEVEL SECURITY"
    else if ← keyword "RULE" then plain ("DISABLE RULE " ++ (← ident).text)
    else if ← keyword "TRIGGER" then plain ("DISABLE TRIGGER " ++ (← ident).text)
    else expected "ROW LEVEL SECURITY, RULE, or TRIGGER after DISABLE"
  else if ← keyword "ENABLE" then
    if ← keywords ["ROW", "LEVEL", "SECURITY"] then plain "ENABLE ROW LEVEL SECURITY"
    else if ← keyword "RULE" then plain ("ENABLE RULE " ++ (← ident).text)
    else if ← keyword "TRIGGER" then plain ("ENABLE TRIGGER " ++ (← ident).text)
    else expected "ALWAYS, REPLICA, ROW LEVEL SECURITY, RULE, or TRIGGER after ENABLE"
  else if ← keyword "DROP" then
    if ← keyword "CONSTRAINT" then
      let present ← ifExists
      let label ← ident
      plain ("DROP CONSTRAINT " ++ present ++ label.text ++ (← cascadeOption))
    else
      let word := if ← keyword "COLUMN" then "COLUMN " else ""
      let present ← ifExists
      let column ← ident
      plain ("DROP " ++ word ++ present ++ column.text ++ (← cascadeOption))
  else if ← keyword "ALTER" then alterColumn grammar
  else if ← keywords ["OWNER", "TO"] then plain ("OWNER TO " ++ (← ident).text)
  else
    expected ("ADD, RENAME, PARTITION, SWAP, DROP, REPLICA IDENTITY, SET, or SET TBLPROPERTIES " ++
      "after ALTER TABLE")

/-- A change of an object. -/
def alter : Parse Statement := do
  match ← expectAnyKeyword ["VIEW", "TYPE", "TABLE", "INDEX", "ROLE", "POLICY", "CONNECTOR",
    "ICEBERG"] with
  | "VIEW" =>
    let view ← name
    let columns ← columnsText true
    expectKeyword "AS"
    let query ← grammar.query
    return .definition [.words ("ALTER VIEW " ++ view.text ++
      (if columns.isEmpty then "" else " " ++ columns) ++ " AS "), .query query]
  | "TABLE" =>
    let present ← ifExists
    let only := if ← keyword "ONLY" then "ONLY " else ""
    let table ← name
    let operations ← commaList (alterTableOperation grammar)
    return .definition (.words ("ALTER TABLE " ++ present ++ only) :: .relation table :: .words " "
      :: Part.commas operations)
  | "INDEX" =>
    let index ← name
    unless ← keyword "RENAME" do expected "RENAME after ALTER INDEX"
    unless ← keyword "TO" do expected "TO after RENAME"
    return .definition [.words ("ALTER INDEX " ++ index.text ++ " RENAME TO " ++ (← name).text)]
  | "ROLE" =>
    let role ← ident
    if ← keywords ["RENAME", "TO"] then
      return .utility [.words ("ALTER ROLE " ++ role.text ++ " RENAME TO " ++ (← ident).text)]
    let _ ← keyword "WITH"
    let options ← roleOptions grammar
    return .utility (.words ("ALTER ROLE " ++ role.text ++ " WITH") :: options)
  | "POLICY" => alterPolicy grammar
  | "TYPE" =>
    let type ← name
    let lead := "ALTER TYPE " ++ type.text ++ " "
    if ← keywords ["RENAME", "TO"] then
      return .utility [.words (lead ++ "RENAME TO " ++ (← ident).text)]
    else if ← keywords ["ADD", "VALUE"] then
      let missing ← ifNotExists
      let label ← ident
      let place ← match ← anyKeyword ["BEFORE", "AFTER"] with
        | some word => do
          pure (" " ++ word ++ " " ++ (← ident).text)
        | none => pure ""
      return .utility [.words (lead ++ "ADD VALUE " ++ missing ++ label.text ++ place)]
    else if ← keywords ["RENAME", "VALUE"] then
      let old ← ident
      expectKeyword "TO"
      return .utility [.words (lead ++ "RENAME VALUE " ++ old.text ++ " TO " ++ (← ident).text)]
    else expected "\x7bRENAME TO | \x7b RENAME | ADD \x7d VALUE\x7d"
  | word =>
    let object ← name
    expectKeywords ["RENAME", "TO"]
    return .utility [.words ("ALTER " ++ word ++ " " ++ object.text ++ " RENAME TO " ++ (← name).text)]

/-- The emptying of tables. -/
def truncate : Parse Statement := do
  let word := if ← keyword "TABLE" then "TABLE " else ""
  let tables ← commaList (do
    let only := if ← keyword "ONLY" then "ONLY " else ""
    return only ++ (← name).text)
  let identity ← if ← keywords ["RESTART", "IDENTITY"] then pure " RESTART IDENTITY"
    else if ← keywords ["CONTINUE", "IDENTITY"] then pure " CONTINUE IDENTITY"
    else pure ""
  let cascade ← cascadeOption
  return .definition [.words ("TRUNCATE " ++ word ++ commaSeparated tables ++ identity ++ cascade)]

/-- An option of a transfer, in print. -/
def copyOption : Parse String := do
  let switch (word : String) : Parse String := do
    match ← anyKeyword ["TRUE", "FALSE"] with
    | some "FALSE" => return word ++ " FALSE"
    | _ => return word
  let text (word : String) : Parse String := do
    return word ++ " '" ++ (← literalString) ++ "'"
  match ← anyKeyword ["FORMAT", "FREEZE", "DELIMITER", "NULL", "HEADER", "QUOTE", "ESCAPE",
    "FORCE_QUOTE", "FORCE_NOT_NULL", "FORCE_NULL", "ENCODING"] with
  | some "FORMAT" => return "FORMAT " ++ (← ident).text
  | some "FREEZE" => switch "FREEZE"
  | some "HEADER" => switch "HEADER"
  | some word =>
    if ["FORCE_QUOTE", "FORCE_NOT_NULL", "FORCE_NULL"].contains word then
      return word ++ " " ++ (← columnsText false)
    else text word
  | none => expected "option"

/-- An option of a transfer as it was written before options stood in parentheses. -/
def oldCopyOption : Parse (Option String) := do
  let text (word : String) : Parse (Option String) := do
    let _ ← keyword "AS"
    return some (word ++ " '" ++ (← literalString) ++ "'")
  match ← anyKeyword ["BINARY", "DELIMITER", "NULL", "CSV", "HEADER"] with
  | some "DELIMITER" => text "DELIMITER"
  | some "NULL" => text "NULL"
  | some word => return some word
  | none => return none

/-- The lines of data that follow a transfer in the same text: its values, a missing value
as nothing. -/
def copyValues (values : List (Option String)) (content : List Char) :
    (fuel : Nat) → Tokens → List (Option String) × Tokens
  | 0, tokens => (values.reverse, tokens)
  | _ + 1, [] => (values.reverse, [])
  | fuel + 1, first :: rest =>
    let (values, content) := first.gap.foldl (fun (values, content) blank =>
      if blank = '\t' ∨ blank = '\n' then (some (String.ofList content.reverse) :: values, [])
      else (values, blank :: content)) (values, content)
    if first.token = .symbol "\\" then
      match rest with
      | second :: rest' =>
        if second.token = .symbol "." then (values.reverse, rest')
        else
          let values := if second.token = .word "N" false then none :: values else values
          copyValues values content fuel rest'
      | [] => (values.reverse, [])
    else copyValues values (first.token.text.toList.reverse ++ content) fuel rest

/-- A transfer between a table and a file. -/
def copy : Parse Statement := do
  let (source, isQuery) ← if ← symbol "(" then do
      let query ← grammar.query
      expectSymbol ")"
      pure ([.words "COPY (", .query query, .words ")"], true)
    else do
      let table ← name
      let columns ← columnsText true
      pure ([Part.words ("COPY " ++ table.text ++ if columns.isEmpty then "" else " " ++ columns)],
        false)
  let direction ← match ← anyKeyword ["FROM", "TO"] with
    | some word => pure word
    | none => expected "FROM or TO"
  if direction == "FROM" && isQuery then
    refuse "COPY ... FROM does not support query as a source"
  let quoted : Parse String := do return "'" ++ (← literalString) ++ "'"
  let target ← match ← anyKeyword ["STDIN", "STDOUT", "PROGRAM"] with
    | some "PROGRAM" => do pure ("PROGRAM " ++ (← quoted))
    | some word => pure word
    | none => quoted
  let _ ← keyword "WITH"
  let options ← if ← symbol "(" then do
      let options ← commaList copyOption
      expectSymbol ")"
      pure (" (" ++ commaSeparated options ++ ")")
    else pure ""
  let old ← many (do return (← attempt oldCopyOption).join)
  let values ← if target == "STDIN" then do
      expectSymbol ";"
      let tokens ← get
      let (values, rest) := copyValues [] [] (tokens.length + 1) tokens
      set rest
      pure values
    else pure []
  let data := if values.isEmpty then "" else
    ";\n" ++ joinWith "\t" (values.map fun value => value.getD "\\N") ++ "\n\\."
  return .definition (source ++
    [.words (" " ++ direction ++ " " ++ target ++ options ++
      String.join (old.map fun option => " " ++ option) ++ data)])

end Grammar

end ColumnVeil.Sql
