import ColumnVeil.Sql.Parser.Query

/-!
# Reading statements that change rows

Insertions, updates, deletions and merges, each behind its first keyword.
-/

namespace ColumnVeil.Sql

open Parse

namespace Grammar

variable (grammar : Grammar)

/-- What a row that is in the way does, in print. -/
def collisionRule : Parse String := do
  if ← keywords ["OR", "REPLACE"] then return "OR REPLACE"
  else if ← keywords ["OR", "ROLLBACK"] then return "OR ROLLBACK"
  else if ← keywords ["OR", "ABORT"] then return "OR ABORT"
  else if ← keywords ["OR", "FAIL"] then return "OR FAIL"
  else if ← keywords ["OR", "IGNORE"] then return "OR IGNORE"
  else if ← keyword "REPLACE" then return "OR REPLACE"
  else return ""

/-- An assignment. -/
def assignment : Parse Assignment := do
  let target ← if ← symbol "(" then do
      let names ← commaList name
      expectSymbol ")"
      pure (AssignmentTarget.tuple names)
    else .column <$> name
  expectSymbol "="
  return ⟨target, ← grammar.expr⟩

/-- The projection behind `RETURNING`. -/
def returning : Parse (Option (List SelectItem)) :=
  afterKeyword "RETURNING" (commaList (selectItem grammar))

/-- What an insertion does about rows that exist already. -/
def conflictRule : Parse ConflictRule := do
  unless ← keyword "ON" do return .none
  if ← keyword "CONFLICT" then
    let target ← if ← keywords ["ON", "CONSTRAINT"] then do
        pure (" ON CONSTRAINT " ++ (← name).text)
      else if ← atSymbol "(" then do
        let columns ← columnList false
        pure ("(" ++ commaSeparated (columns.map Ident.text) ++ ")")
      else pure ""
    expectKeyword "DO"
    if ← keyword "NOTHING" then return .words (" ON CONFLICT" ++ target ++ " DO NOTHING")
    expectKeyword "UPDATE"
    expectKeyword "SET"
    let assignments ← commaList (assignment grammar)
    let condition ← afterKeyword "WHERE" grammar.expr
    return .assign (" ON CONFLICT" ++ target ++ " DO UPDATE SET ") assignments condition
  else
    expectKeywords ["DUPLICATE", "KEY", "UPDATE"]
    let assignments ← commaList (assignment grammar)
    return .assign " ON DUPLICATE KEY UPDATE " assignments none

/-- Whether a subquery in parentheses comes next. -/
def atSubquery : Parse Bool := do
  let tokens ← get
  return tokens.head?.map Located.token = some (.symbol "(") &&
    tokens[1]?.bind Located.keyword = some "SELECT"

/-- The partition into which rows are inserted. -/
def insertPartition : Parse (List Part) := do
  if ← keyword "PARTITION" then
    expectSymbol "("
    let items ← exprList grammar
    expectSymbol ")"
    return .words "PARTITION (" :: items ++ [.words ") "]
  else return []

/-- An insertion. -/
def insert : Parse Insert := do
  let collision ← collisionRule
  let overwrite ← keyword "OVERWRITE"
  let into ← keyword "INTO"
  let isTable ← keyword "TABLE"
  let words :=
    if collision.isEmpty then
      "INSERT" ++ (if overwrite then " OVERWRITE" else "") ++ (if into then " INTO" else "") ++
        (if isTable then " TABLE" else "")
    else "INSERT " ++ collision ++ " INTO"
  let table ← name
  let aliasName ← afterKeyword "AS" ident
  let (columns, partition, source) ← if ← keywords ["DEFAULT", "VALUES"] then
      pure ([], [], none)
    else do
      let (columns, partition) ← if ← atSubquery then pure ([], []) else do
        let columns ← columnList true
        let partition ← insertPartition grammar
        pure (columns, partition)
      let source ← if ← atAnyKeyword ["FORMAT", "SETTINGS"] then pure none
        else some <$> grammar.query
      pure (columns, partition, source)
  let conflict ← conflictRule grammar
  let returning ← returning grammar
  return { words, table, aliasName, columns, partition, source, conflict, returning }

/-- An update. -/
def update : Parse Update := do
  let collision ← collisionRule
  let words := if collision.isEmpty then "UPDATE" else "UPDATE " ++ collision
  let table ← tables grammar
  let early ← afterKeyword "FROM" (tablesList grammar)
  expectKeyword "SET"
  let assignments ← commaList (assignment grammar)
  let relations ← match early with
    | some relations => pure (some (true, relations))
    | none => do
      match ← afterKeyword "FROM" (tablesList grammar) with
      | some relations => pure (some (false, relations))
      | none => pure none
  let condition ← afterKeyword "WHERE" grammar.expr
  let returning ← returning grammar
  return { words, table, assignments, relations, condition, returning }

/-- A deletion. -/
def delete : Parse Delete := do
  let words ← if ← keyword "FROM" then pure "DELETE" else do
    let names ← commaList name
    expectKeyword "FROM"
    pure ("DELETE " ++ commaSeparated (names.map Name.text))
  let relations ← tablesList grammar
  let further ← afterKeyword "USING" (tablesList grammar)
  let condition ← afterKeyword "WHERE" grammar.expr
  let returning ← returning grammar
  let order : List Part ← match ← optionalOrder grammar with
    | [] => pure []
    | items => pure (.words " ORDER BY " :: orderParts items)
  let limit : List Part ← if ← keyword "LIMIT" then do
      if ← keyword "ALL" then pure [] else pure [.words " LIMIT ", .expr (← grammar.expr)]
    else pure []
  return { words, relations, further, condition, returning, tail := order ++ limit }

/-- A clause of a merge, if one comes next. -/
def mergeClause : Parse (Option (List Part)) := do
  unless ← keyword "WHEN" do return none
  let missing ← keyword "NOT"
  expectKeyword "MATCHED"
  let bySource ← if missing then keywords ["BY", "SOURCE"] else pure false
  let byTarget ← if missing && !bySource then keywords ["BY", "TARGET"] else pure false
  let kind := (if missing then "NOT MATCHED" else "MATCHED") ++
    (if bySource then " BY SOURCE" else "") ++ (if byTarget then " BY TARGET" else "")
  let condition : List Part ← match ← afterKeyword "AND" grammar.expr with
    | some condition => pure [.words " AND ", .expr condition]
    | none => pure []
  expectKeyword "THEN"
  let lacksRow := missing && !bySource
  let forbidden (action : String) : Parse Unit :=
    refuse (action ++ " is not allowed in a " ++ kind ++ " merge clause")
  let action : List Part ← match ← anyKeyword ["UPDATE", "INSERT", "DELETE"] with
    | some "UPDATE" => do
      if lacksRow then forbidden "UPDATE"
      expectKeyword "SET"
      let assignments ← commaList (assignment grammar)
      pure (.words "UPDATE SET " :: Part.commas (assignments.map Assignment.parts))
    | some "DELETE" => do
      if lacksRow then forbidden "DELETE"
      pure [.words "DELETE"]
    | some _ => do
      unless lacksRow do forbidden "INSERT"
      let columns ← columnList true
      expectKeyword "VALUES"
      let rows ← valueRows grammar
      let lead := match columns with
        | [] => ""
        | columns => "(" ++ commaSeparated (columns.map Ident.text) ++ ") "
      pure [.words ("INSERT " ++ lead), .query (.mk false [] rows [] [])]
    | none => refuse "expected UPDATE, DELETE or INSERT in merge clause"
  return some (.words (" WHEN " ++ kind) :: condition ++ .words " THEN " :: action)

/-- A merge. -/
def merge : Parse Statement := do
  let words := if ← keyword "INTO" then "MERGE INTO " else "MERGE "
  let factor : Parse TableFactor := tableFactorWith grammar (tables grammar)
  let target ← factor
  expectKeyword "USING"
  let source ← factor
  expectKeyword "ON"
  let condition ← grammar.expr
  let clauses ← many (mergeClause grammar)
  return .utility ([.words words, .tables (.mk target []), .words " USING ",
    .tables (.mk source []), .words " ON ", .expr condition] ++ clauses.flatten)

/-- The statement that a keyword begins that changes rows, behind that keyword. -/
def change : String → Parse Statement
  | "INSERT" => .insert <$> insert grammar
  | "UPDATE" => .update <$> update grammar
  | _ => .delete <$> delete grammar

end Grammar

end ColumnVeil.Sql
