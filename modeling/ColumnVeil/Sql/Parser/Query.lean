import ColumnVeil.Sql.Parser.TableFunction

/-!
# Reading queries

Selections, the relations they draw on, and the clauses around them.  Expressions and
nested queries come from the grammar one level down.
-/

namespace ColumnVeil.Sql

open Parse

namespace Grammar

variable (grammar : Grammar)

/-- A qualifier with a star behind it; nothing if the names do not end in a star. -/
def starFrom (before : Name) : (fuel : Tokens) → Parse (Option Name)
  | [] => return none
  | _ :: fuel => do
    if ← symbol "." then
      match ← next with
      | none => expectedAt none "an identifier or a '*' after '.'"
      | some found =>
        if found.token = .symbol "*" then return some before.reverse
        match found.token.ident? with
        | some part => starFrom (part :: before) fuel
        | none => expectedAt found "an identifier or a '*' after '.'"
    else return none

/-- Whether the text goes on like a star or a qualified name. -/
def startsLikeStar : Tokens → Bool
  | [] => false
  | first :: rest =>
    first.token = .symbol "*" ||
      (first.token.ident?.isSome && rest.head?.map Located.token = some (.symbol "."))

/-- An expression, or a star that stands for columns. -/
def starOrExpr : Parse SelectItem := do
  let start ← get
  if startsLikeStar start then
    let first ← next
    match first.bind fun found => found.token.ident? with
    | none => return .wildcard []
    | some part => match ← starFrom [part] start with
      | some qualifier => return .wildcard qualifier
      | none => set start
  return .expr (← grammar.expr)

/-- An item of a projection. -/
def selectItem : Parse SelectItem := do
  match ← starOrExpr grammar with
  | .expr expr =>
    if let .identifier ident := expr then
      if ident.quote.isNone && Text.lowercase ident.value == "from" then
        refuse ("Expected an expression, found: " ++ ident.text) ((← peek).map Located.place)
    match ← optionalAlias columnAliasStops with
    | some aliasName => return .aliased expr aliasName
    | none => return .expr expr
  | item => return item

/-- An item of an order. -/
def orderItem : Parse OrderItem := do
  let expr ← grammar.expr
  let direction := match ← anyKeyword ["ASC", "DESC"] with
    | some word => " " ++ word
    | none => ""
  if ← keywords ["NULLS", "FIRST"] then return .mk expr (direction ++ " NULLS FIRST")
  else if ← keywords ["NULLS", "LAST"] then return .mk expr (direction ++ " NULLS LAST")
  else return .mk expr direction

/-- An order behind its keywords, if they come next. -/
def optionalOrder : Parse (List OrderItem) := do
  if ← keywords ["ORDER", "BY"] then commaList (orderItem grammar) else return []

/-- The word or symbol between the label of an argument and its value. -/
def argumentOperator : Parse String := do
  if ← keyword "VALUE" then return "VALUE"
  let found ← next
  match found.map Located.token with
  | some (.symbol "=>") => return "=>"
  | some (.symbol ":") => return ":"
  | _ => expectedAt found "argument operator"

/-- An argument of a function, perhaps with a label. -/
def functionArgument : Parse (List Part) := fun start =>
  let plain : Parse (List Part) := do return (← starOrExpr grammar).parts
  match grammar.expr start with
  | .error fault => if startsLikeStar start then plain start else .error fault
  | .ok (label, rest) =>
    let labelled : Parse (List Part) := do
      let operator ← argumentOperator
      let argument ← starOrExpr grammar
      return .expr label :: .words (" " ++ operator ++ " ") :: argument.parts
    match attempt labelled rest with
    | .error fault => .error fault
    | .ok (some parts, rest) => .ok (parts, rest)
    | .ok (none, _) => if startsLikeStar start then plain start else .ok ([.expr label], rest)

/-- The arguments of a function up to its closing parenthesis. -/
def functionArguments : Parse (List Part) := do
  if ← symbol ")" then return []
  let arguments ← commaList (functionArgument grammar)
  expectSymbol ")"
  return Part.commas arguments

/-- Expressions separated by commas, as pieces. -/
def exprList : Parse (List Part) := do
  return Part.commas ((← commaList grammar.expr).map fun expr => [.expr expr])

/-- The pieces of an order. -/
def orderParts (items : List OrderItem) : List Part :=
  Part.commas (items.map fun (.mk expr direction) => [.expr expr, .words direction])

/-- A sample of a relation, if one is asked for. -/
def tableSample : Parse (List Part) := do
  match ← anyKeyword ["TABLESAMPLE", "SAMPLE"] with
  | none => return []
  | some word =>
    let method := match ← anyKeyword ["BERNOULLI", "ROW", "SYSTEM", "BLOCK"] with
      | some method => " " ++ method
      | none => ""
    let enclosed ← symbol "("
    let amount ← match ← attempt grammar.expr with
      | some amount => pure amount
      | none =>
        match (← next).map Located.token with
        | some (.word text _) => pure (.value (.placeholder text))
        | _ => refuse "Expecting number or byte length e.g. 100M" ((← peek).map Located.place)
    let unit := match ← anyKeyword ["ROWS", "PERCENT"] with
      | some unit => " " ++ unit
      | none => ""
    if enclosed then expectSymbol ")"
    let seed ← match ← anyKeyword ["REPEATABLE", "SEED"] with
      | some word => do
        let seed ← parenthesized numberValue
        pure (" " ++ word ++ " (" ++ seed.text ++ ")")
      | none => pure ""
    let offset ← afterKeyword "OFFSET" grammar.expr
    return .words (" " ++ word ++ method ++ " " ++ (if enclosed then "(" else ""))
      :: .expr amount :: .words (unit ++ (if enclosed then ")" else "") ++ seed)
      :: match offset with
        | some offset => [.words " OFFSET ", .expr offset]
        | none => []

/-- What constrains a join. -/
def joinConstraint (natural : Bool) : Parse JoinConstraint := do
  if natural then return .natural
  else if ← keyword "ON" then return .on (← grammar.expr)
  else if ← keyword "USING" then return .sharing (← nameList)
  else return .none

/-- The words of a join whose two sides are constrained, if one comes next. -/
def constrainedJoin (natural : Bool) : Parse (Option String) := do
  match ← peekKeyword with
  | some "INNER" =>
    let _ ← next
    expectKeyword "JOIN"
    return some "INNER JOIN"
  | some "JOIN" =>
    let _ ← next
    return some "JOIN"
  | some "LEFT" => sided "LEFT"
  | some "RIGHT" => sided "RIGHT"
  | some "ANTI" =>
    let _ ← next
    expectKeyword "JOIN"
    return some "ANTI JOIN"
  | some "SEMI" =>
    let _ ← next
    expectKeyword "JOIN"
    return some "SEMI JOIN"
  | some "FULL" =>
    let _ ← next
    let _ ← keyword "OUTER"
    expectKeyword "JOIN"
    return some "FULL JOIN"
  | some "OUTER" => expected "LEFT, RIGHT, or FULL"
  | some "STRAIGHT_JOIN" =>
    let _ ← next
    return some "STRAIGHT_JOIN"
  | _ => if natural then expected "a join type after NATURAL" else return none
where
  /-- A join that keeps the rows of one side. -/
  sided (side : String) : Parse (Option String) := do
    let _ ← next
    match ← anyKeyword ["OUTER", "SEMI", "ANTI", "JOIN"] with
    | some "JOIN" => return some (side ++ " JOIN")
    | some word =>
      expectKeyword "JOIN"
      return some (side ++ " " ++ word ++ " JOIN")
    | none => refuse ("expected OUTER, SEMI, ANTI or JOIN after " ++ side)

/-- A join, if one comes next, where `factor` reads the joined relation. -/
def join (factor : Parse TableFactor) : Parse (Option Join) := do
  let lead := if ← keyword "GLOBAL" then "GLOBAL " else ""
  if ← keyword "CROSS" then
    let words ← if ← keyword "JOIN" then pure "CROSS JOIN"
      else if ← keyword "APPLY" then pure "CROSS APPLY"
      else expected "JOIN or APPLY after CROSS"
    return some (.mk (lead ++ words) (← factor) [] .none)
  else if ← keyword "OUTER" then
    expectKeyword "APPLY"
    return some (.mk (lead ++ "OUTER APPLY") (← factor) [] .none)
  else if ← keyword "ASOF" then
    expectKeyword "JOIN"
    let relation ← factor
    expectKeyword "MATCH_CONDITION"
    let condition ← parenthesized grammar.expr
    let constraint ← joinConstraint grammar false
    return some (.mk (lead ++ "ASOF JOIN") relation
      [.words " MATCH_CONDITION (", .expr condition, .words ")"] constraint)
  else
    let natural ← keyword "NATURAL"
    match ← constrainedJoin natural with
    | none => return none
    | some words =>
      let relation ← factor
      let constraint ← joinConstraint grammar natural
      return some (.mk (lead ++ (if natural then "NATURAL " else "") ++ words) relation []
        constraint)

/-- A subquery in the place of a relation, behind its opening parenthesis. -/
def derivedTable (isLateral : Bool) : Parse TableFactor := do
  let subquery ← grammar.query
  expectSymbol ")"
  return .derived isLateral subquery (← tableAlias)

/-- A relation by name: a table, or a function that gives one. -/
def namedTable : Parse TableFactor := do
  let tableName ← name
  let arguments ← if ← symbol "(" then do
      let arguments ← functionArguments grammar
      pure (.words "(" :: arguments ++ [.words ")"])
    else pure []
  let ordinality ← keywords ["WITH", "ORDINALITY"]
  let aliasName ← tableAlias
  let hints ← attempt (do
    expectKeyword "WITH"
    expectSymbol "(")
  let hints ← match hints with
    | some _ => do
      let hints ← exprList grammar
      expectSymbol ")"
      pure (.words " WITH (" :: hints ++ [.words ")"])
    | none => pure []
  let sample ← tableSample grammar
  let arguments := if ordinality then arguments ++ [.words " WITH ORDINALITY"] else arguments
  turned grammar (.table tableName arguments aliasName (hints ++ sample))

/-- The elements of arrays as a relation. -/
def unnested : Parse TableFactor := do
  expectSymbol "("
  let arrays ← exprList grammar
  expectSymbol ")"
  let ordinality ← keywords ["WITH", "ORDINALITY"]
  let aliasName ← tableAlias
  let tail ← if ← keywords ["WITH", "OFFSET"] then do
      match ← optionalAlias columnAliasStops with
      | some name => pure (" WITH OFFSET AS " ++ name.text)
      | none => pure " WITH OFFSET"
    else pure ""
  return .function (.words "UNNEST(" :: arrays ++
    [.words (if ordinality then ") WITH ORDINALITY" else ")")]) aliasName tail

/-- A relation, where `nested` reads a parenthesised one with its joins. -/
def tableFactorWith (nested : Parse TableWithJoins) : Parse TableFactor := do
  if ← keyword "LATERAL" then
    if ← symbol "(" then derivedTable grammar true
    else
      let functionName ← name
      expectSymbol "("
      let arguments ← functionArguments grammar
      let aliasName ← tableAlias
      return .function
        (.words ("LATERAL " ++ functionName.text ++ "(") :: arguments ++ [.words ")"]) aliasName ""
  else if ← keyword "TABLE" then
    let expr ← parenthesized grammar.expr
    return .function [.words "TABLE(", .expr expr, .words ")"] (← tableAlias) ""
  else if ← symbol "(" then
    match ← attempt (derivedTable grammar false) with
    | some factor => turned grammar factor
    | none =>
      match ← nested with
      | .mk (.nestedJoin inner aliasName) [] =>
        expectSymbol ")"
        return .nestedJoin (.mk (.nestedJoin inner aliasName) []) (← tableAlias)
      | .mk _ [] => expected "joined table"
      | tables =>
        expectSymbol ")"
        return .nestedJoin tables (← tableAlias)
  else if ← keyword "UNNEST" then unnested grammar
  else if ← openedBy "JSON_TABLE" then jsonTable grammar
  else if ← openedBy "XMLTABLE" then xmlTable grammar
  else namedTable grammar

/-- A relation with its joins, inside at most as many parentheses as there are tokens. -/
def tablesWithin : (fuel : Tokens) → Parse TableWithJoins
  | [] => return .mk (← tableFactorWith grammar (expected "identifier")) []
  | _ :: fuel => do
    let factor := tableFactorWith grammar (tablesWithin fuel)
    let relation ← factor
    let joins ← many (join grammar factor)
    return .mk relation joins

/-- A relation with its joins. -/
def tables : Parse TableWithJoins := do
  tablesWithin grammar (← get)

/-- Relations with their joins, separated by commas. -/
def tablesList : Parse (List TableWithJoins) :=
  commaList (tables grammar)

/-- Expressions in parentheses, or one without. -/
def groupingSet : Parse (List Expr) := do
  if ← symbol "(" then
    if ← symbol ")" then return []
    let items ← commaList grammar.expr
    expectSymbol ")"
    return items
  else return [← grammar.expr]

/-- Grouping sets behind a keyword; `bare` if a set of one is printed without parentheses. -/
def groupingSets (lead : String) (bare : Bool) : Parse Expr := do
  let sets ← parenthesized (commaList (groupingSet grammar))
  let shown (items : List Expr) : List Part :=
    let inner := Part.commas (items.map fun item => [.expr item])
    if bare && items.length == 1 then inner else .words "(" :: inner ++ [.words ")"]
  return .form (.words (lead ++ " (") :: Part.commas (sets.map shown) ++ [.words ")"])

/-- An item of a grouping. -/
def groupItem : Parse Expr := do
  if ← keywords ["GROUPING", "SETS"] then groupingSets grammar "GROUPING SETS" false
  else if ← keyword "CUBE" then groupingSets grammar "CUBE" true
  else if ← keyword "ROLLUP" then groupingSets grammar "ROLLUP" true
  else
    let empty ← attempt (do
      expectSymbol "("
      expectSymbol ")")
    if empty.isSome then return .form [.words "()"] else grammar.expr

/-- A grouping: its items, and in print what stands behind them. -/
def grouping : Parse (List Expr × List Part) := do
  if ← keywords ["GROUP", "BY"] then
    let all ← keyword "ALL"
    let items ← if all then pure [] else commaList (groupItem grammar)
    let modifier ← if ← keywords ["GROUPING", "SETS"] then do
        let sets ← groupingSets grammar "GROUPING SETS" false
        pure [.words " ", .expr sets]
      else pure []
    return (items, if all then .words " GROUP BY ALL" :: modifier else modifier)
  else return ([], [])

/-- How many rows at the top of a selection are asked for. -/
def top : Parse (List Part) := do
  let amount : List Part ← if ← symbol "(" then do
      let amount ← grammar.expr
      expectSymbol ")"
      pure [.words "(", .expr amount, .words ")"]
    else do
      let amount ← literalNat
      pure [.words (toString amount)]
  let percent := if ← keyword "PERCENT" then " PERCENT" else ""
  let ties := if ← keywords ["WITH", "TIES"] then " WITH TIES" else ""
  return .words " TOP " :: amount ++ [.words (percent ++ ties)]

/-- Whether rows that occur twice are dropped. -/
def distinct : Parse (List Part) := do
  let place := (← peek).map Located.place
  let all ← keyword "ALL"
  unless ← keyword "DISTINCT" do return []
  if all then refuse "Cannot specify both ALL and DISTINCT" place
  unless ← keyword "ON" do return [.words " DISTINCT"]
  expectSymbol "("
  let columns ← if ← atSymbol ")" then pure [] else exprList grammar
  expectSymbol ")"
  return .words " DISTINCT ON (" :: columns ++ [.words ")"]

/-- The relation that a selection fills, in print. -/
def selectTarget : Parse String := do
  unless ← keyword "INTO" do return ""
  let temporary := match ← anyKeyword ["TEMP", "TEMPORARY"] with
    | some _ => " TEMPORARY"
    | none => ""
  let unlogged := if ← keyword "UNLOGGED" then " UNLOGGED" else ""
  let table := if ← keyword "TABLE" then " TABLE" else ""
  return " INTO" ++ temporary ++ unlogged ++ table ++ " " ++ (← name).text

/-- The bound of a window frame. -/
def frameBound : Parse (List Part) := do
  if ← keywords ["CURRENT", "ROW"] then return [.words "CURRENT ROW"]
  let rows : List Part ← if ← keyword "UNBOUNDED" then pure [.words "UNBOUNDED"]
    else match (← peek).map Located.token with
      | some (.string .plain _) => do
        let amount ← value
        pure [.words "INTERVAL ", .expr (.value amount), .words (← intervalQualifier)]
      | _ => pure [.expr (← grammar.expr)]
  match ← anyKeyword ["PRECEDING", "FOLLOWING"] with
  | some word => return rows ++ [.words (" " ++ word)]
  | none => expected "PRECEDING or FOLLOWING"

/-- The frame of a window. -/
def windowFrame : Parse (List Part) := do
  let found ← next
  let units ← match found.bind Located.keyword with
    | some "ROWS" => pure "ROWS"
    | some "RANGE" => pure "RANGE"
    | some "GROUPS" => pure "GROUPS"
    | _ => expectedAt found "ROWS, RANGE, GROUPS"
  if ← keyword "BETWEEN" then
    let start ← frameBound grammar
    expectKeyword "AND"
    let stop ← frameBound grammar
    return .words (units ++ " BETWEEN ") :: start ++ .words " AND " :: stop
  else
    return .words (units ++ " ") :: (← frameBound grammar)

/-- A window behind its opening parenthesis. -/
def windowSpec : Parse (List Part) := do
  let base : List Part ← do
    if ← atAnyKeyword ["PARTITION", "ORDER", "ROWS", "RANGE", "GROUPS"] then pure []
    else match (← peek).map Located.token with
      | some (.word _ _) => pure [.words (← ident).text]
      | _ => pure []
  let partition : List Part ← if ← keywords ["PARTITION", "BY"] then do
      pure (.words "PARTITION BY " :: (← exprList grammar))
    else pure []
  let order : List Part ← match ← optionalOrder grammar with
    | [] => pure []
    | items => pure (.words "ORDER BY " :: orderParts items)
  let frame ← if ← symbol ")" then pure [] else do
    let frame ← windowFrame grammar
    expectSymbol ")"
    pure frame
  return spaced ([base, partition, order, frame].filter fun parts => !parts.isEmpty)
where
  /-- Several lists of pieces with blanks between them. -/
  spaced : List (List Part) → List Part
    | [] => []
    | [parts] => parts
    | parts :: rest => parts ++ .words " " :: spaced rest

/-- A window with a name. -/
def namedWindow : Parse (List Part) := do
  let windowName ← ident
  expectKeyword "AS"
  if ← symbol "(" then
    let spec ← windowSpec grammar
    return .words (windowName.text ++ " AS (") :: spec ++ [.words ")"]
  else
    expected "("

/-- The windows and the condition on them that end a selection. -/
def windowClauses : Parse (List Part) := do
  let windows : Parse (List Part) := do
    if ← keyword "WINDOW" then
      return .words " WINDOW " :: Part.commas (← commaList (namedWindow grammar))
    else return []
  let qualify : Parse (List Part) := do
    match ← afterKeyword "QUALIFY" grammar.expr with
    | some condition => return [.words " QUALIFY ", .expr condition]
    | none => return []
  let first ← windows
  let second ← qualify
  if first.isEmpty && !second.isEmpty then return second ++ (← windows)
  else return first ++ second

/-- A list behind two keywords, with those in front. -/
def clauseList (first second : String) (item : Parse (List Part)) : Parse (List Part) := do
  if ← keywords [first, second] then
    return .words (" " ++ first ++ " " ++ second ++ " ") :: Part.commas (← commaList item)
  else return []

/-- A lateral view, if one comes next. -/
def lateralView : Parse (Option (List Part)) := do
  unless ← keywords ["LATERAL", "VIEW"] do return none
  let outer := if ← keyword "OUTER" then "OUTER " else ""
  let expr ← grammar.expr
  let viewName ← name
  let aliases ← commaList (optionalAlias ["WHERE", "GROUP", "CLUSTER", "HAVING", "LATERAL"])
  let aliases := aliases.filterMap id
  let tail := if aliases.isEmpty then "" else " AS " ++ commaSeparated (aliases.map Ident.text)
  return some [.words (" LATERAL VIEW " ++ outer), .expr expr, .words (" " ++ viewName.text ++ tail)]

/-- A selection. -/
def select : Parse Select := do
  expectKeyword "SELECT"
  let unique ← distinct grammar
  let most ← if ← keyword "TOP" then top grammar else pure []
  let projection ← if ← atKeyword "FROM" then pure [] else commaList (selectItem grammar)
  let target ← selectTarget
  let relations ← if ← keyword "FROM" then tablesList grammar else pure []
  let views ← many (lateralView grammar)
  let condition ← afterKeyword "WHERE" grammar.expr
  let (groups, grouping) ← grouping grammar
  let item : Parse (List Part) := do return [.expr (← grammar.expr)]
  let cluster ← clauseList "CLUSTER" "BY" item
  let distribute ← clauseList "DISTRIBUTE" "BY" item
  let sort ← clauseList "SORT" "BY" (do return orderParts [← orderItem grammar])
  let having ← afterKeyword "HAVING" grammar.expr
  let windows ← windowClauses grammar
  return .mk (unique ++ most) projection target relations views.flatten condition groups
    (grouping ++ cluster ++ distribute ++ sort) having windows

/-- Rows of values. -/
def valueRows : Parse QueryBody := do
  let rows ← commaList (do
    let explicit ← keyword "ROW"
    let row ← parenthesized (commaList grammar.expr)
    return (explicit, row))
  return .values (rows.any Prod.fst) (rows.map Prod.snd)

/-- A whole table as a query. -/
def wholeTable : Parse QueryBody := do
  let first ← next
  let second ← next
  let third ← next
  let wordOf (found : Option Located) (what : String) : Parse String :=
    match found.map Located.token with
    | some (.word text _) => pure text
    | _ => expectedAt found what
  if second.map Located.token = some (.symbol ".") then
    let schema ← wordOf first "Schema name"
    let table ← wordOf third "Table name"
    return .table (schema ++ "." ++ table)
  else
    return .table (← wordOf first "Table name")

/-- Which rows of both sides a set operator keeps. -/
def setQuantifier : Parse String := do
  if ← keywords ["DISTINCT", "BY", "NAME"] then return " DISTINCT BY NAME"
  else if ← keywords ["BY", "NAME"] then return " BY NAME"
  else if ← keyword "ALL" then
    if ← keywords ["BY", "NAME"] then return " ALL BY NAME" else return " ALL"
  else if ← keyword "DISTINCT" then return " DISTINCT"
  else return ""

/-- How strongly a set operator binds. -/
def setPrecedence : String → Option Nat
  | "UNION" | "EXCEPT" | "MINUS" => some 10
  | "INTERSECT" => some 20
  | _ => none

/-- The set operators that follow a query body, where `operand` reads one that binds more
strongly than a precedence. -/
def combinations (operand : Nat → Parse QueryBody) (precedence : Nat) (left : QueryBody) :
    (fuel : Tokens) → Parse QueryBody
  | [] => return left
  | _ :: fuel => do
    match ← peekKeyword with
    | none => return left
    | some word => match setPrecedence word with
      | none => return left
      | some binding =>
        if binding ≤ precedence then return left
        let _ ← next
        let quantifier ← setQuantifier
        let right ← operand binding
        combinations operand precedence (.combination left (word ++ quantifier) right) fuel

/-- A query body whose set operators bind more strongly than a precedence, with at most as
many of them nested as there are tokens. -/
def bodyWithin : (fuel : Tokens) → Nat → Parse QueryBody
  | fuel, precedence => do
    let left ← if ← atKeyword "SELECT" then .select <$> select grammar
      else if ← symbol "(" then do
        let query ← grammar.query
        expectSymbol ")"
        pure (.parenthesized query)
      else if ← keyword "VALUES" then valueRows grammar
      else if ← keyword "TABLE" then wholeTable
      else expected "SELECT, VALUES, or a subquery in the query body"
    match fuel with
    | [] => return left
    | _ :: fuel => combinations (bodyWithin fuel) precedence left (← get)

/-- A query body. -/
def queryBody : Parse QueryBody := do
  bodyWithin grammar (← get) 0

/-- Whether a common table expression is kept, in print. -/
def materialization : Parse String := do
  if ← keyword "MATERIALIZED" then return "MATERIALIZED "
  else if ← keywords ["NOT", "MATERIALIZED"] then return "NOT MATERIALIZED "
  else return ""

/-- A common table expression. -/
def cte : Parse Cte := do
  let cteName ← ident
  let columns ← if ← keyword "AS" then pure "" else do
    let columns ← aliasColumns
    expectKeyword "AS"
    pure columns
  let materialized ← materialization
  let query ← parenthesized grammar.query
  let origin ← afterKeyword "FROM" ident
  return .mk ⟨cteName, columns⟩ materialized query origin

/-- How many rows are passed over, with the word that may follow. -/
def offset : Parse (List Part) := do
  let amount ← grammar.expr
  let rows := match ← anyKeyword ["ROW", "ROWS"] with
    | some word => " " ++ word
    | none => ""
  return [.words " OFFSET ", .expr amount, .words rows]

/-- The limits of a query, the count printed before the offset. -/
def limits : Parse (List Part) := do
  let early ← if ← keyword "OFFSET" then offset grammar else pure []
  let limit ← if ← keyword "LIMIT" then some <$> limitCount grammar else pure none
  let late ← if early.isEmpty && limit.isSome then
      if ← keyword "OFFSET" then offset grammar else pure []
    else pure []
  return limit.getD [] ++ early ++ late
where
  /-- The count of a limit, nothing if it is unbounded. -/
  limitCount (grammar : Grammar) : Parse (List Part) := do
    if ← keyword "ALL" then return []
    else return [.words " LIMIT ", .expr (← grammar.expr)]

/-- The `FETCH` clause of a query behind its keyword. -/
def fetch : Parse (List Part) := do
  let _ ← anyKeyword ["FIRST", "NEXT"]
  let amount ← match ← anyKeyword ["ROW", "ROWS"] with
    | some _ => pure ""
    | none => do
      let amount ← value
      let percent := if ← keyword "PERCENT" then " PERCENT" else ""
      let _ ← anyKeyword ["ROW", "ROWS"]
      pure (" " ++ amount.text ++ percent)
  let extent ← if ← keyword "ONLY" then pure "ONLY"
    else if ← keywords ["WITH", "TIES"] then pure "WITH TIES"
    else pure "ONLY"
  return [.words (" FETCH FIRST" ++ amount ++ " ROWS " ++ extent)]

/-- A lock on the rows of a query, if one comes next. -/
def rowLock : Parse (Option (List Part)) := do
  unless ← keyword "FOR" do return none
  let strength ← expectAnyKeyword ["UPDATE", "SHARE"]
  let target ← match ← afterKeyword "OF" name with
    | some name => pure (" OF " ++ name.text)
    | none => pure ""
  let waiting ← if ← keyword "NOWAIT" then pure " NOWAIT"
    else if ← keywords ["SKIP", "LOCKED"] then pure " SKIP LOCKED"
    else pure ""
  return some [.words (" FOR " ++ strength ++ target ++ waiting)]

/-- A query, where `change` reads the statement that changes data behind its keyword. -/
def fullQuery (change : String → Parse Statement) : Parse Query := do
  let isWith ← keyword "WITH"
  let recursive ← if isWith then keyword "RECURSIVE" else pure false
  let ctes ← if isWith then commaList (cte grammar) else pure []
  match ← anyKeyword ["INSERT", "UPDATE", "DELETE"] with
  | some word =>
    let statement ← change word
    return .mk recursive ctes (.change statement.parts) [] []
  | none =>
    let body ← queryBody grammar
    let order ← optionalOrder grammar
    let bounds ← limits grammar
    let fetched ← if ← keyword "FETCH" then fetch else pure []
    let locks ← many rowLock
    return .mk recursive ctes body order (bounds ++ fetched ++ locks.flatten)

end Grammar

end ColumnVeil.Sql
