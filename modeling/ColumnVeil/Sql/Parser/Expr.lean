import ColumnVeil.Sql.Parser.Query

/-!
# Reading expressions

Operators bind by precedence: an expression is an operand followed by every operator that
binds more strongly than what surrounds it.  A word may begin a construct of its own, such
as `CASE`; where that construct does not follow, the word is a name like any other.
-/

namespace ColumnVeil.Sql

open Parse

namespace Precedence

def bracket : Nat := 130
def cast : Nat := 140
def period : Nat := 200
def collation : Nat := 120
def timeZone : Nat := 110
def power : Nat := 100
def product : Nat := 90
def sum : Nat := 80
def exclusiveOr : Nat := 75
/-- Every operator that has no rank of its own. -/
def otherOperator : Nat := 70
def between : Nat := 60
def comparison : Nat := 50
def is : Nat := 40
def not : Nat := 30
def and : Nat := 20
def or : Nat := 10

/-- The symbols of comparison. -/
def comparisons : List String :=
  [":=", "=", "==", "<", "<=", "<>", ">", ">=", "~", "~*", "!~", "!~*", "~~", "~~*", "!~~",
    "!~~*", "<=>"]

/-- The symbols that have the rank of other operators. -/
def otherSymbols : List String :=
  ["->", "->>", "#>", "#>>", "@>", "<@", "#-", "@?", "@@", "?", "?&", "?|", "!", "&&", "^@",
    "||", "#", ">>", "<<", "|", "?-", "##", "&<", "&>", "?-|", "&<|", "|&>", "<->", "<^", ">^",
    "?#", "?||", "<<|", "|>>", "~=", "&"]

/-- How strongly a symbol binds as an operator; zero if it is none. -/
def ofSymbol (symbol : String) : Nat :=
  if comparisons.contains symbol then comparison
  else if otherSymbols.contains symbol then otherOperator
  else match symbol with
    | "." => period
    | "::" => cast
    | "[" => bracket
    | "^" => power
    | "*" | "/" | "%" => product
    | "+" | "-" => sum
    | _ => 0

/-- How strongly a keyword binds as an operator, given the two that follow it. -/
def ofKeyword (keyword : String) (second third : Option String) : Nat :=
  match keyword with
  | "OR" => or
  | "AND" => and
  | "XOR" => exclusiveOr
  | "IS" => is
  | "IN" | "BETWEEN" | "LIKE" | "ILIKE" | "SIMILAR" | "REGEXP" | "RLIKE" | "OVERLAPS"
  | "OPERATOR" => between
  | "NOT" =>
    if (["IN", "BETWEEN", "LIKE", "ILIKE", "SIMILAR", "REGEXP", "RLIKE"].map some).contains second
    then between else 0
  | "AT" => if second = some "TIME" ∧ third = some "ZONE" then timeZone else 0
  | "COLLATE" => collation
  | "DIV" => product
  | _ => 0

/-- How strongly the operator at the head of the tokens binds; zero if there is none. -/
def next : Tokens → Nat
  | [] => 0
  | first :: rest => match first.token, first.keyword with
    | .symbol symbol, _ => ofSymbol symbol
    | .customOperator _, _ => otherOperator
    | _, some keyword =>
      ofKeyword keyword (rest.head?.bind Located.keyword) (rest[1]?.bind Located.keyword)
    | _, none => 0

end Precedence

/-- A binary operator by its symbol. -/
def BinaryOperator.ofSymbol : String → BinaryOperator
  | "=" | "==" => .equal
  | "<>" => .notEqual
  | symbol => .other symbol

/-- Whether an operator compares, so that it may be applied to every element of a list. -/
def BinaryOperator.compares : BinaryOperator → Bool
  | equal | notEqual => true
  | other symbol =>
    [">", "<", ">=", "<=", "~", "~*", "!~", "!~*", "~~", "~~*", "!~~", "!~~*"].contains symbol
  | _ => false

/-- A step from a value into one of its parts. -/
inductive Access
  | dot (expr : Expr)
  | subscript (parts : List Part)

namespace Access

/-- The identifier that a step names, if it is one. -/
def ident? : Access → Option Ident
  | dot (.identifier ident) => some ident
  | _ => none

def parts : Access → List Part
  | dot expr => [.words ".", .expr expr]
  | subscript parts => .words "[" :: parts ++ [.words "]"]

/-- The identifiers of a value and of the steps into it, if all of them are identifiers. -/
def idents? (root : Expr) (chain : List Access) : Option (List Ident) :=
  match root with
  | .identifier ident => (ident :: ·) <$> chain.mapM ident?
  | _ => none

/-- A call by a qualified name, if the last step is a call and all before it identifiers. -/
def qualifiedCall? (root : Expr) (chain : List Access) : Option Expr :=
  match chain.getLast? with
  | some (.dot (.call name opening late closing)) => do
    let qualifier ← idents? root chain.dropLast
    return .call (qualifier ++ name) opening late closing
  | _ => none

/-- A value with steps into it as one expression. -/
def build (root : Expr) (chain : List Access) : Expr :=
  if chain.isEmpty then root
  else match idents? root chain with
    | some idents => .compound idents
    | none => (qualifiedCall? root chain).getD (.form (.expr root :: chain.flatMap parts))

end Access

namespace Grammar

variable (grammar : Grammar)

/-- A subscript behind its opening bracket: an index, or the bounds of a slice. -/
def subscript : Parse (List Part) := do
  let lower ← if ← symbol ":" then pure none else some <$> grammar.expr
  let lowerParts := (lower.map fun expr => [Part.expr expr]).getD []
  if ← symbol "]" then
    return if lower.isSome then lowerParts else [.words ":"]
  if lower.isSome then expectSymbol ":"
  let lowerParts := lowerParts ++ [.words ":"]
  if ← symbol "]" then return lowerParts
  let upper ← grammar.expr
  let upperParts := lowerParts ++ [.expr upper]
  if ← symbol "]" then return upperParts
  expectSymbol ":"
  if ← symbol "]" then return upperParts
  let stride ← grammar.expr
  expectSymbol "]"
  return upperParts ++ [.words ":", .expr stride]

/-- The steps into a value, and whether a star ends them. -/
def accessFrom (before : List Access) : (fuel : Tokens) → Parse (List Access × Bool)
  | [] => return (before, false)
  | _ :: fuel => do
    if ← symbol "." then
      match (← peek).map Located.token with
      | some (.symbol "*") =>
        let _ ← next
        return (before, true)
      | some (.string .plain text) =>
        let _ ← next
        accessFrom (before ++ [.dot (.identifier ⟨text, some '\''⟩)]) fuel
      | _ => match ← grammar.subexpr Precedence.period with
        | .compound idents =>
          accessFrom (before ++ idents.map fun ident => .dot (.identifier ident)) fuel
        | expr => accessFrom (before ++ [.dot expr]) fuel
    else if ← symbol "[" then
      let parts ← subscript grammar
      accessFrom (before ++ [.subscript parts]) fuel
    else return (before, false)

/-- A value with the steps into it that follow. -/
def compound (root : Expr) : Parse Expr := do
  match ← accessFrom grammar [] (← get) with
  | (chain, false) => return Access.build root chain
  | (chain, true) => match Access.idents? root chain with
    | some idents => return .form [.words (Name.text idents ++ ".*")]
    | none => expected "an identifier or a '*' after '.'"

/-- What an aggregate does about nulls in its input, in print. -/
def jsonNulls : Parse (Option String) := do
  if ← keywords ["ABSENT", "ON", "NULL"] then return some "ABSENT ON NULL"
  else if ← keywords ["NULL", "ON", "NULL"] then return some "NULL ON NULL"
  else return none

/-- The arguments of a call behind the opening parenthesis, with the clauses among them and
the closing parenthesis. -/
def callArguments : Parse (List Part) := do
  let early ← jsonNulls
  if ← symbol ")" then return [.words (early.getD "" ++ ")")]
  let place := (← peek).map Located.place
  let all ← keyword "ALL"
  let distinct ← keyword "DISTINCT"
  if all && distinct then refuse "Cannot specify both ALL and DISTINCT" place
  let lead := if all then [Part.words "ALL "] else if distinct then [.words "DISTINCT "] else []
  let arguments ← commaList (functionArgument grammar)
  let order ← optionalOrder grammar
  let orderClause : List (List Part) :=
    if order.isEmpty then [] else [.words "ORDER BY " :: orderParts order]
  let limit ← afterKeyword "LIMIT" grammar.expr
  let limitClause : List (List Part) := match limit with
    | some count => [[.words "LIMIT ", .expr count]]
    | none => []
  let late ← jsonNulls
  let nullClause (text : Option String) : List (List Part) :=
    match text with
    | some text => [[.words text]]
    | none => []
  expectSymbol ")"
  let clauses := nullClause early ++ orderClause ++ limitClause ++ nullClause late
  return lead ++ Part.commas arguments ++ clauses.flatMap (fun clause => .words " " :: clause)
    ++ [.words ")"]

/-- A call by a name, from its opening parenthesis. -/
def call (name : Name) : Parse Expr := do
  expectSymbol "("
  let opening ← callArguments grammar
  let within : List Part ← if ← keywords ["WITHIN", "GROUP"] then do
      expectSymbol "("
      expectKeywords ["ORDER", "BY"]
      let items ← commaList (orderItem grammar)
      expectSymbol ")"
      pure (.words " WITHIN GROUP (ORDER BY " :: orderParts items ++ [.words ")"])
    else pure []
  let filtered ← if ← keyword "FILTER" then
      if ← symbol "(" then keyword "WHERE" else pure false
    else pure false
  let filter : List Part ← if filtered then do
      let condition ← grammar.expr
      expectSymbol ")"
      pure [.words " FILTER (WHERE ", .expr condition, .words ")"]
    else pure []
  let nulls : List Part ← match ← anyKeyword ["RESPECT", "IGNORE"] with
    | some word => do
      expectKeyword "NULLS"
      pure [.words (" " ++ word ++ " NULLS")]
    | none => pure []
  let windowed : List Part ← if ← keyword "OVER" then do
      if ← symbol "(" then
        let spec ← windowSpec grammar
        pure (.words " OVER (" :: spec ++ [.words ")"])
      else pure [.words (" OVER " ++ (← ident).text)]
    else pure []
  return .call name (.words "(" :: opening) within (filter ++ nulls ++ windowed)

/-- A call whose arguments may be left out with their parentheses. -/
def timeCall (name : Name) : Parse Expr := do
  if ← symbol "(" then return .call name (.words "(" :: (← callArguments grammar)) [] []
  else return .call name [] [] []

/-- The branches of a case distinction behind the first `WHEN`. -/
def caseBranch : Parse (List Part) := do
  let condition ← grammar.expr
  expectKeyword "THEN"
  let result ← grammar.expr
  return [.words " WHEN ", .expr condition, .words " THEN ", .expr result]

/-- A case distinction behind its keyword. -/
def caseExpr : Parse Expr := do
  let subject : List Part ← if ← keyword "WHEN" then pure [] else do
    let subject ← grammar.expr
    expectKeyword "WHEN"
    pure [.words " ", .expr subject]
  let first ← caseBranch grammar
  let rest ← many (do
    if ← keyword "WHEN" then return some (← caseBranch grammar) else return none)
  let otherwise : List Part ← match ← afterKeyword "ELSE" grammar.expr with
    | some result => pure [.words " ELSE ", .expr result]
    | none => pure []
  expectKeyword "END"
  return .form (.words "CASE" :: subject ++ first ++ rest.flatten ++ otherwise ++ [.words " END"])

/-- A conversion to a type behind its keyword. -/
def castExpr (word : String) : Parse Expr := do
  expectSymbol "("
  let expr ← grammar.expr
  expectKeyword "AS"
  let type ← dataTypeText
  let format ← match ← afterKeyword "FORMAT" value with
    | some format => do
      if ← keywords ["AT", "TIME", "ZONE"] then
        pure (" FORMAT " ++ format.text ++ " AT TIME ZONE " ++ (← value).text)
      else pure (" FORMAT " ++ format.text)
    | none => pure ""
  expectSymbol ")"
  return .form [.words (word ++ "("), .expr expr, .words (" AS " ++ type ++ format ++ ")")]

/-- A conversion between character sets or types behind its keyword. -/
def convertExpr : Parse Expr := do
  expectSymbol "("
  let expr ← grammar.expr
  if ← keyword "USING" then
    let charset ← name
    expectSymbol ")"
    return .form [.words "CONVERT(", .expr expr, .words (" USING " ++ charset.text ++ ")")]
  expectSymbol ","
  let type ← dataTypeText
  let charset ← if ← keywords ["CHARACTER", "SET"] then do
      pure (" CHARACTER SET " ++ (← name).text)
    else pure ""
  expectSymbol ")"
  return .form [.words "CONVERT(", .expr expr, .words (", " ++ type ++ charset ++ ")")]

/-- A query that is asked whether it has rows, behind the keyword. -/
def existenceExpr (negated : Bool) : Parse Expr := do
  return .existence negated (← parenthesized grammar.query)

/-- A field taken out of a date or time, behind the keyword. -/
def extractExpr : Parse Expr := do
  expectSymbol "("
  let field ← dateTimeField
  unless ← keyword "FROM" do
    let _ ← symbol ","
    refuse "Expected 'FROM' or ','"
  let expr ← grammar.expr
  expectSymbol ")"
  return .form [.words ("EXTRACT(" ++ field ++ " FROM "), .expr expr, .words ")"]

/-- A rounding to whole numbers, to a unit of time or to a scale, behind the keyword. -/
def roundingExpr (word : String) : Parse Expr := do
  expectSymbol "("
  let expr ← grammar.expr
  let detail ← if ← keyword "TO" then do
      pure (" TO " ++ (← dateTimeField))
    else if ← symbol "," then do
      match ← value with
      | .number digits long => pure (", " ++ (Value.number digits long).text)
      | _ => refuse "Scale field can only be of number type"
    else pure ""
  expectSymbol ")"
  return .form [.words (word ++ "("), .expr expr, .words (detail ++ ")")]

/-- The position of one text in another, behind the keyword. -/
def positionExpr (word : Ident) : Parse Expr := do
  let special ← attempt (parenthesized (do
    let part ← grammar.subexpr Precedence.between
    expectKeyword "IN"
    let whole ← grammar.expr
    return (part, whole)))
  match special with
  | some (part, whole) =>
    return .form [.words "POSITION(", .expr part, .words " IN ", .expr whole, .words ")"]
  | none => call grammar [word]

/-- A part of a text, behind the keyword. -/
def substringExpr (word : String) : Parse Expr := do
  expectSymbol "("
  let expr ← grammar.expr
  let special ← symbol ","
  let starts ← if special then pure true else keyword "FROM"
  let start ← if starts then some <$> grammar.expr else pure none
  let stops ← if ← keyword "FOR" then pure true else symbol ","
  let stop ← if stops then some <$> grammar.expr else pure none
  expectSymbol ")"
  let piece (lead : String) (operand : Option Expr) : List Part :=
    match operand with
    | some operand => [.words (if special then ", " else lead), .expr operand]
    | none => []
  return .form (.words (word ++ "(") :: .expr expr :: piece " FROM " start ++ piece " FOR " stop
    ++ [.words ")"])

/-- A text with a part of it replaced, behind the keyword. -/
def overlayExpr : Parse Expr := do
  expectSymbol "("
  let expr ← grammar.expr
  expectKeyword "PLACING"
  let what ← grammar.expr
  expectKeyword "FROM"
  let start ← grammar.expr
  let length : List Part ← match ← afterKeyword "FOR" grammar.expr with
    | some length => pure [.words " FOR ", .expr length]
    | none => pure []
  expectSymbol ")"
  return .form ([.words "OVERLAY(", .expr expr, .words " PLACING ", .expr what, .words " FROM ",
    .expr start] ++ length ++ [.words ")"])

/-- A text without certain characters at its ends, behind the keyword.  The text is looked
at before the characters, though it is printed behind them. -/
def trimExpr : Parse Expr := do
  expectSymbol "("
  let side := match ← anyKeyword ["BOTH", "LEADING", "TRAILING"] with
    | some side => side ++ " "
    | none => ""
  let first ← grammar.expr
  let trimName : Name := [⟨"TRIM", none⟩]
  if ← keyword "FROM" then
    let expr ← grammar.expr
    expectSymbol ")"
    return .call trimName [.words ("(" ++ side)] [.expr first]
      [.words " FROM ", .expr expr, .words ")"]
  else
    let _ ← symbol ","
    expectSymbol ")"
    return .call trimName [.words ("(" ++ side), .expr first, .words ")"] [] []

/-- The elements of an array behind its opening bracket. -/
def arrayExpr (named : Bool) : Parse Expr := do
  let elements ← commaListBefore "]" grammar.expr
  expectSymbol "]"
  return .array named elements

/-- An interval behind its keyword. -/
def intervalExpr (operand : Parse Expr) : Parse Expr := do
  let amount ← operand
  return .form [.words "INTERVAL ", .expr amount, .words (← intervalQualifier)]

/-- A constant with the name of its type in front. -/
def typedConstant (operand : Parse Expr) : Parse Expr := do
  let type ← dataType
  match type.kind with
  | .interval => intervalExpr operand
  | .custom => refuse "no constant of this type"
  | .standard => return .form [.words (type.text ++ " " ++ (← value).text)]

/-- A geometric constant behind the name of its type. -/
def geometricConstant (type : String) : Parse Expr := do
  return .form [.words (type ++ " " ++ (← value).text)]

/-- A negation behind its keyword. -/
def notExpr : Parse Expr := do
  if ← keyword "EXISTS" then existenceExpr grammar true
  else return .unary .not (← grammar.subexpr Precedence.not)

/-- The construct that a keyword begins, if it begins one. -/
def reservedWord (operand : Parse Expr) (word : Ident) (keyword : String) :
    Parse (Option Expr) := do
  match keyword with
  | "TRUE" => return some (.value (.boolean true))
  | "FALSE" => return some (.value (.boolean false))
  | "NULL" => return some (.value .null)
  | "CURRENT_CATALOG" | "CURRENT_USER" | "SESSION_USER" | "USER" =>
    return some (.call [word] [] [] [])
  | "CURRENT_TIMESTAMP" | "CURRENT_TIME" | "CURRENT_DATE" | "LOCALTIME" | "LOCALTIMESTAMP" =>
    some <$> timeCall grammar [word]
  | "CASE" => some <$> caseExpr grammar
  | "CONVERT" => some <$> convertExpr grammar
  | "CAST" | "TRY_CAST" | "SAFE_CAST" => some <$> castExpr grammar keyword
  | "EXISTS" => some <$> existenceExpr grammar false
  | "EXTRACT" => some <$> extractExpr grammar
  | "CEIL" | "FLOOR" => some <$> roundingExpr grammar keyword
  | "POSITION" => if ← atSymbol "(" then some <$> positionExpr grammar word else return none
  | "SUBSTR" | "SUBSTRING" => some <$> substringExpr grammar keyword
  | "OVERLAY" => some <$> overlayExpr grammar
  | "TRIM" => some <$> trimExpr grammar
  | "INTERVAL" => some <$> intervalExpr operand
  | "ARRAY" =>
    if ← symbol "[" then some <$> arrayExpr grammar true
    else if ← symbol "(" then
      let query ← grammar.query
      expectSymbol ")"
      return some (.call [word] [.words "(", .query query, .words ")"] [] [])
    else return none
  | "NOT" => some <$> notExpr grammar
  | "CIRCLE" | "BOX" | "PATH" | "LINE" | "LSEG" | "POINT" | "POLYGON" =>
    some <$> geometricConstant keyword
  | _ => return none

/-- What a word stands for that begins no construct: a call or a name. -/
def plainWord (word : Ident) : Parse Expr := do
  match (← peek).map Located.token with
  | some (.symbol "(") => call grammar [word]
  | some (.string .plain text) =>
    if word.value.startsWith "_" then
      let _ ← next
      return .form [.words (word.text ++ " " ++ (Value.string text).text)]
    else return .identifier word
  | some (.string .hexadecimal text) =>
    if word.value.startsWith "_" then
      let _ ← next
      return .form [.words (word.text ++ " " ++ (Value.hexString text).text)]
    else return .identifier word
  | _ => return .identifier word

/-- The keywords that stay keywords where their construct does not follow. -/
def strictWords : List String := ["EXISTS", "STRUCT", "TRIM"]

/-- An expression that begins with a word, and whether it may be followed by a collation. -/
def wordExpr (operand : Parse Expr) (word : Ident) (keyword : Option String) :
    Parse (Expr × Bool) := fun tokens =>
  let plain : Parse (Expr × Bool) := do return (← plainWord grammar word, true)
  match keyword with
  | none => plain tokens
  | some keyword => match reservedWord grammar operand word keyword tokens with
    | .ok (some expr, rest) => .ok ((expr, true), rest)
    | .ok (none, _) => plain tokens
    | .error fault =>
      if strictWords.contains keyword then .error fault
      else match attempt (plainWord grammar word) tokens with
        | .ok (some expr, rest) => .ok ((expr, false), rest)
        | _ => .error fault

/-- The construct between parentheses, behind the opening one. -/
def parenthesisExpr : Parse Expr := do
  let expr ← if ← atAnyKeyword ["SELECT", "WITH"] then .subquery <$> grammar.query
    else do
      match ← commaList grammar.expr with
      | [inner] => pure (.nested inner)
      | items =>
        let inner := Part.commas (items.map fun item => [.expr item])
        pure (.form (.words "(" :: inner ++ [.words ")"]))
  expectSymbol ")"
  return expr

/-- An operand other than a typed constant, and whether it may be followed by a collation. -/
def operandHead (operand : Parse Expr) : Parse (Expr × Bool) := do
  let start ← get
  let found ← next
  let signed (operator : UnaryOperator) (precedence : Nat) : Parse (Expr × Bool) := do
    return (.unary operator (← grammar.subexpr precedence), true)
  match found.map Located.token with
  | some (.word text quoted) =>
    wordExpr grammar operand ⟨text, if quoted then some '"' else none⟩
      (found.bind Located.keyword)
  | some (.symbol "[") => return (← arrayExpr grammar false, true)
  | some (.symbol "-") => signed .minus Precedence.product
  | some (.symbol "+") => signed .plus Precedence.product
  | some (.symbol "(") => return (← parenthesisExpr grammar, true)
  | some (.symbol ":") =>
    set start
    return (.value (← value), true)
  | some (.symbol sign) =>
    if ["!!", "|/", "||/", "@", "~"].contains sign then
      signed (.sign sign false) Precedence.sum
    else if ["#", "@-@", "@@", "?-", "?|"].contains sign then
      signed (.sign sign true) Precedence.sum
    else expectedAt found "an expression"
  | some (.number ..) | some (.string ..) | some (.dollarString ..) | some (.placeholder _) =>
    set start
    return (.value (← value), true)
  | _ => expectedAt found "an expression"

/-- An operand, nested in others without parentheses at most as deeply as there are
tokens. -/
def operandWithin : (fuel : Tokens) → Parse Expr
  | [] => expected "an expression"
  | _ :: fuel => do
    let operand := operandWithin fuel
    match ← attempt (typedConstant operand) with
    | some expr => return expr
    | none =>
      let (expr, collates) ← operandHead grammar operand
      if collates && (← keyword "COLLATE") then
        return .form [.expr expr, .words (" COLLATE " ++ (← name).text)]
      else return expr

/-- What a membership test is about, behind the keyword. -/
def membership (left : Expr) (negated : Bool) : Parse Expr := do
  if ← keyword "UNNEST" then
    let elements ← parenthesized grammar.expr
    return .form [.expr left, .words (" " ++ negation negated ++ "IN UNNEST("), .expr elements,
      .words ")"]
  expectSymbol "("
  let expr ← match ← attempt (queryBody grammar) with
    | some body => pure (.inQuery left negated body)
    | none => do
      let items ← commaList grammar.expr
      pure (.inList left negated items)
  expectSymbol ")"
  return expr

/-- The escape character of a pattern, if one is given. -/
def patternEscape : Parse (Option String) :=
  afterKeyword "ESCAPE" literalString

/-- A predicate behind its operand and perhaps a negation. -/
def predicate (left : Expr) : Parse Expr := do
  let negated ← keyword "NOT"
  let regexp ← keyword "REGEXP"
  let rlike ← keyword "RLIKE"
  let pattern : Parse Expr := grammar.subexpr Precedence.between
  let likeWord (word : String) : Parse Expr := do
    let word := if ← keyword "ANY" then word ++ " ANY" else word
    let pattern ← pattern
    return .like left negated word pattern (← patternEscape)
  if regexp || rlike then
    let word := if regexp then "REGEXP " else "RLIKE "
    return .form [.expr left, .words (" " ++ negation negated ++ word), .expr (← pattern)]
  else if ← keyword "IN" then membership grammar left negated
  else if ← keyword "BETWEEN" then
    let low ← pattern
    expectKeyword "AND"
    return .between left negated low (← pattern)
  else if ← keyword "LIKE" then likeWord "LIKE"
  else if ← keyword "ILIKE" then likeWord "ILIKE"
  else if ← keywords ["SIMILAR", "TO"] then
    let pattern ← pattern
    let escape := match ← patternEscape with
      | some character => " ESCAPE '" ++ character ++ "'"
      | none => ""
    return .form [.expr left, .words (" " ++ negation negated ++ "SIMILAR TO "), .expr pattern,
      .words escape]
  else expected "IN or BETWEEN after NOT"

/-- A test behind the keyword `IS`. -/
def isTest (left : Expr) : Parse Expr := do
  let worded (text : String) : Expr := .form [.expr left, .words (" IS " ++ text)]
  let compared (text : String) : Parse Expr := do
    return .form [.expr left, .words (" IS " ++ text ++ " "), .expr (← grammar.expr)]
  if ← keyword "NULL" then return .nullTest left false
  else if ← keywords ["NOT", "NULL"] then return .nullTest left true
  else if ← keyword "TRUE" then return worded "TRUE"
  else if ← keywords ["NOT", "TRUE"] then return worded "NOT TRUE"
  else if ← keyword "FALSE" then return worded "FALSE"
  else if ← keywords ["NOT", "FALSE"] then return worded "NOT FALSE"
  else if ← keyword "UNKNOWN" then return worded "UNKNOWN"
  else if ← keywords ["NOT", "UNKNOWN"] then return worded "NOT UNKNOWN"
  else if ← keywords ["DISTINCT", "FROM"] then compared "DISTINCT FROM"
  else if ← keywords ["NOT", "DISTINCT", "FROM"] then compared "NOT DISTINCT FROM"
  else
    let negated ← keyword "NOT"
    let form := match ← anyKeyword ["NFC", "NFD", "NFKC", "NFKD"] with
      | some form => form ++ " "
      | none => ""
    if ← keyword "NORMALIZED" then return worded (negation negated ++ form ++ "NORMALIZED")
    else expected "[NOT] NULL | TRUE | FALSE | DISTINCT | [form] NORMALIZED FROM after IS"

/-- The name of an operator between parentheses, in print. -/
def operatorName : Parse String := do
  expectSymbol "("
  let part : Parse String := do
    return ((← next).map fun found => found.token.text).getD "EOF"
  let first ← part
  let rest ← many (do if ← symbol "." then return some (← part) else return none)
  expectSymbol ")"
  return "OPERATOR(" ++ joinWith "." (first :: rest) ++ ")"

/-- An operator applied to an operand before it and one behind, or to every element of a
list behind. -/
def applied (left : Expr) (operator : BinaryOperator) (precedence : Nat) (place : Place) :
    Parse Expr := do
  match ← anyKeyword ["ANY", "ALL", "SOME"] with
  | none => return .binary left operator (← grammar.subexpr precedence)
  | some word =>
    let start ← get
    expectSymbol "("
    let (right, enclosed) ← if ← atAnyKeyword ["SELECT", "WITH"] then do
        set start
        let right ← grammar.subexpr precedence
        pure (right, match right with
          | .subquery _ => false
          | _ => true)
      else do
        let right ← grammar.subexpr precedence
        expectSymbol ")"
        pure (right, match right with
          | .subquery _ => false
          | _ => true)
    unless operator.compares do
      refuse ("Expected one of [=, >, <, =>, =<, !=, ~, ~*, !~, !~*, ~~, ~~*, !~~, !~~*] as " ++
        "comparison operator, found: " ++ operator.text) place
    return .form [.expr left,
      .words (" " ++ operator.text ++ " " ++ word ++ if enclosed then "(" else ""),
      .expr right, .words (if enclosed then ")" else "")]

/-- An operator and what follows it, behind its left operand. -/
def infixExpr (left : Expr) (precedence : Nat) : Parse Expr := do
  let start ← get
  match ← next with
  | none => return left
  | some found =>
    let noOperator (spelled : String) : Parse Expr :=
      refuse ("No infix parser for token " ++ spelled) found.place
    match found.token, found.keyword with
    | .symbol "::", _ =>
      return .form [.expr left, .words ("::" ++ (← dataTypeText))]
    | .symbol "!", _ => return .unary .factorial left
    | .symbol "[", _ => noOperator "LBracket"
    | .symbol symbol, _ => applied grammar left (.ofSymbol symbol) precedence found.place
    | .customOperator symbol, _ => applied grammar left (.other symbol) precedence found.place
    | _, some "AND" => applied grammar left .and precedence found.place
    | _, some "OR" => applied grammar left .or precedence found.place
    | _, some "XOR" => applied grammar left (.other "XOR") precedence found.place
    | _, some "OVERLAPS" => applied grammar left (.other "OVERLAPS") precedence found.place
    | _, some "OPERATOR" =>
      let operator ← operatorName
      applied grammar left (.other operator) precedence found.place
    | _, some "IS" => isTest grammar left
    | _, some "AT" =>
      expectKeywords ["TIME", "ZONE"]
      return .form [.expr left, .words " AT TIME ZONE ", .expr (← grammar.subexpr precedence)]
    | .word text _, some keyword =>
      if ["COLLATE", "DIV"].contains keyword then
        noOperator ("Word(Word \x7b value: \"" ++ text ++ "\", quote_style: None, keyword: " ++
          keyword ++ " \x7d)")
      else
        set start
        predicate grammar left
    | _, _ => return left

/-- Every operator that follows an operand and binds more strongly than a precedence. -/
def operatorsFrom (precedence : Nat) (left : Expr) : (fuel : Tokens) → Parse Expr
  | [] => return left
  | _ :: fuel => do
    let tokens ← get
    let binding := Precedence.next tokens
    if binding ≤ precedence || tokens.head?.map Located.token = some (.symbol ".") then
      return left
    let expr ← infixExpr grammar left binding
    operatorsFrom precedence expr fuel

/-- An expression whose operators bind more strongly than a precedence. -/
def exprAbove (precedence : Nat) : Parse Expr := do
  let tokens ← get
  let head ← operandWithin grammar tokens
  let operand ← compound grammar head
  operatorsFrom grammar precedence operand tokens

end Grammar

end ColumnVeil.Sql
