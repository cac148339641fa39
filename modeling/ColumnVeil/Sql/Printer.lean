import ColumnVeil.Sql.Syntax
import ColumnVeil.Sql.Token

/-!
# Statements in print

A statement is printed in one canonical way: keywords in capitals, one blank between words,
`AS` in front of every alias.  Quotation marks inside a quoted text are doubled unless they
are doubled or escaped already, so that a text survives being printed whether or not its
marks were resolved before.
-/

namespace ColumnVeil.Sql

/-- The texts with a separator between any two. -/
def joinWith (separator : String) : List String → String
  | [] => ""
  | first :: rest => rest.foldl (fun text next => text ++ separator ++ next) first

/-- The texts with a comma and a blank between any two. -/
def commaSeparated (texts : List String) : String :=
  joinWith ", " texts

/-- Doubles each mark that is neither doubled nor behind a backslash. -/
def escapeMark (mark previous : Char) : List Char → List Char
  | [] => []
  | character :: next :: rest =>
    if character = mark then
      if previous = '\\' then character :: escapeMark mark previous (next :: rest)
      else if next = mark then character :: next :: escapeMark mark mark rest
      else character :: character :: escapeMark mark mark (next :: rest)
    else character :: escapeMark mark character (next :: rest)
  | [character] =>
    if character = mark ∧ previous ≠ '\\' then [character, character] else [character]

/-- A text between two marks. -/
def quotedWith (mark : Char) (text : String) : String :=
  String.ofList (mark :: escapeMark mark (Char.ofNat 0) text.toList ++ [mark])

/-- The body of an escaped string. -/
def escapeControl : Char → List Char
  | '\'' => ['\\', '\'']
  | '\\' => ['\\', '\\']
  | '\n' => ['\\', 'n']
  | '\t' => ['\\', 't']
  | '\r' => ['\\', 'r']
  | other => [other]

/-- A number in capital hexadecimal digits, filled up with zeros to a width. -/
def capitalHex (width value : Nat) : List Char :=
  let digits := (Nat.toDigits 16 value).map Char.toUpper
  List.replicate (width - digits.length) '0' ++ digits

/-- A character of a string with Unicode escapes. -/
def escapeUnicode (character : Char) : List Char :=
  if character = '\'' then ['\'', '\'']
  else if character = '\\' then ['\\', '\\']
  else if character.toNat < 128 then [character]
  else if character.toNat ≤ 0xFFFF then '\\' :: capitalHex 4 character.toNat
  else '\\' :: '+' :: capitalHex 6 character.toNat

/-- The printed form of an identifier. -/
def Ident.text (ident : Ident) : String :=
  match ident.quote with
  | some mark => quotedWith mark ident.value
  | none => ident.value

/-- The printed form of a dotted name. -/
def Name.text (name : Name) : String :=
  joinWith "." (name.map Ident.text)

/-- The printed form of a constant. -/
def Value.text : Value → String
  | null => "NULL"
  | boolean true => "true"
  | boolean false => "false"
  | number digits long => if long then digits ++ "L" else digits
  | string text => quotedWith '\'' text
  | marked text => quotedWith '"' text
  | escapedString text => "E'" ++ String.ofList (text.toList.flatMap escapeControl) ++ "'"
  | unicodeString text => "U&'" ++ String.ofList (text.toList.flatMap escapeUnicode) ++ "'"
  | nationalString text => "N'" ++ text ++ "'"
  | hexString text => "X'" ++ text ++ "'"
  | bitString text => "B'" ++ text ++ "'"
  | markedBitString text => "B\"" ++ text ++ "\""
  | dollarString label text => Token.dollarQuoted label text
  | placeholder text => text

def BinaryOperator.text : BinaryOperator → String
  | equal => "="
  | notEqual => "<>"
  | and => "AND"
  | or => "OR"
  | other symbol => symbol

/-- An operator applied to a printed operand. -/
def UnaryOperator.apply (operand : String) : UnaryOperator → String
  | minus => "-" ++ operand
  | plus => "+" ++ operand
  | not => "NOT " ++ operand
  | sign symbol apart => if apart then symbol ++ " " ++ operand else symbol ++ operand
  | factorial => operand ++ "!"

/-- The word that a negated predicate has in front of it. -/
def negation (negated : Bool) : String :=
  if negated then "NOT " else ""

def TableAlias.text (aliasName : TableAlias) : String :=
  aliasName.name.text ++ aliasName.columns

/-- An alias behind its relation. -/
def TableAlias.suffix : Option TableAlias → String
  | some aliasName => " AS " ++ aliasName.text
  | none => ""

mutual

def Expr.text : Expr → String
  | .identifier ident => ident.text
  | .compound parts => joinWith "." (parts.map Ident.text)
  | .value value => value.text
  | .binary left operator right => left.text ++ " " ++ operator.text ++ " " ++ right.text
  | .unary operator operand => operator.apply operand.text
  | .nested inner => "(" ++ inner.text ++ ")"
  | .nullTest operand negated => operand.text ++ " IS " ++ negation negated ++ "NULL"
  | .inList operand negated items =>
    operand.text ++ " " ++ negation negated ++ "IN (" ++ commaSeparated (Expr.texts items) ++ ")"
  | .inQuery operand negated body =>
    operand.text ++ " " ++ negation negated ++ "IN (" ++ body.text ++ ")"
  | .between operand negated low high =>
    operand.text ++ " " ++ negation negated ++ "BETWEEN " ++ low.text ++ " AND " ++ high.text
  | .like operand negated word pattern escape =>
    operand.text ++ " " ++ negation negated ++ word ++ " " ++ pattern.text ++
      match escape with
      | some character => " ESCAPE '" ++ character ++ "'"
      | none => ""
  | .array named elements =>
    (if named then "ARRAY[" else "[") ++ commaSeparated (Expr.texts elements) ++ "]"
  | .subquery query => "(" ++ query.text ++ ")"
  | .existence negated query => negation negated ++ "EXISTS (" ++ query.text ++ ")"
  | .call name opening late closing =>
    name.text ++ Part.texts opening ++ Part.texts late ++ Part.texts closing
  | .form parts => Part.texts parts

def Expr.texts : List Expr → List String
  | [] => []
  | expr :: rest => expr.text :: Expr.texts rest

def Part.text : Part → String
  | .words text => text
  | .expr expr => expr.text
  | .query query => query.text
  | .tables tables => tables.text
  | .relation name => name.text

/-- The pieces one behind the other. -/
def Part.texts : List Part → String
  | [] => ""
  | part :: rest => part.text ++ Part.texts rest

def Query.text : Query → String
  | .mk recursive ctes body order tail =>
    (match ctes with
    | [] => ""
    | ctes =>
      "WITH " ++ (if recursive then "RECURSIVE " else "") ++ commaSeparated (Cte.texts ctes) ++ " ")
    ++ body.text
    ++ (match order with
      | [] => ""
      | order => " ORDER BY " ++ commaSeparated (OrderItem.texts order))
    ++ Part.texts tail

def Cte.text : Cte → String
  | .mk aliasName materialized query origin =>
    aliasName.text ++ " AS " ++ materialized ++ "(" ++ query.text ++ ")" ++
      match origin with
      | some ident => " FROM " ++ ident.text
      | none => ""

def Cte.texts : List Cte → List String
  | [] => []
  | cte :: rest => cte.text :: Cte.texts rest

def OrderItem.text : OrderItem → String
  | .mk expr direction => expr.text ++ direction

def OrderItem.texts : List OrderItem → List String
  | [] => []
  | item :: rest => item.text :: OrderItem.texts rest

def QueryBody.text : QueryBody → String
  | .select select => select.text
  | .parenthesized query => "(" ++ query.text ++ ")"
  | .combination left operator right => left.text ++ " " ++ operator ++ " " ++ right.text
  | .values explicitRow rows =>
    "VALUES " ++ commaSeparated (QueryBody.rowTexts (if explicitRow then "ROW" else "") rows)
  | .table name => "TABLE " ++ name
  | .change parts => Part.texts parts

def QueryBody.rowTexts (lead : String) : List (List Expr) → List String
  | [] => []
  | row :: rest =>
    (lead ++ "(" ++ commaSeparated (Expr.texts row) ++ ")") :: QueryBody.rowTexts lead rest

def Select.text : Select → String
  | .mk lead projection target relations views condition groups grouping having tail =>
    "SELECT" ++ Part.texts lead
    ++ (match projection with
      | [] => ""
      | projection => " " ++ commaSeparated (SelectItem.texts projection))
    ++ target
    ++ (match relations with
      | [] => ""
      | relations => " FROM " ++ commaSeparated (TableWithJoins.texts relations))
    ++ Part.texts views
    ++ (match condition with
      | some condition => " WHERE " ++ condition.text
      | none => "")
    ++ (match groups with
      | [] => ""
      | groups => " GROUP BY " ++ commaSeparated (Expr.texts groups))
    ++ Part.texts grouping
    ++ (match having with
      | some having => " HAVING " ++ having.text
      | none => "")
    ++ Part.texts tail

def SelectItem.text : SelectItem → String
  | .expr expr => expr.text
  | .aliased expr aliasName => expr.text ++ " AS " ++ aliasName.text
  | .wildcard [] => "*"
  | .wildcard qualifier => qualifier.text ++ ".*"

def SelectItem.texts : List SelectItem → List String
  | [] => []
  | item :: rest => item.text :: SelectItem.texts rest

def TableWithJoins.text : TableWithJoins → String
  | .mk relation joins => relation.text ++ Join.texts joins

def TableWithJoins.texts : List TableWithJoins → List String
  | [] => []
  | tables :: rest => tables.text :: TableWithJoins.texts rest

def Join.text : Join → String
  | .mk words relation matching constraint =>
    " " ++ words ++ " " ++ relation.text ++ Part.texts matching ++ constraint.text

def Join.texts : List Join → String
  | [] => ""
  | join :: rest => join.text ++ Join.texts rest

def JoinConstraint.text : JoinConstraint → String
  | .on condition => " ON " ++ condition.text
  | .sharing columns => " USING(" ++ commaSeparated (columns.map Name.text) ++ ")"
  | .none => ""
  | .natural => ""

def TableFactor.text : TableFactor → String
  | .table name arguments aliasName tail =>
    name.text ++ Part.texts arguments ++ TableAlias.suffix aliasName ++ Part.texts tail
  | .derived isLateral query aliasName =>
    (if isLateral then "LATERAL " else "") ++ "(" ++ query.text ++ ")" ++ TableAlias.suffix aliasName
  | .nestedJoin inner aliasName => "(" ++ inner.text ++ ")" ++ TableAlias.suffix aliasName
  | .function parts aliasName tail => Part.texts parts ++ TableAlias.suffix aliasName ++ tail

end

namespace Part

/-- Several lists of pieces with a comma and a blank between any two. -/
def commas : List (List Part) → List Part
  | [] => []
  | [parts] => parts
  | parts :: rest => parts ++ .words ", " :: commas rest

end Part

/-- The pieces of a projection item. -/
def SelectItem.parts : SelectItem → List Part
  | .expr item => [.expr item]
  | .aliased item aliasName => [.expr item, .words (" AS " ++ aliasName.text)]
  | .wildcard qualifier => [.words (SelectItem.wildcard qualifier).text]

/-- A `RETURNING` clause, if there is one. -/
def returningParts : Option (List SelectItem) → List Part
  | some items => .words " RETURNING " :: Part.commas (items.map SelectItem.parts)
  | none => []

/-- A condition behind its keyword, if there is one. -/
def conditionParts : Option Expr → List Part
  | some condition => [.words " WHERE ", .expr condition]
  | none => []

/-- Relations behind a keyword. -/
def relationParts (keyword : String) (relations : List TableWithJoins) : List Part :=
  .words keyword :: Part.commas (relations.map fun tables => [.tables tables])

def AssignmentTarget.text : AssignmentTarget → String
  | .column name => name.text
  | .tuple names => "(" ++ commaSeparated (names.map Name.text) ++ ")"

def Assignment.parts (assignment : Assignment) : List Part :=
  [.words (assignment.target.text ++ " = "), .expr assignment.value]

def ConflictRule.parts : ConflictRule → List Part
  | .none => []
  | .words text => [.words text]
  | .assign lead assignments condition =>
    .words lead :: Part.commas (assignments.map Assignment.parts) ++ conditionParts condition

def Insert.parts (insert : Insert) : List Part :=
  .words (insert.words ++ " ") :: .relation insert.table
    :: .words ((insert.aliasName.map fun aliasName => " AS " ++ aliasName.text).getD "" ++ " ")
    :: (match insert.columns with
      | [] => []
      | columns => [.words ("(" ++ commaSeparated (columns.map Ident.text) ++ ") ")])
    ++ insert.partition
    ++ (match insert.source with
      | some source => [.query source]
      | none => match insert.columns with
        | [] => [.words "DEFAULT VALUES"]
        | _ => [])
    ++ insert.conflict.parts
    ++ returningParts insert.returning

def Update.parts (update : Update) : List Part :=
  .words (update.words ++ " ") :: .tables update.table
    :: (match update.relations with
      | some (true, relations) => relationParts " FROM " relations
      | _ => [])
    ++ .words " SET " :: Part.commas (update.assignments.map Assignment.parts)
    ++ (match update.relations with
      | some (false, relations) => relationParts " FROM " relations
      | _ => [])
    ++ conditionParts update.condition
    ++ returningParts update.returning

def Delete.parts (delete : Delete) : List Part :=
  relationParts (delete.words ++ " FROM ") delete.relations
    ++ (match delete.further with
      | some relations => relationParts " USING " relations
      | none => [])
    ++ conditionParts delete.condition
    ++ returningParts delete.returning
    ++ delete.tail

namespace Statement

/-- The pieces of a statement. -/
def parts : Statement → List Part
  | .query body => [.query body]
  | .insert change => change.parts
  | .update change => change.parts
  | .delete change => change.parts
  | .explain words statement => .words words :: statement.parts
  | .definition pieces => pieces
  | .utility pieces => pieces

/-- The printed form of a statement. -/
def text (statement : Statement) : String :=
  Part.texts statement.parts

end Statement

/-- The printed form of a list of statements. -/
def printStatements (statements : List Statement) : String :=
  joinWith "; " (statements.map Statement.text)

end ColumnVeil.Sql
