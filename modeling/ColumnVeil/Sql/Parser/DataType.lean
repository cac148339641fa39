import ColumnVeil.Sql.Parser.Name

/-!
# Reading type names

A type is kept in its printed form.  What decides how a text in front of a string constant
is read is only whether it names an interval, a type of the language, or something that an
extension may have defined.
-/

namespace ColumnVeil.Sql

open Parse

/-- What kind of type a name denotes. -/
inductive TypeKind
  | interval
  | standard
  | custom
deriving DecidableEq, Repr

/-- A type as it is printed. -/
structure DataType where
  kind : TypeKind
  text : String

/-- What may stand in parentheses behind the name of a type. -/
inductive TypeArguments
  | none
  /-- One number. -/
  | precision
  /-- One number, and after it perhaps `UNSIGNED`. -/
  | width
  /-- A number of characters, or `MAX`. -/
  | length
  /-- One or two numbers. -/
  | scale
  /-- A precision in front of a time zone. -/
  | time

/-- The types whose names are one word in print. -/
def simpleTypes : List (String × TypeArguments) := [
  ("BOOLEAN", .none), ("BOOL", .none), ("FLOAT", .precision), ("REAL", .none),
  ("FLOAT4", .none), ("FLOAT32", .none), ("FLOAT64", .none), ("FLOAT8", .none),
  ("TINYINT", .width), ("INT2", .width), ("SMALLINT", .width), ("MEDIUMINT", .width),
  ("INT", .width), ("INT4", .width), ("INT8", .width), ("INTEGER", .width), ("BIGINT", .width),
  ("VARCHAR", .length), ("NVARCHAR", .length), ("CLOB", .precision), ("BINARY", .precision),
  ("VARBINARY", .length), ("BLOB", .precision), ("TINYBLOB", .none), ("MEDIUMBLOB", .none),
  ("LONGBLOB", .none), ("BYTES", .precision), ("VARBIT", .precision), ("UUID", .none),
  ("DATE", .none), ("DATE32", .none), ("DATETIME", .precision), ("TIMESTAMP", .time),
  ("TIME", .time), ("TIMESTAMP_NTZ", .none), ("JSON", .none), ("JSONB", .none),
  ("REGCLASS", .none), ("STRING", .precision), ("TEXT", .none), ("TINYTEXT", .none),
  ("MEDIUMTEXT", .none), ("LONGTEXT", .none), ("BYTEA", .none), ("NUMERIC", .scale),
  ("DECIMAL", .scale), ("DEC", .scale), ("BIGNUMERIC", .scale), ("BIGDECIMAL", .scale),
  ("TRIGGER", .none), ("TSVECTOR", .none), ("TSQUERY", .none)]

namespace Parse

/-- One number in parentheses, printed, if an opening parenthesis comes next. -/
def optionalPrecision : Parse String := do
  if ← symbol "(" then
    let precision ← literalNat
    expectSymbol ")"
    return "(" ++ toString precision ++ ")"
  else return ""

/-- A length in parentheses, printed, if an opening parenthesis comes next. -/
def optionalLength : Parse String := do
  if ← symbol "(" then
    let length ← if ← keyword "MAX" then pure "MAX" else do
      let length ← literalNat
      let unit := match ← anyKeyword ["CHARACTERS", "OCTETS"] with
        | some unit => " " ++ unit
        | none => ""
      pure (toString length ++ unit)
    expectSymbol ")"
    return "(" ++ length ++ ")"
  else return ""

/-- One or two numbers in parentheses, if an opening parenthesis comes next. -/
def optionalScale : Parse (Option Nat × Option Nat) := do
  if ← symbol "(" then
    let precision ← literalNat
    let scale ← if ← symbol "," then some <$> literalNat else pure none
    expectSymbol ")"
    return (some precision, scale)
  else return (none, none)

/-- One or two numbers in parentheses as a type has them in print. -/
def optionalExactScale : Parse String := do
  match ← optionalScale with
  | (some precision, some scale) => return s!"({precision},{scale})"
  | (some precision, none) => return s!"({precision})"
  | (none, _) => return ""

/-- A type name, a precision and a time zone. -/
def timeType (name : String) : Parse String := do
  let precision ← optionalPrecision
  if ← keyword "WITH" then
    expectKeywords ["TIME", "ZONE"]
    return name ++ precision ++ " WITH TIME ZONE"
  else if ← keyword "WITHOUT" then
    expectKeywords ["TIME", "ZONE"]
    return name ++ precision ++ " WITHOUT TIME ZONE"
  else return name ++ precision

/-- What follows the name of a simple type, with the name in front. -/
def typeArguments (name : String) : TypeArguments → Parse String
  | .none => return name
  | .precision => return name ++ (← optionalPrecision)
  | .width => do
    let precision ← optionalPrecision
    return name ++ precision ++ if ← keyword "UNSIGNED" then " UNSIGNED" else ""
  | .length => return name ++ (← optionalLength)
  | .scale => return name ++ (← optionalExactScale)
  | .time => timeType name

/-- A character type that may be varying or large. -/
def characterType (name : String) : Parse String := do
  if ← keyword "VARYING" then return name ++ " VARYING" ++ (← optionalLength)
  else if ← keywords ["LARGE", "OBJECT"] then
    return name ++ " LARGE OBJECT" ++ (← optionalPrecision)
  else return name ++ (← optionalLength)

/-- The modifiers of a type that the language does not know, the newest first. -/
def typeModifiersFrom (before : List String) : (fuel : Tokens) → Parse (List String)
  | [] => expected "type modifiers"
  | _ :: fuel => do
    match ← next with
    | none => expectedAt none "type modifiers"
    | some found => match found.token with
      | .word _ _ => typeModifiersFrom (found.token.text :: before) fuel
      | .number digits _ => typeModifiersFrom (digits :: before) fuel
      | .string .plain text => typeModifiersFrom (text :: before) fuel
      | .symbol "," => typeModifiersFrom before fuel
      | .symbol ")" => return before.reverse
      | _ => expectedAt found "type modifiers"

/-- A type that the language does not know. -/
def customType : Parse DataType := do
  let typeName ← name
  if ← symbol "(" then
    match ← typeModifiersFrom [] (← get) with
    | [] => return ⟨.custom, typeName.text⟩
    | modifiers => return ⟨.custom, typeName.text ++ "(" ++ commaSeparated modifiers ++ ")"⟩
  else return ⟨.custom, typeName.text⟩

/-- The string constants of an enumeration. -/
def stringValues : Parse String := do
  expectSymbol "("
  let texts ← commaList (do
    match ← next with
    | some found => match found.token with
      | .string .plain text => return quotedWith '\'' text
      | _ => expectedAt found "a string"
    | none => expectedAt none "a string")
  expectSymbol ")"
  return "(" ++ commaSeparated texts ++ ")"

/-- A type without the brackets of an array, inside at most as many others as there are
tokens. -/
def elementType (nested : Parse DataType) : Parse DataType := do
  let start ← get
  let found ← next
  let standard (text : String) : DataType := ⟨.standard, text⟩
  match found with
  | none => expectedAt none "a data type name"
  | some located =>
    unless located.token.isWord do expectedAt found "a data type name"
    let custom : Parse DataType := do
      set start
      customType
    match located.keyword with
    | none => custom
    | some "DOUBLE" =>
      if ← keyword "PRECISION" then return standard "DOUBLE PRECISION"
      else return standard ("DOUBLE" ++ (← optionalExactScale))
    | some "CHARACTER" => return standard (← characterType "CHARACTER")
    | some "CHAR" => return standard (← characterType "CHAR")
    | some "BIT" =>
      if ← keyword "VARYING" then return standard ("BIT VARYING" ++ (← optionalPrecision))
      else return standard ("BIT" ++ (← optionalPrecision))
    | some "TIMESTAMPTZ" => return standard ("TIMESTAMPTZ" ++ (← optionalPrecision))
    | some "TIMETZ" => return standard ("TIMETZ" ++ (← optionalPrecision))
    | some "INTERVAL" => return ⟨.interval, "INTERVAL"⟩
    | some "ENUM" => return standard ("ENUM" ++ (← stringValues))
    | some "SET" => return standard ("SET" ++ (← stringValues))
    | some "ARRAY" =>
      expectSymbol "<"
      let inner ← nested
      expectSymbol ">"
      return standard ("ARRAY<" ++ inner.text ++ ">")
    | some "ANY" =>
      if ← keyword "TYPE" then return standard "ANY TYPE" else custom
    | some "TABLE" => return standard "TABLE"
    | some "SIGNED" =>
      if ← keyword "INTEGER" then return standard "SIGNED INTEGER" else return standard "SIGNED"
    | some "UNSIGNED" =>
      if ← keyword "INTEGER" then return standard "UNSIGNED INTEGER"
      else return standard "UNSIGNED"
    | some word => match simpleTypes.lookup word with
      | some arguments => return standard (← typeArguments word arguments)
      | none => custom

/-- The brackets that make an array of a type. -/
def arrayBrackets : Parse (Option String) := do
  if ← symbol "[" then
    let size ← attempt literalNat
    expectSymbol "]"
    match size with
    | some size => return some s!"[{size}]"
    | none => return some "[]"
  else return none

/-- A type nested in others at most as deeply as there are tokens. -/
def dataTypeWithin : (fuel : Tokens) → Parse DataType
  | [] => expected "a data type name"
  | _ :: fuel => do
    let element ← elementType (dataTypeWithin fuel)
    match ← many arrayBrackets with
    | [] => return element
    | brackets => return ⟨.standard, element.text ++ String.join brackets⟩

/-- A type. -/
def dataType : Parse DataType := do
  dataTypeWithin (← get)

/-- A type in print. -/
def dataTypeText : Parse String := do
  return (← dataType).text

/-- The column list of an alias, printed: names that may have types. -/
def aliasColumns : Parse String := do
  if ← symbol "(" then
    let columns ← commaList (do
      let column ← ident
      match ← attempt dataType with
      | some type => return column.text ++ " " ++ type.text
      | none => return column.text)
    expectSymbol ")"
    return " (" ++ commaSeparated columns ++ ")"
  else return ""

/-- The name given to a relation. -/
def tableAlias : Parse (Option TableAlias) := do
  match ← optionalAlias tableAliasStops with
  | some name => return some ⟨name, ← aliasColumns⟩
  | none => return none

end Parse

end ColumnVeil.Sql
