import ColumnVeil.Sql.Parser.DataType

/-!
# Reading units of time

The fields of a date or time, and the qualifier that says which of them an interval spans.
-/

namespace ColumnVeil.Sql

/-- The fields that an interval can span. -/
def temporalUnits : List String :=
  ["YEAR", "YEARS", "MONTH", "MONTHS", "WEEK", "WEEKS", "DAY", "DAYS", "HOUR", "HOURS",
    "MINUTE", "MINUTES", "SECOND", "SECONDS", "CENTURY", "DECADE", "DOW", "DOY", "EPOCH",
    "ISODOW", "ISOYEAR", "JULIAN", "MICROSECOND", "MICROSECONDS", "MILLENIUM", "MILLENNIUM",
    "MILLISECOND", "MILLISECONDS", "NANOSECOND", "NANOSECONDS", "QUARTER", "TIMEZONE",
    "TIMEZONE_HOUR", "TIMEZONE_MINUTE"]

/-- The fields of a date or time that have a name of their own. -/
def dateTimeFields : List String :=
  temporalUnits ++ ["DAYOFWEEK", "DAYOFYEAR", "DATE", "DATETIME", "ISOWEEK", "TIME",
    "TIMEZONE_ABBR", "TIMEZONE_REGION"]

namespace Parse

/-- A field of a date or time, in print. -/
def dateTimeField : Parse String := do
  let found ← next
  match found.map Located.token with
  | some (.word text quoted) => match found.bind Located.keyword with
    | some word => if dateTimeFields.contains word then return word else return text
    | none => return Ident.text ⟨text, if quoted then some '"' else none⟩
  | some (.string .plain text) => return quotedWith '\'' text
  | _ => expectedAt found "date/time field"

/-- What follows the value of an interval: its first and last field with their precisions. -/
def intervalQualifier : Parse String := do
  let first ← if ← atAnyKeyword temporalUnits then some <$> dateTimeField else pure none
  let lead := (first.map (" " ++ ·)).getD ""
  if first = some "SECOND" then
    match ← optionalScale with
    | (some precision, some scale) => return s!" SECOND ({precision}, {scale})"
    | (some precision, none) => return lead ++ s!" ({precision})"
    | (none, _) => return lead
  else
    let lead := lead ++ spaced (← optionalPrecision)
    if ← keyword "TO" then
      let last ← dateTimeField
      let precision ← if last = "SECOND" then optionalPrecision else pure ""
      return lead ++ " TO " ++ last ++ spaced precision
    else return lead
where
  /-- A precision in print with a blank in front. -/
  spaced (precision : String) : String :=
    if precision.isEmpty then "" else " " ++ precision

end Parse

end ColumnVeil.Sql
