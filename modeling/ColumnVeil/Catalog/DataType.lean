import ColumnVeil.Decimal.Shortest
import ColumnVeil.Text.Blank
import ColumnVeil.Text.Case

/-!
# Data types

The server numbers its data types.  This module holds the numbers that matter to the
treatment of protected columns, the names under which a configuration may call them, and
the width of their values.
-/

namespace ColumnVeil

/-- The number of a data type. -/
abbrev DataType := Int32

namespace DataType

def bool : DataType := 16
def bytea : DataType := 17
def int8 : DataType := 20
def int2 : DataType := 21
def int4 : DataType := 23
def text : DataType := 25
def float4 : DataType := 700
def float8 : DataType := 701
def bpchar : DataType := 1042
def varchar : DataType := 1043
def date : DataType := 1082
def time : DataType := 1083
def timestamp : DataType := 1114
def timestamptz : DataType := 1184
def numeric : DataType := 1700
def uuid : DataType := 2950
def jsonb : DataType := 3802

/-- The names of data types, in lower case. -/
def names : List (String × DataType) :=
  [("bool", bool), ("boolean", bool), ("bytea", bytea), ("int8", int8), ("bigint", int8),
    ("int2", int2), ("smallint", int2), ("int4", int4), ("int", int4), ("integer", int4),
    ("text", text), ("float4", float4), ("real", float4), ("float8", float8),
    ("double precision", float8), ("bpchar", bpchar), ("char", bpchar), ("character", bpchar),
    ("varchar", varchar), ("character varying", varchar), ("date", date), ("time", time),
    ("timestamp", timestamp), ("timestamptz", timestamptz), ("numeric", numeric),
    ("decimal", numeric), ("uuid", uuid), ("jsonb", jsonb)]

/-- The data type that a configuration names, by its name in any case or by its number. -/
def ofName? (name : String) : Option DataType :=
  let normal := Text.lowercase (Text.trim name)
  match Decimal.parseSigned? 32 normal with
  | some number => some (Int32.ofInt number)
  | none => names.lookup normal

/-- The width of the values of a type in bytes, or -1 if it varies. -/
def width (type : DataType) : Int16 :=
  if type = bool then 1
  else if type = int2 then 2
  else if type = int4 ∨ type = float4 ∨ type = date then 4
  else if type = int8 ∨ type = float8 ∨ type = time ∨ type = timestamp ∨ type = timestamptz then 8
  else if type = uuid then 16
  else -1

end DataType

end ColumnVeil
