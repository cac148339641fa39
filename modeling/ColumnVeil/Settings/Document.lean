import ColumnVeil.Decimal.Shortest
import ColumnVeil.Text.Case

/-!
# Documents

A configuration is a document of records, lists and scalars, whatever notation it is
written in.  This module holds documents and two ways of reading a scalar from one: a strict
way, where a scalar has to be of the kind that is asked for, and a lenient way, where kinds
are converted into each other.
-/

namespace ColumnVeil

/-- The content of a configuration. -/
inductive Document
  | null
  | boolean (value : Bool)
  | integer (value : Int)
  | real (value : Decimal.Value)
  | string (text : String)
  | list (items : List Document)
  | record (entries : List (String × Document))
deriving Repr, Inhabited

namespace Document

/-- The entries with a name standing for a document. -/
def put (name : String) (document : Document) : List (String × Document) → List (String × Document)
  | [] => [(name, document)]
  | entry :: rest =>
    if entry.1 = name then (name, document) :: rest else entry :: put name document rest

/-- The fields of a structure with fields of some names: the entries of a record, or the
items of a list in the order of the names; `surplus` if a list may have further items. -/
def fields? (names : List String) (surplus : Bool) : Document → Option (List (String × Document))
  | record entries => some entries
  | list items =>
    if items.length ≤ names.length || surplus then some (names.zip items) else none
  | _ => none

end Document

/-- How scalars are read. -/
structure ScalarRules where
  boolean? : Document → Option Bool
  text? : Document → Option String
  /-- An unsigned integer of a number of bits. -/
  unsigned? : (bits : Nat) → Document → Option Nat
  /-- A signed integer of a number of bits. -/
  signed? : (bits : Nat) → Document → Option Int
  /-- One of some names. -/
  choice? : (names : List String) → Document → Option String
  /-- Whether a structure that is written as a list may have more items than fields. -/
  surplus : Bool

namespace ScalarRules

/-- Scalars of exactly the kind that is asked for. -/
def strict : ScalarRules where
  boolean?
    | .boolean value => some value
    | _ => none
  text?
    | .string text => some text
    | _ => none
  unsigned? bits
    | .integer value => if 0 ≤ value ∧ value < Nat.pow 2 bits then some value.toNat else none
    | _ => none
  signed? bits
    | .integer value =>
      if -(Nat.pow 2 (bits - 1) : Int) ≤ value ∧ value < Nat.pow 2 (bits - 1) then some value else none
    | _ => none
  choice? names
    | .string text => if names.contains text then some text else none
    | .record [(name, .null)] => if names.contains name then some name else none
    | _ => none
  surplus := false

/-- The words that stand for a truth value. -/
def truthWord? (text : String) : Option Bool :=
  let word := Text.lowercase text
  if ["1", "true", "on", "yes"].contains word then some true
  else if ["0", "false", "off", "no"].contains word then some false
  else none

/-- The words that stand for the integers one and zero. -/
def switchWord? (text : String) : Option Int :=
  let word := Text.lowercase text
  if ["true", "on", "yes"].contains word then some 1
  else if ["false", "off", "no"].contains word then some 0
  else none

/-- The integer nearest to a number, halves away from zero, cut off at bounds; zero if it is
not a number. -/
def nearestInteger (value : Decimal.Value) (low high : Int) : Int :=
  let magnitude : Int := match value.magnitude with
    | .notANumber => 0
    | .infinite => high + 1
    | .finite significand exponent =>
      if exponent ≥ 0 then significand * Nat.pow 2 exponent.toNat
      else (significand + Nat.pow 2 ((-exponent).toNat - 1)) / Nat.pow 2 (-exponent).toNat
  let signed := if value.negative then -magnitude else magnitude
  if value.magnitude = .notANumber then 0 else max low (min high signed)

/-- A signed 64-bit integer of any scalar. -/
def lenientInteger? : Document → Option Int
  | .integer value => if -0x8000000000000000 ≤ value ∧ value < 0x8000000000000000 then some value else none
  | .boolean value => some (if value then 1 else 0)
  | .real value => some (nearestInteger value (-0x8000000000000000) 0x7FFFFFFFFFFFFFFF)
  | .string text => switchWord? text <|> Decimal.parseSigned? 64 text
  | _ => none

/-- An unsigned 64-bit integer of any scalar. -/
def lenientNatural? : Document → Option Nat
  | .integer value => if 0 ≤ value then some value.toNat else none
  | .boolean value => some (if value then 1 else 0)
  | .real value => some (nearestInteger value 0 0xFFFFFFFFFFFFFFFF).toNat
  | .string text =>
    match switchWord? text with
    | some value => some value.toNat
    | none =>
      if text.toList.head? = some '-' then none
      else match Decimal.parseInt? text with
        | some value => if value < 0x10000000000000000 then some value.toNat else none
        | none => none
  | _ => none

/-- Scalars of any kind that can be converted to the kind that is asked for.  Integers keep
their low bits where they are too wide, and names are taken in any case. -/
def lenient : ScalarRules where
  boolean?
    | .boolean value => some value
    | .integer value => some (value != 0)
    | .real value => some (match value.magnitude with
      | .finite 0 _ => false
      | _ => true)
    | .string text => truthWord? text
    | _ => none
  text?
    | .string text => some text
    | .boolean value => some (if value then "true" else "false")
    | .integer value => some (Decimal.renderInt value)
    | .real value => some (Decimal.renderFloat Decimal.double value)
    | _ => none
  unsigned? bits document := (lenientNatural? document).map fun value => value % Nat.pow 2 bits
  signed? bits document := (lenientInteger? document).map fun value => value.bmod (Nat.pow 2 bits)
  choice? names document :=
    let named (text : String) : Option String :=
      names.find? fun name => name == Text.lowercase text
    match document with
    | .string text => named text
    | .record [(name, _)] => named name
    | _ => none
  surplus := true

end ScalarRules

end ColumnVeil
