import ColumnVeil.Settings.Document

/-!
# Layers of settings

Settings are put together from layers, of which the later ones win: a document, and the
environment variables that begin with `PGTDE_`.  The names of a layer are paths into the
settings, with points and with positions in brackets; a name that is no such path stands for
itself.
-/

namespace ColumnVeil

/-- A step from a document to one of its parts. -/
inductive PathStep
  | entry (name : String)
  /-- A position in a list, from its end if it is negative. -/
  | item (position : Int)
deriving DecidableEq, Repr

namespace PathStep

/-- A character of a name in a path. -/
def isNameCharacter (character : Char) : Bool :=
  character.isAlphanum || character == '_' || character == '-'

/-- The steps that a text takes behind the first name; `fuel` bounds their number. -/
def readSteps? : (fuel : Nat) → List Char → Option (List PathStep)
  | 0, _ => none
  | _, [] => some []
  | fuel + 1, '.' :: rest => do
    let name := rest.takeWhile isNameCharacter
    if name.isEmpty then none
    else return .entry (String.ofList name) :: (← readSteps? fuel (rest.drop name.length))
  | fuel + 1, '[' :: rest => do
    let digits := rest.takeWhile (· != ']')
    let position ← Decimal.parseSigned? 64 (String.ofList digits)
    match rest.drop digits.length with
    | _ :: rest => return .item position :: (← readSteps? fuel rest)
    | [] => none
  | _, _ => none

/-- The path that a text spells. -/
def ofText? (text : String) : Option (List PathStep) := do
  let characters := text.toList
  let name := characters.takeWhile isNameCharacter
  if name.isEmpty then none
  else
    return .entry (String.ofList name)
      :: (← readSteps? (characters.length + 1) (characters.drop name.length))

end PathStep

namespace Document

/-- The entries of a record; anything else has none. -/
def entries : Document → List (String × Document)
  | record entries => entries
  | _ => []

/-- The items of a list; anything else has none. -/
def items : Document → List Document
  | list items => items
  | _ => []

mutual

/-- A document in the place of another.  A record leaves the entries in the place that it does
not name. -/
def mergeInto : Document → (place : Document) → Document
  | record incoming, place => .record (mergeEntries incoming place.entries)
  | other, _ => other

/-- Entries in the place of others. -/
def mergeEntries : List (String × Document) → (place : List (String × Document)) →
    List (String × Document)
  | [], place => place
  | (name, document) :: rest, place =>
    mergeEntries rest (put name (mergeInto document ((place.lookup name).getD .null)) place)

end

/-- Change the item at a position of a list; the list grows where it is too short. -/
def changeItem (change : Document → Document) (position : Int) (items : List Document) :
    List Document :=
  if position < 0 then
    let back := (-position).toNat
    let padded := List.replicate (back - items.length) .null ++ items
    padded.modify (padded.length - back) change
  else
    let padded := items ++ List.replicate (position.toNat + 1 - items.length) .null
    padded.modify position.toNat change

/-- Put a document in the place at the end of a path.  Whatever on the way is no record or no
list becomes one. -/
def setAt (document : Document) : List PathStep → (place : Document) → Document
  | [], place => mergeInto document place
  | .entry name :: steps, place =>
    .record (put name (setAt document steps ((place.entries.lookup name).getD .null)) place.entries)
  | .item position :: steps, place =>
    .list (changeItem (setAt document steps) position place.items)

/-- Lay a named document over others. -/
def layName (below : Document) (name : String) (document : Document) : Document :=
  setAt document ((PathStep.ofText? name).getD [.entry name]) below

/-- Lay named documents over others. -/
def lay (below : Document) (layer : List (String × Document)) : Document :=
  layer.foldl (fun below (name, document) => below.layName name document) below

end Document

namespace Environment

/-- What the names of the variables begin with, in lower case. -/
def mark : String := "pgtde_"

/-- A point for each pair of underscores. -/
def parted : List Char → List Char
  | '_' :: '_' :: rest => '.' :: parted rest
  | character :: rest => character :: parted rest
  | [] => []

/-- The name in the settings of a variable that concerns them. -/
def settingName? (name : String) : Option String :=
  let folded := Text.lowercase name
  if folded.startsWith mark then
    some (String.ofList (parted (folded.toList.drop mark.length)))
  else none

/-- The scalar that the text of a variable stands for. -/
def scalar (text : String) : Document :=
  let word := Text.lowercase text
  if word == "true" then .boolean true
  else if word == "false" then .boolean false
  else match Decimal.parseSigned? 64 text with
    | some value => .integer value
    | none =>
      match Decimal.parseFloat? Decimal.double text with
      | some value => .real value
      | none => .string text

/-- The layer of some variables. -/
def layer (environment : List (String × String)) : List (String × Document) :=
  environment.filterMap fun (name, text) => (settingName? name).map (·, scalar text)

end Environment

end ColumnVeil
