import ColumnVeil.Text.Alphabet

/-!
# Internet addresses

Addresses of hosts and sockets, read from the usual spellings and written in the canonical
one: an IPv6 address in lower-case groups without leading zeros, its first longest run of two
or more zero groups written `::`, and an IPv4 address that is mapped into IPv6 with its
dots.
-/

namespace ColumnVeil.Net

/-- The address of a host. -/
inductive IpAddress
  | v4 (octets : List Nat)
  /-- Eight groups of 16 bits. -/
  | v6 (groups : List Nat)
deriving DecidableEq, Repr

/-- The address of a socket; the scope of an IPv6 address is zero if there is none. -/
structure SocketAddress where
  host : IpAddress
  scope : Nat := 0
  service : Nat
deriving DecidableEq, Repr

/-! ## Writing -/

/-- A number in digits of a base. -/
def digitsText (base value : Nat) : String :=
  String.ofList (Nat.toDigits base value)

/-- IPv4 octets with dots between them. -/
def octetsText (octets : List Nat) : String :=
  String.intercalate "." (octets.map (digitsText 10))

/-- IPv6 groups with colons between them. -/
def groupsText (groups : List Nat) : String :=
  String.intercalate ":" (groups.map (digitsText 16))

/-- How many zeros a list begins with. -/
def leadingZeros (groups : List Nat) : Nat :=
  (groups.takeWhile (· == 0)).length

/-- The first of the longest runs of zeros, as its position and its length. -/
def longestZeros : List Nat → Nat × Nat
  | [] => (0, 0)
  | group :: rest =>
    let here := leadingZeros (group :: rest)
    let (later, length) := longestZeros rest
    if length ≤ here then (0, here) else (later + 1, length)

namespace IpAddress

/-- The canonical spelling of the address of a host. -/
def text : IpAddress → String
  | v4 octets => octetsText octets
  | v6 [0, 0, 0, 0, 0, 0xFFFF, high, low] =>
    "::ffff:" ++ octetsText [high / 256, high % 256, low / 256, low % 256]
  | v6 groups =>
    let (start, length) := longestZeros groups
    if 1 < length then groupsText (groups.take start) ++ "::" ++ groupsText (groups.drop (start + length))
    else groupsText groups

end IpAddress

/-- The canonical spelling of the address of a socket. -/
def SocketAddress.text (address : SocketAddress) : String :=
  let ending := ":" ++ digitsText 10 address.service
  match address.host with
  | .v4 _ => address.host.text ++ ending
  | .v6 _ =>
    let scope := if address.scope = 0 then "" else "%" ++ digitsText 10 address.scope
    "[" ++ address.host.text ++ scope ++ "]" ++ ending

/-! ## Reading -/

/-- The value of a hexadecimal digit in either case. -/
def hexValue? (character : Char) : Option Nat :=
  if '0' ≤ character ∧ character ≤ '9' then some (character.toNat - 48)
  else if 'a' ≤ character ∧ character ≤ 'f' then some (character.toNat - 87)
  else if 'A' ≤ character ∧ character ≤ 'F' then some (character.toNat - 55)
  else none

/-- The digits of a base at the start of a text, and the rest. -/
def spanDigits (base : Nat) : List Char → List Nat × List Char
  | [] => ([], [])
  | character :: rest =>
    match hexValue? character with
    | some value =>
      if value < base then
        let (values, others) := spanDigits base rest
        (value :: values, others)
      else ([], character :: rest)
    | none => ([], character :: rest)

/-- A number below a bound at the start of a text, and the rest. -/
def readNumber? (base bound : Nat) (text : List Char) : Option (Nat × List Char) :=
  let (values, rest) := spanDigits base text
  let value := values.foldl (fun total digit => base * total + digit) 0
  if values.isEmpty || bound ≤ value then none else some (value, rest)

/-- An octet at the start of a text: at most three digits without a leading zero. -/
def readOctet? (text : List Char) : Option (Nat × List Char) :=
  let (values, _) := spanDigits 10 text
  if 3 < values.length || (values.head? == some 0 && 1 < values.length) then none
  else readNumber? 10 256 text

/-- A group of up to four digits at the start of a text. -/
def readGroup? (text : List Char) : Option (Nat × List Char) :=
  if 4 < (spanDigits 16 text).1.length then none else readNumber? 16 65536 text

/-- What follows a character at the start of a text. -/
def expect? (character : Char) : List Char → Option (List Char)
  | found :: rest => if found = character then some rest else none
  | [] => none

/-- Four octets at the start of a text. -/
def readOctets? (text : List Char) : Option (List Nat × List Char) := do
  let (first, text) ← readOctet? text
  let (second, text) ← readOctet? (← expect? '.' text)
  let (third, text) ← readOctet? (← expect? '.' text)
  let (fourth, text) ← readOctet? (← expect? '.' text)
  return ([first, second, third, fourth], text)

/-- Up to `limit` groups at the start of a text, where four octets may stand for the last two;
also says whether they did. -/
def readGroups : (limit : Nat) → (first : Bool) → List Char → List Nat × Bool × List Char
  | 0, _, text => ([], false, text)
  | limit + 1, first, text =>
    let start := if first then some text else expect? ':' text
    let octets := if 0 < limit then start.bind readOctets? else none
    match octets with
    | some ([one, two, three, four], rest) => ([256 * one + two, 256 * three + four], true, rest)
    | _ =>
      match start.bind readGroup? with
      | none => ([], false, text)
      | some (group, rest) =>
        let (groups, withOctets, rest) := readGroups limit false rest
        (group :: groups, withOctets, rest)

/-- Eight groups at the start of a text, of which `::` may stand for one or more zeros. -/
def readV6? (text : List Char) : Option (List Nat × List Char) :=
  let (head, withOctets, rest) := readGroups 8 true text
  if head.length = 8 then some (head, rest)
  else if withOctets then none
  else do
    let rest ← expect? ':' rest
    let rest ← expect? ':' rest
    let (tail, _, rest) := readGroups (7 - head.length) true rest
    return (head ++ List.replicate (8 - head.length - tail.length) 0 ++ tail, rest)

/-- The address of a host that a whole text spells. -/
def IpAddress.ofText? (text : String) : Option IpAddress :=
  match readOctets? text.toList with
  | some (octets, []) => some (.v4 octets)
  | _ =>
    match readV6? text.toList with
    | some (groups, []) => some (.v6 groups)
    | _ => none

/-- A colon and the number of a service at the end of a text. -/
def readService? (text : List Char) : Option Nat := do
  let (service, rest) ← readNumber? 10 65536 (← expect? ':' text)
  if rest.isEmpty then some service else none

/-- The address of a socket that a whole text spells. -/
def SocketAddress.ofText? (text : String) : Option SocketAddress :=
  match readOctets? text.toList with
  | some (octets, rest) => do
    return { host := .v4 octets, service := ← readService? rest }
  | none => do
    let (groups, rest) ← readV6? (← expect? '[' text.toList)
    let (scope, rest) ←
      match expect? '%' rest with
      | some rest => readNumber? 10 0x100000000 rest
      | none => some (0, rest)
    let rest ← expect? ']' rest
    return { host := .v6 groups, scope, service := ← readService? rest }

end ColumnVeil.Net
