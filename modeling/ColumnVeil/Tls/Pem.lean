import ColumnVeil.Bytes

/-!
# PEM files

A PEM file is a text with sections between marks, of which each holds bytes in base64.  Only
sections of known kinds are decoded; everything else in the file is passed over.
-/

namespace ColumnVeil.Tls.Pem

/-! ## Base64 -/

/-- Why a text is no base64. -/
inductive Base64Error
  | invalidCharacter (code : Nat)
  /-- Padding in front of other characters. -/
  | prematurePadding
  /-- A last group that is too short or padded wrongly. -/
  | invalidTrailingPadding
deriving DecidableEq, Repr

/-- The wording of a fault of base64. -/
def Base64Error.message : Base64Error → String
  | invalidCharacter code => "InvalidCharacter(" ++ toString code ++ ")"
  | prematurePadding => "PrematurePadding"
  | invalidTrailingPadding => "InvalidTrailingPadding"

/-- The six bits that a character stands for. -/
def sixBits? (character : Char) : Option Nat :=
  if 'A' ≤ character ∧ character ≤ 'Z' then some (character.toNat - 65)
  else if 'a' ≤ character ∧ character ≤ 'z' then some (character.toNat - 71)
  else if '0' ≤ character ∧ character ≤ '9' then some (character.toNat + 4)
  else if character = '+' then some 62
  else if character = '/' then some 63
  else none

/-- The symbols of a text, of which none stands for padding; white space does not count. -/
def symbols : List Char → Except Base64Error (List (Option Nat))
  | [] => .ok []
  | character :: rest =>
    if character.isWhitespace then symbols rest
    else if character = '=' then (symbols rest).map (none :: ·)
    else match sixBits? character with
      | some bits => (symbols rest).map (some bits :: ·)
      | none =>
        .error (.invalidCharacter (((String.singleton character).toUTF8.toList.headD 0).toNat))

/-- The first bytes of some groups of six bits. -/
def bytesOf (count : Nat) (groups : List Nat) : Bytes :=
  let total := groups.foldl (fun total bits => 64 * total + bits) 0
  (bigEndian 3 (total * Nat.pow 64 (4 - groups.length))).take count

/-- The bytes of some symbols: each four of them give three bytes. -/
def decodeSymbols : List (Option Nat) → Except Base64Error Bytes
  | [] => .ok []
  | [some a, some b] => .ok (bytesOf 1 [a, b])
  | [some a, some b, some c] => .ok (bytesOf 2 [a, b, c])
  | [some a, some b, none, none] => .ok (bytesOf 1 [a, b])
  | [some a, some b, some c, none] => .ok (bytesOf 2 [a, b, c])
  | some a :: some b :: some c :: some d :: rest =>
    (decodeSymbols rest).map (bytesOf 3 [a, b, c, d] ++ ·)
  | _ :: _ :: _ :: _ :: _ :: _ => .error .prematurePadding
  | _ => .error .invalidTrailingPadding

/-- The bytes that a text in base64 stands for. -/
def decodeBase64 (text : List Char) : Except Base64Error Bytes := do
  decodeSymbols (← symbols text)

/-! ## Sections -/

/-- Why a file is no PEM file. -/
inductive Fault
  /-- The line that begins a section is not well formed. -/
  | illegalStart (line : String)
  /-- The mark at the end of a section is missing. -/
  | missingEnd (mark : String)
  | base64 (error : Base64Error)
deriving DecidableEq, Repr

/-- A character within quotes. -/
def quotedCharacter (character : Char) : List Char :=
  match character with
  | '"' => ['\\', '"']
  | '\\' => ['\\', '\\']
  | '\n' => ['\\', 'n']
  | '\r' => ['\\', 'r']
  | '\t' => ['\\', 't']
  | other => [other]

/-- A text in quotes. -/
def quoted (text : String) : String :=
  String.ofList ('"' :: text.toList.flatMap quotedCharacter ++ ['"'])

/-- The wording of a fault. -/
def Fault.message : Fault → String
  | illegalStart line => "illegal section start: " ++ quoted line
  | missingEnd mark => "section end " ++ quoted mark ++ " missing"
  | base64 error => error.message

/-- A section with the label in its marks. -/
structure PemSection where
  label : String
  content : Bytes
deriving DecidableEq, Repr

/-- The labels of private keys. -/
def keyLabels : List String :=
  ["RSA PRIVATE KEY", "PRIVATE KEY", "EC PRIVATE KEY"]

/-- The label of certificates. -/
def certificateLabel : String := "CERTIFICATE"

/-- The labels of the sections that are decoded. -/
def knownLabels : List String :=
  [certificateLabel, "PUBLIC KEY", "X509 CRL", "CERTIFICATE REQUEST", "ECHCONFIG"] ++ keyLabels

/-- The lines of a text, each with its end. -/
def linesOf : List Char → List (List Char)
  | [] => []
  | character :: rest =>
    if character = '\n' ∨ character = '\r' then [character] :: linesOf rest
    else match linesOf rest with
      | [] => [[character]]
      | line :: lines => (character :: line) :: lines

/-- What the line that begins a section begins with. -/
def startMark : List Char := "-----BEGIN ".toList

/-- The label in the line that begins a section: between its marks, of which five hyphens,
with blanks anywhere among and behind them, are the second. -/
def label? (line : List Char) : Option String :=
  let isBlank (character : Char) : Bool := [' ', '\n', '\r'].contains character
  let closing := line.reverse.takeWhile fun character => character == '-' || isBlank character
  let marks := (closing.reverse.dropWhile isBlank)
  if marks.count '-' = 5 then
    some (String.ofList ((line.take (line.length - marks.length)).drop startMark.length))
  else none

/-- The mark at the end of a section. -/
def endMark (label : String) : String :=
  "-----END " ++ label ++ "-----"

/-- The sections of some lines, where the first lines may go on with a section that has a
label. -/
def sectionsFrom : (opened : Option String) → (body : List Char) → List (List Char) →
    List (Except Fault PemSection)
  | none, _, [] => []
  | some label, _, [] => [.error (.missingEnd (endMark label))]
  | opened, body, line :: rest =>
    if startMark.isPrefixOf line then
      match label? line with
      | some label => sectionsFrom (some label) body rest
      | none => [.error (.illegalStart (String.ofList line))]
    else match opened with
      | none => sectionsFrom none body rest
      | some label =>
        if (endMark label).toList.isPrefixOf line then
          if knownLabels.contains label then
            match decodeBase64 body with
            | .ok content => .ok ⟨label, content⟩ :: sectionsFrom none [] rest
            | .error error => [.error (.base64 error)]
          else sectionsFrom none [] rest
        else sectionsFrom (some label) (body ++ line) rest

/-- The sections of a text, up to the first fault. -/
def sections (text : String) : List (Except Fault PemSection) :=
  sectionsFrom none [] (linesOf text.toList)

/-- All certificates of a text. -/
def certificates (text : String) : Except Fault (List Bytes) := do
  let found ← (sections text).mapM id
  return (found.filter fun part => part.label == certificateLabel).map PemSection.content

/-- The first private key of a text.  What follows it is not looked at. -/
def privateKey? (text : String) : Except Fault (Option Bytes) :=
  let isWanted : Except Fault PemSection → Bool
    | .ok part => keyLabels.contains part.label
    | .error _ => true
  match (sections text).find? isWanted with
  | none => .ok none
  | some (.ok part) => .ok (some part.content)
  | some (.error fault) => .error fault

end ColumnVeil.Tls.Pem
