import ColumnVeil.Net.Address

/-!
# Names of servers

The name that a server's certificate has to bear: a domain name or the address of a host.
-/

namespace ColumnVeil.Tls

/-- The name of a server. -/
inductive ServerName
  | domain (name : String)
  | address (host : Net.IpAddress)
deriving DecidableEq, Repr

namespace ServerName

/-- The spelling of a name: a domain name as it was given, an address in its canonical one. -/
def text : ServerName → String
  | domain name => name
  | address host => host.text

/-- The characters of a label, apart from the hyphen. -/
def isLabelCharacter (character : Char) : Bool :=
  character.isAlphanum || character == '_'

/-- A label of a domain name: 1 to 63 letters, digits, underscores and hyphens, of which no
hyphen stands at an end. -/
def isLabel (label : List Char) : Bool :=
  label.all (fun character => isLabelCharacter character || character == '-')
    && label.head?.any isLabelCharacter && label.getLast?.any isLabelCharacter
    && label.length ≤ 63

/-- A domain name: labels with points between them, and perhaps one at the end.  The last
label is no number, and the whole is not longer than 253 characters. -/
def isDomain (name : String) : Bool :=
  let labels := name.toList.splitOn '.'
  let labels := if 1 < labels.length && labels.getLast? == some [] then labels.dropLast else labels
  name.utf8ByteSize ≤ 253 && labels.all isLabel
    && labels.getLast?.any fun label => !label.all Char.isDigit

/-- The name that a text spells. -/
def ofText? (text : String) : Option ServerName :=
  if isDomain text then some (domain text) else (Net.IpAddress.ofText? text).map address

end ServerName

end ColumnVeil.Tls
