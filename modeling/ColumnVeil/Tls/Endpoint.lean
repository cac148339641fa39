import ColumnVeil.Settings.Basic
import ColumnVeil.Tls.Pem
import ColumnVeil.Tls.ServerName

/-!
# Ends of encrypted connections

Before a relay starts, the files and names that the encryption of its connections needs are
looked at: those for clients if the relay answers their requests for encryption, and those
for the server if its connection has to be encrypted.
-/

namespace ColumnVeil.Tls

/-- Files by their paths. -/
abbrev Files := List (String × String)

/-- The text of a file. -/
def openFile (files : Files) (path : String) : Except TlsFault String :=
  match files.lookup path with
  | some text => .ok text
  | none => .error (.cannotOpen path "No such file or directory (os error 2)")

/-- The certificates of a file, of which there has to be one. -/
def certificatesIn (files : Files) (path : String) : Except TlsFault (List Bytes) := do
  let text ← openFile files path
  match Pem.certificates text with
  | .error fault => throw (.certificatesMalformed fault.message)
  | .ok [] => throw (.noCertificates path)
  | .ok certificates => return certificates

/-- The private key of a file. -/
def privateKeyIn (files : Files) (path : String) : Except TlsFault Bytes := do
  let text ← openFile files path
  match Pem.privateKey? text with
  | .error fault => throw (.keyMalformed fault.message)
  | .ok none => throw (.noPrivateKey path)
  | .ok (some key) => return key

/-- Bytes that may be a certificate or a key, all of which begin as a sequence. -/
def beginsSequence (bytes : Bytes) : Bool :=
  bytes.head? == some 0x30

/-- With what a relay answers the requests of its clients for encryption. -/
inductive Identity
  /-- A certificate that it has made for itself. -/
  | selfSigned
  | configured (certificates : List Bytes) (key : Bytes)
deriving DecidableEq, Repr

/-- The identity towards clients, if their requests for encryption are answered. -/
def acceptor (settings : Settings) (files : Files) : Except TlsFault (Option Identity) :=
  if !settings.terminateTls then .ok none
  else match settings.certificate, settings.privateKey with
    | some certificate, some key => do
      let certificates ← certificatesIn files certificate
      let key ← privateKeyIn files key
      if beginsSequence key then return some (.configured certificates key)
      else throw .unusableKey
    | _, _ => .ok (some .selfSigned)

/-- The name that the server has to prove, if its connection has to be encrypted. -/
def connector (settings : Settings) (files : Files) : Except TlsFault (Option ServerName) :=
  match settings.serverEncryption with
  | .disable => .ok none
  | .require => do
    match settings.serverAuthority with
    | some authority =>
      if !(← certificatesIn files authority).all beginsSequence then throw .unusableAuthority
    | none => pure ()
    match ServerName.ofText? settings.serverHost with
    | some name => return some name
    | none => throw (.invalidServerName settings.serverHost)

/-- Everything that a relay needs to start. -/
structure Endpoints where
  catalog : Catalog
  identity : Option Identity
  serverName : Option ServerName

/-- Look at the settings and the files of a relay; the first fault counts. -/
def Endpoints.prepare (settings : Settings) (files : Files) : Except Failure Endpoints := do
  settings.validate
  let catalog ← settings.catalog
  let identity ← (acceptor settings files).mapError .tls
  let serverName ← (connector settings files).mapError .tls
  return { catalog, identity, serverName }

end ColumnVeil.Tls
