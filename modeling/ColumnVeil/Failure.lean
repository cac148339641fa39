import ColumnVeil.Crypto.Cbc
import ColumnVeil.Sql.Literal
import ColumnVeil.Wire.Format

/-!
# Failures

Every way in which a request, a result or a configuration can be refused.  A failure is a
cause; `Failure.report` words it and says under which category it is announced.
-/

namespace ColumnVeil

/-- A use of protected columns that cannot be carried out. -/
inductive QueryFault
  /-- A star that stands for columns of a protected table. -/
  | starExpression
  | encryptedUse (column : Sql.ColumnRef)
  | indexedUse (column : Sql.ColumnRef)
  | joinUse (column : Sql.ColumnRef)
  /-- An output name that stands for two columns. -/
  | ambiguousOutput (name : String)
  /-- A qualifier that names no relation in scope. -/
  | missingRelation (qualifier : String)
  /-- A column without qualifier where several relations could have it. -/
  | undeterminedColumn (name : String)
  | invalidLiteral (text column : String)
  /-- Something else than a literal for a column of a kind, in a statement. -/
  | literalRequired (statement kind : String)
  /-- An insertion that does not say into which columns. -/
  | columnsRequired
  /-- A row whose length is not that of the list of columns. -/
  | rowLength
  /-- A joined column that the projection leaves out. -/
  | joinColumnMissing
deriving DecidableEq, Repr

/-- The wording of a fault in a query. -/
def QueryFault.message : QueryFault → String
  | starExpression => "star expression is not supported"
  | encryptedUse column => "invalid use of encrypted column " ++ column.text
  | indexedUse column => "invalid use of blind indexed column " ++ column.text
  | joinUse column => "invalid use of join column " ++ column.text
  | ambiguousOutput name =>
    "detected ambiguous column name " ++ name
      ++ ". Please specify a different alias for each column"
  | missingRelation qualifier => "missing FROM-clause entry for table " ++ qualifier
  | undeterminedColumn name =>
    "unable to determine the source of column " ++ name
      ++ ". Please specify an explicit table/alias reference"
  | invalidLiteral text column => "invalid literal " ++ text ++ " for column " ++ column
  | literalRequired statement kind =>
    "only literals can be used as " ++ statement ++ " values for " ++ kind ++ " columns"
  | columnsRequired => "columns definition for INSERT is required for TDE-enabled tables"
  | rowLength => "bad INSERT statement"
  | joinColumnMissing =>
    "columns present in join condition must be also present in SELECT body"

/-- Something that is not supported. -/
inductive UnsupportedFault
  | statement
  | setOperation
  /-- A construct that is supported for other tables. -/
  | onProtectedTable (feature : String)
  | insertFromQuery
  | binaryFormat (column : String)
  | preparedStatements
deriving DecidableEq, Repr

/-- The wording of what is not supported. -/
def UnsupportedFault.message : UnsupportedFault → String
  | statement => "unsupported statement"
  | setOperation => "UNION queries are not supported"
  | onProtectedTable feature => feature ++ " is not supported for TDE-enabled tables"
  | insertFromQuery => "INSERT INTO SELECT is not supported for TDE-enabled tables"
  | binaryFormat column => "binary format is not supported for encrypted column " ++ column
  | preparedStatements => "prepared statements are not supported"

/-- A defect of a configuration. -/
inductive ConfigFault
  | joinKeySize (size : Nat)
  | unknownType (type table column : String)
  | keyLength (field table column : String) (length : Nat)
  | indexColumnWithoutKey (table column : String)
  | certificateWithoutKey
  | messageSizeTooSmall (size : Nat)
  /-- A text that is no configuration. -/
  | unreadable
deriving DecidableEq, Repr

/-- The wording of a defect of a configuration. -/
def ConfigFault.message : ConfigFault → String
  | joinKeySize size => "join_key_size must be between 1 and 32, got " ++ toString size
  | unknownType type table column =>
    "unknown type '" ++ type ++ "' for column " ++ table ++ "." ++ column
  | keyLength field table column length =>
    field ++ " of " ++ table ++ "." ++ column ++ " must be 32 bytes, got " ++ toString length
  | indexColumnWithoutKey table column =>
    "blind_index_column set without blind_index_key for " ++ table ++ "." ++ column
  | certificateWithoutKey => "tls_cert and tls_key must be configured together"
  | messageSizeTooSmall size => "max_message_size " ++ toString size ++ " is too small"
  | unreadable => "unreadable configuration"

/-- Why an end of an encrypted connection cannot be set up. -/
inductive TlsFault
  | cannotOpen (path reason : String)
  | certificatesMalformed (reason : String)
  | noCertificates (path : String)
  | keyMalformed (reason : String)
  | noPrivateKey (path : String)
  /-- The private key is of no known kind. -/
  | unusableKey
  /-- A certificate of the server's authority is none. -/
  | unusableAuthority
  | invalidServerName (name : String)
deriving DecidableEq, Repr

/-- The wording of a fault in setting up an encrypted connection. -/
def TlsFault.message : TlsFault → String
  | cannotOpen path reason => "cannot open " ++ path ++ ": " ++ reason
  | certificatesMalformed reason => "cannot parse certificates: " ++ reason
  | noCertificates path => "no certificates in " ++ path
  | keyMalformed reason => "cannot parse private key: " ++ reason
  | noPrivateKey path => "no private key in " ++ path
  | unusableKey =>
    "invalid server certificate: unexpected error: failed to parse private key as RSA, ECDSA, or EdDSA"
  | unusableAuthority => "cannot add CA certificate: invalid peer certificate: BadEncoding"
  | invalidServerName name => "invalid server name " ++ name ++ ": invalid dns name"

/-- Why something was refused. -/
inductive Failure
  | query (fault : QueryFault)
  | unsupported (fault : UnsupportedFault)
  | cipher (error : Crypto.CipherError)
  /-- A value that the server returned for a column could not be decrypted. -/
  | undecryptable (column : String)
  | parse (error : Sql.ParseError)
  | codec (error : Wire.CodecError)
  | config (fault : ConfigFault)
  | tls (fault : TlsFault)
deriving Repr

/-- The categories under which failures are announced. -/
inductive Category
  | query
  | unsupported
  | cipher
  | parse
  | protocol
  | config
  | tls
  | io
deriving DecidableEq, Repr

namespace Category

/-- The words in front of what a failure of the category says. -/
def lead : Category → String
  | query => "pgtde: "
  | unsupported => "pgtde: "
  | cipher => "pgtde: "
  | parse => "pgtde: unable to parse query: "
  | protocol => "Protocol error: "
  | config => "Configuration error: "
  | tls => "TLS error: "
  | io => "IO error: "

/-- The SQLSTATE code of the category. -/
def sqlstate : Category → String
  | query => "42000"
  | unsupported => "0A000"
  | parse => "42601"
  | protocol => "08P01"
  | _ => "XX000"

end Category

/-- A failure as it is announced. -/
structure Report where
  category : Category
  detail : String
deriving DecidableEq, Repr

namespace Report

/-- The whole text of a report. -/
def message (report : Report) : String :=
  report.category.lead ++ report.detail

/-- The SQLSTATE code of a report. -/
def sqlstate (report : Report) : String :=
  report.category.sqlstate

/-- The mark at the start of the messages that concern queries. -/
def mark : String := "pgtde"

end Report

/-- A failure in words. -/
def Failure.report : Failure → Report
  | query fault => ⟨.query, fault.message⟩
  | unsupported fault => ⟨.unsupported, fault.message⟩
  | cipher error => ⟨.cipher, error.message⟩
  | undecryptable column => ⟨.cipher, "decryption failed for column " ++ column⟩
  | parse error => ⟨.parse, error.message⟩
  | codec error => ⟨.protocol, error.message⟩
  | config fault => ⟨.config, fault.message⟩
  | tls fault => ⟨.tls, fault.message⟩

end ColumnVeil
