import ColumnVeil.Proofs.Crypto.Cipher
import ColumnVeil.Proofs.Shield.Insertion
import ColumnVeil.Proofs.Text.Utf8

/-!
# Encrypted values on their way back

A literal for an encrypted column is sent as the hexadecimal text of a payload, and the
server returns that text.  The way back reads the text, decrypts the payload and renders
the bytes for the type of the column, so the client gets the rendering of what the literal
stood for.  A value that is no such text fails the row; every other value of the row stays
as it is.
-/

namespace ColumnVeil

open Sql

/-! ## Payloads as text -/

namespace Hex

theorem toNat_lt_of_digitValue? {character : Char} {value : Nat}
    (digit : digitValue? character = some value) : character.toNat < 128 := by
  simp only [digitValue?] at digit
  split at digit
  · omega
  · split at digit
    · omega
    · split at digit
      · omega
      · cases digit

theorem toNat_lt_of_decodeChars? {characters : List Char} {bytes : Bytes}
    (decoded : decodeChars? characters = some bytes) :
    ∀ character ∈ characters, character.toNat < 128 := by
  induction characters using decodeChars?.induct generalizing bytes with
  | case1 =>
      intro character member
      cases member
  | case2 character =>
      cases decoded
  | case3 high low rest inductionHypothesis =>
      simp only [decodeChars?, Option.bind_eq_bind, Option.bind_eq_some_iff] at decoded
      rcases decoded with ⟨highValue, highDigit, lowValue, lowDigit, others, decodedRest, -⟩
      simp only [List.mem_cons, forall_eq_or_imp]
      exact ⟨toNat_lt_of_digitValue? highDigit, toNat_lt_of_digitValue? lowDigit,
        inductionHypothesis decodedRest⟩

end Hex

theorem utf8_marked {digits : String} (plain : ∀ character ∈ digits.toList, character.toNat < 128) :
    Text.utf8 ("\\x" ++ digits) =
      0x5C :: 0x78 :: digits.toList.map fun character => UInt8.ofNat character.toNat := by
  have characters : "\\x" ++ digits = String.ofList ('\\' :: 'x' :: digits.toList) := by
    rw [← String.toList_inj, String.toList_append, String.toList_ofList, String.toList_ofList]
    rfl
  rw [characters, Text.utf8_ofList_of_ascii]
  · rfl
  · simp only [List.mem_cons, forall_eq_or_imp]
    exact ⟨by decide, by decide, plain⟩

theorem ofNat_toNat_of_ascii {character : Char} (plain : character.toNat < 128) :
    Char.ofNat (UInt8.ofNat character.toNat).toNat = character := by
  have code : (UInt8.ofNat character.toNat).toNat = character.toNat := by
    rw [UInt8.toNat_ofNat']
    omega
  rw [code, Char.ofNat_toNat]

theorem ofNat_toNat_of_byte (byte : UInt8) : UInt8.ofNat (Char.ofNat byte.toNat).toNat = byte := by
  revert byte
  apply Crypto.Aes.forall_byte
  decide +kernel

/-- The text of a value of type `bytea` is a mark and hexadecimal digits. -/
theorem decodeByteaText?_eq_some_iff {returned payload : Bytes} :
    decodeByteaText? returned = some payload ↔
      ∃ digits, returned = Text.utf8 ("\\x" ++ digits) ∧ Hex.decode? digits = some payload := by
  constructor
  · intro decoded
    rw [decodeByteaText?.eq_def] at decoded
    split at decoded
    · rename_i bytes
      refine ⟨String.ofList (bytes.map fun byte => Char.ofNat byte.toNat), ?_, ?_⟩
      · rw [utf8_marked]
        · rw [String.toList_ofList, List.map_map]
          have same := List.map_id'' ofNat_toNat_of_byte bytes
          exact congrArg (fun rest => 0x5C :: 0x78 :: rest) same.symm
        · rw [String.toList_ofList]
          exact Hex.toNat_lt_of_decodeChars? decoded
      · rw [Hex.decode?, String.toList_ofList]
        exact decoded
    · cases decoded
  · rintro ⟨digits, rfl, decoded⟩
    have plain := Hex.toNat_lt_of_decodeChars? decoded
    rw [utf8_marked plain, decodeByteaText?, List.map_map]
    have same := List.map_congr_left fun character member =>
      ofNat_toNat_of_ascii (plain character member)
    rw [List.map_id'] at same
    exact (congrArg Hex.decodeChars? same).trans decoded


/-! ## Rendering -/

namespace ColumnRule

/-- The number of bytes that stand for a value of a type, if it is always the same. -/
def encodedWidth? (type : DataType) : Option Nat :=
  match integerBits? type, floatFormat? type with
  | some bits, _ => some (bits / 8)
  | none, some format => some format.width
  | none, none => none

/-- Bytes have the width that the type of a column requires. -/
def Fits (rule : ColumnRule) (bytes : Bytes) : Prop :=
  ∀ width, encodedWidth? rule.dataType = some width → bytes.length = width

theorem exists_render_iff {rule : ColumnRule} {bytes : Bytes} :
    (∃ text, rule.render bytes = some text) ↔ rule.Fits bytes := by
  simp only [render, Fits, encodedWidth?]
  cases integerBits? rule.dataType with
  | some bits =>
      by_cases fits : bytes.length = bits / 8 <;> simp [fits]
  | none =>
      cases floatFormat? rule.dataType with
      | some format =>
          by_cases fits : bytes.length = format.width <;> simp [fits]
      | none =>
          simp

theorem encode?_of_plaintext {rule : ColumnRule} {literal : Literal} {bytes : Bytes}
    (accepted : rule.plaintext literal = .ok (some bytes)) :
    encode? rule.dataType (literalText literal) = some bytes := by
  cases literal with
  | null =>
      cases accepted
  | _ =>
      simp only [plaintext] at accepted
      split at accepted
      · rename_i found
        cases accepted
        exact found
      · cases accepted

/-- The bytes of an accepted literal have the width of the type. -/
theorem fits_of_plaintext {rule : ColumnRule} {literal : Literal} {bytes : Bytes}
    (accepted : rule.plaintext literal = .ok (some bytes)) : rule.Fits bytes := by
  have encoded := encode?_of_plaintext accepted
  intro width required
  simp only [encode?] at encoded
  simp only [encodedWidth?] at required
  cases bits : integerBits? rule.dataType with
  | some bits =>
      simp only [bits, Option.map_eq_some_iff] at encoded required
      rcases encoded with ⟨value, -, rfl⟩
      cases required
      exact bigEndian_length _ _
  | none =>
      cases format : floatFormat? rule.dataType with
      | some format =>
          simp only [bits, format, Option.map_eq_some_iff] at encoded required
          rcases encoded with ⟨value, -, rfl⟩
          cases required
          exact bigEndian_length _ _
      | none =>
          simp only [bits, format] at required
          cases required

/-- The types whose values are not carried as their text. -/
def codedTypes : List DataType :=
  [DataType.int2, DataType.int4, DataType.int8, DataType.float4, DataType.float8, DataType.bool]

/-- A text is encoded as it is for a column of any other type, whose bytes are shown as they
are. -/
theorem encode?_of_uncoded {rule : ColumnRule} (uncoded : rule.dataType ∉ codedTypes) :
    (∀ text, encode? rule.dataType text = some (Text.utf8 text)) ∧
      ∀ bytes, rule.render bytes = some bytes := by
  simp only [codedTypes, List.mem_cons, List.not_mem_nil, or_false, not_or] at uncoded
  rcases uncoded with ⟨notInt2, notInt4, notInt8, notFloat4, notFloat8, notBool⟩
  have noInteger : integerBits? rule.dataType = none := by
    rw [integerBits?, if_neg notInt2, if_neg notInt4, if_neg notInt8]
  have noFloat : floatFormat? rule.dataType = none := by
    rw [floatFormat?, if_neg notFloat4, if_neg notFloat8]
  constructor
  · intro text
    simp only [encode?, noInteger, noFloat, if_neg notBool]
  · intro bytes
    simp only [render, noInteger, noFloat]

/-- A value of any other type is its own rendering. -/
theorem render_of_uncoded {rule : ColumnRule} {literal : Literal} {bytes : Bytes}
    (uncoded : rule.dataType ∉ codedTypes)
    (accepted : rule.plaintext literal = .ok (some bytes)) :
    bytes = Text.utf8 (literalText literal) ∧ rule.render bytes = some bytes := by
  rcases encode?_of_uncoded uncoded with ⟨encodes, renders⟩
  have encoded := encode?_of_plaintext accepted
  rw [encodes] at encoded
  exact ⟨(Option.some.inj encoded).symm, renders bytes⟩

end ColumnRule

/-! ## One value -/

namespace Encryption

/--
What the server returns for a column is the text of a payload that decrypts to these bytes,
which have the width of the type of the column.
-/
def Shows (column : EncryptedColumn) (returned plaintext : Bytes) : Prop :=
  ∃ digits payload, returned = Text.utf8 ("\\x" ++ digits) ∧
    Hex.decode? digits = some payload ∧
    Crypto.Cbc.decrypt column.key payload = .ok plaintext ∧ column.rule.Fits plaintext

/-- What the server returns for a column is the text that was sent for a literal. -/
def Returns (column : EncryptedColumn) (literal : Literal) (returned : Bytes) : Prop :=
  ∃ before after text,
    Gives (treatment.value column.rule literal) before (.value (.string text)) after ∧
      returned = Text.utf8 text

theorem decrypt?_of_shows {column : EncryptedColumn} {returned plaintext : Bytes}
    (shows : Shows column returned plaintext) :
    decrypt? column returned = column.rule.render plaintext := by
  rcases shows with ⟨digits, payload, text, decoded, decrypted, -⟩
  have read := decodeByteaText?_eq_some_iff.mpr ⟨digits, text, decoded⟩
  simp only [decrypt?, read, decrypted, Option.bind_eq_bind, Option.bind_some, Except.toOption]

/-- A value is decrypted exactly if it shows some bytes. -/
theorem exists_decrypt?_iff {column : EncryptedColumn} {returned : Bytes} :
    (∃ text, decrypt? column returned = some text) ↔ ∃ plaintext, Shows column returned plaintext := by
  constructor
  · rintro ⟨text, found⟩
    simp only [decrypt?, Option.bind_eq_bind, Option.bind_eq_some_iff] at found
    rcases found with ⟨payload, read, plaintext, decrypted, rendered⟩
    rcases decodeByteaText?_eq_some_iff.mp read with ⟨digits, same, decoded⟩
    refine ⟨plaintext, digits, payload, same, decoded, ?_,
      ColumnRule.exists_render_iff.mp ⟨text, rendered⟩⟩
    cases result : Crypto.Cbc.decrypt column.key payload with
    | error error =>
        rw [result] at decrypted
        cases decrypted
    | ok bytes =>
        rw [result] at decrypted
        cases decrypted
        rfl
  · rintro ⟨plaintext, shows⟩
    rw [decrypt?_of_shows shows]
    rcases shows with ⟨digits, payload, -, -, -, fits⟩
    exact ColumnRule.exists_render_iff.mpr fits

/-- The text of a payload shows what was encrypted. -/
theorem shows_of_encrypts {column : EncryptedColumn} {plaintext payload : Bytes}
    (fits : column.rule.Fits plaintext) (encrypts : Encrypts column.key plaintext payload) :
    Shows column (Text.utf8 ("\\x" ++ Hex.encode payload)) plaintext := by
  rcases encrypts with ⟨entropy, rest, sealed⟩
  refine ⟨Hex.encode payload, payload, rfl, Hex.decode_encode payload, ?_, fits⟩
  rw [Crypto.Cbc.encrypt] at sealed
  split at sealed
  · cases sealed
  · rename_i whole
    cases sealed
    exact Crypto.Cbc.decrypt_encryptFrom plaintext (not_not.mp whole)
      (Crypto.Entropy.draw_length entropy Crypto.Cbc.blockSize)

/-- What was sent for a literal shows the bytes of the literal. -/
theorem shows_of_returns {column : EncryptedColumn} {literal : Literal} {returned : Bytes}
    (encrypted : column.rule.encryptionKey = some column.key)
    (returns : Returns column literal returned) :
    ∃ plaintext, column.rule.plaintext literal = .ok (some plaintext) ∧
      Shows column returned plaintext := by
  rcases returns with ⟨before, after, text, run, rfl⟩
  have stored := stored_of_gives encrypted run
  generalize sent : Expr.value (.string text) = constant at stored
  cases stored with
  | null =>
      cases sent
  | bytes accepted encrypts =>
      cases sent
      exact ⟨_, accepted, shows_of_encrypts (ColumnRule.fits_of_plaintext accepted) encrypts⟩

/-- An accepted literal is sent as a payload that begins with the random bytes drawn for it. -/
theorem gives_value_of_accepted {rule : ColumnRule} {key plaintext : Bytes} {literal : Literal}
    (encrypted : rule.encryptionKey = some key) (whole : key.length = Crypto.Cbc.keySize)
    (accepted : rule.plaintext literal = .ok (some plaintext)) (before : Traversal State) :
    ∃ payload after, Gives (treatment.value rule literal) before (.ofBytes payload) after ∧
      payload.take Crypto.Cbc.blockSize = (before.own.entropy.draw Crypto.Cbc.blockSize).1 := by
  have length := Crypto.Entropy.draw_length before.own.entropy Crypto.Cbc.blockSize
  have sealed := Crypto.Cbc.encrypt_of_whole whole plaintext before.own.entropy
  refine ⟨Crypto.Cbc.encryptFrom key (before.own.entropy.draw Crypto.Cbc.blockSize).1 plaintext,
    { before with
      own := { before.own with entropy := (before.own.entropy.draw Crypto.Cbc.blockSize).2 } },
    ?_, List.take_left' length⟩
  simp only [treatment, encrypted, value, gives_bind_iff, Walk.gives_ofExcept_iff]
  refine ⟨some plaintext, before, ⟨accepted, rfl⟩, ?_⟩
  simp only [gives_bind_iff, gives_get_iff]
  refine ⟨before, before, ⟨rfl, rfl⟩, ?_⟩
  simp only [sealed, gives_bind_iff, gives_set_iff, gives_pure_iff]
  exact ⟨⟨⟩, _, rfl, trivial, rfl⟩

/-! ## Whole rows -/

/-- The encrypted column at a position of a result set. -/
def markAt (results : List (Option EncryptedColumn)) (index : Nat) : Option EncryptedColumn :=
  results[index]?.join

theorem markAt_succ (results : List (Option EncryptedColumn)) (index : Nat) :
    markAt results (index + 1) = markAt results.tail index := by
  rw [markAt, markAt, List.getElem?_tail]

theorem decryptRow_nil (results : List (Option EncryptedColumn)) :
    decryptRow results [] = .ok [] := by
  cases results <;> rfl

/-- The columns behind the described ones are no encrypted columns. -/
theorem decryptRow_cons (results : List (Option EncryptedColumn)) (value : Option Bytes)
    (row : Row) :
    decryptRow results (value :: row) = do
      return (← decryptValue (markAt results 0) value) :: (← decryptRow results.tail row) := by
  cases results with
  | nil =>
      have rest : decryptRow [] row = .ok row := by
        cases row <;> rfl
      rw [List.tail_nil, rest]
      rfl
  | cons column results =>
      rfl

/-- Only a value of an encrypted column can fail. -/
theorem decryptValue_eq_error_iff {mark : Option EncryptedColumn} {value : Option Bytes}
    {failure : Failure} :
    decryptValue mark value = .error failure ↔
      ∃ column returned, mark = some column ∧ value = some returned ∧
        decrypt? column returned = none ∧ .undecryptable column.label = failure := by
  constructor
  · intro failed
    cases mark with
    | none =>
        cases failed
    | some column =>
        cases value with
        | none =>
            cases failed
        | some returned =>
            simp only [decryptValue] at failed
            cases found : decrypt? column returned with
            | some text =>
                rw [found] at failed
                cases failed
            | none =>
                rw [found] at failed
                cases failed
                exact ⟨column, returned, rfl, rfl, found, rfl⟩
  · rintro ⟨column, returned, rfl, rfl, nothing, rfl⟩
    simp only [decryptValue, nothing]

/-- A row of readable values is decrypted value by value. -/
theorem decryptRow_of_ok {results : List (Option EncryptedColumn)} {row : Row}
    (readable : ∀ index value, row[index]? = some value →
      ∃ text, decryptValue (markAt results index) value = .ok text) :
    ∃ opened, decryptRow results row = .ok opened ∧ opened.length = row.length ∧
      ∀ index value text, row[index]? = some value →
        decryptValue (markAt results index) value = .ok text → opened[index]? = some text := by
  induction row generalizing results with
  | nil =>
      refine ⟨[], decryptRow_nil results, rfl, ?_⟩
      intro index value text place
      cases place
  | cons value row inductionHypothesis =>
      rcases readable 0 value rfl with ⟨text, first⟩
      have readableRest (index : Nat) (value : Option Bytes) (place : row[index]? = some value) :
          ∃ text, decryptValue (markAt results.tail index) value = .ok text := by
        rw [← markAt_succ]
        exact readable (index + 1) value place
      rcases inductionHypothesis readableRest with ⟨opened, rest, length, places⟩
      refine ⟨text :: opened, ?_, ?_, ?_⟩
      · rw [decryptRow_cons, first, rest]
        rfl
      · rw [List.length_cons, List.length_cons, length]
      · intro index value' text' place decrypted
        cases index with
        | zero =>
            cases place
            rw [first] at decrypted
            cases decrypted
            rfl
        | succ index =>
            rw [markAt_succ] at decrypted
            exact places index value' text' place decrypted

/-- One value that cannot be read fails the row. -/
theorem decryptRow_of_error {results : List (Option EncryptedColumn)} {row : Row}
    {index : Nat} {value : Option Bytes} {failure : Failure} (place : row[index]? = some value)
    (unreadable : decryptValue (markAt results index) value = .error failure) :
    ∃ label, decryptRow results row = .error (.undecryptable label) := by
  induction row generalizing results index with
  | nil =>
      cases place
  | cons first row inductionHypothesis =>
      rw [decryptRow_cons]
      cases found : decryptValue (markAt results 0) first with
      | error earlier =>
          rcases decryptValue_eq_error_iff.mp found with ⟨column, returned, -, -, -, rfl⟩
          exact ⟨column.label, rfl⟩
      | ok text =>
          cases index with
          | zero =>
              cases place
              rw [found] at unreadable
              cases unreadable
          | succ index =>
              rw [markAt_succ] at unreadable
              rcases inductionHypothesis place unreadable with ⟨label, rest⟩
              refine ⟨label, ?_⟩
              rw [rest]
              rfl

/-- A row is decrypted exactly if each of its values is, position by position. -/
theorem decryptRow_eq_ok_iff {results : List (Option EncryptedColumn)} {row opened : Row} :
    decryptRow results row = .ok opened ↔
      opened.length = row.length ∧ ∀ index value, row[index]? = some value →
        ∃ text, opened[index]? = some text ∧
          decryptValue (markAt results index) value = .ok text := by
  constructor
  · intro decrypted
    -- Had one value failed, the row would have failed.
    have readable (index : Nat) (value : Option Bytes) (place : row[index]? = some value) :
        ∃ text, decryptValue (markAt results index) value = .ok text := by
      cases found : decryptValue (markAt results index) value with
      | ok text =>
          exact ⟨text, rfl⟩
      | error failure =>
          rcases decryptRow_of_error place found with ⟨label, failed⟩
          rw [decrypted] at failed
          cases failed
    rcases decryptRow_of_ok readable with ⟨same, decryptedSame, length, places⟩
    rw [decrypted] at decryptedSame
    cases decryptedSame
    refine ⟨length, fun index value place => ?_⟩
    rcases readable index value place with ⟨text, found⟩
    exact ⟨text, places index value text place found, found⟩
  · rintro ⟨length, values⟩
    have readable (index : Nat) (value : Option Bytes) (place : row[index]? = some value) :
        ∃ text, decryptValue (markAt results index) value = .ok text := by
      rcases values index value place with ⟨text, -, found⟩
      exact ⟨text, found⟩
    rcases decryptRow_of_ok readable with ⟨same, decrypted, sameLength, places⟩
    rw [decrypted]
    congr 1
    refine List.ext_getElem? fun index => ?_
    cases place : row[index]? with
    | none =>
        rw [List.getElem?_eq_none_iff] at place
        rw [List.getElem?_eq_none (by omega), List.getElem?_eq_none (by omega)]
    | some value =>
        rcases values index value place with ⟨text, here, found⟩
        rw [here, places index value text place found]

theorem run_inspect (row : Row) (state : Traversal State) :
    (inspect row).run.run state =
      ((decryptRow state.own.results row).map (RowAction.keep, ·), state) := by
  have unfolded : (inspect row).run.run state =
      ((Walk.ofExcept (decryptRow state.own.results row) >>= fun row =>
        pure (RowAction.keep, row) : Walk State (RowAction × Row))).run.run state := rfl
  rw [unfolded, run_bind]
  cases decryptRow state.own.results row <;> rfl

/-- A row is kept and decrypted, or it fails. -/
theorem gives_inspect_iff {row opened : Row} {action : RowAction} {before after : Traversal State} :
    Gives (inspect row) before (action, opened) after ↔
      action = .keep ∧ after = before ∧ decryptRow before.own.results row = .ok opened := by
  rw [Gives, run_inspect]
  cases decryptRow before.own.results row with
  | error failure =>
      constructor
      · intro failed
        cases failed
      · rintro ⟨-, -, impossible⟩
        cases impossible
  | ok same =>
      constructor
      · intro kept
        cases kept
        exact ⟨rfl, rfl, rfl⟩
      · rintro ⟨rfl, rfl, decrypted⟩
        cases decrypted
        rfl

/-! ## Descriptions -/

/-- The marks that describing leaves: for each column, whether it shows an encrypted one. -/
def marks (catalog : Catalog) (results : Option ResultColumns) (columns : List Wire.Column) :
    List (Option EncryptedColumn) :=
  columns.map fun column => encrypted? catalog results column.label

/-- A column of a result as the client works with it: one of an encrypted column has the type of
its values, and has to be textual. -/
def described? (catalog : Catalog) (results : Option ResultColumns) (column : Wire.Column) :
    Option Wire.Column :=
  match encrypted? catalog results column.label with
  | none => some column
  | some encrypted =>
      if column.formatCode = 0 then
        some { column with typeOid := encrypted.rule.dataType, typeSize := encrypted.rule.width }
      else none

theorem label_of_described? {catalog : Catalog} {results : Option ResultColumns}
    {column shown : Wire.Column} (described : described? catalog results column = some shown) :
    shown.label = column.label := by
  unfold described? at described
  split at described
  · cases described
    rfl
  · split at described
    · cases described
      rfl
    · cases described

/-- Describing a column records one mark, whether or not the column is encrypted, and goes on. -/
theorem exists_of_gives_describeColumns_cons {catalog : Catalog} {results : Option ResultColumns}
    {column : Wire.Column} {columns described : List Wire.Column} {before after : Traversal State}
    (run : Gives (describeColumns catalog results (column :: columns)) before described after) :
    ∃ shown rest later, described? catalog results column = some shown ∧
      shown :: rest = described ∧ later.scope = before.scope ∧
        later.own.results = before.own.results ++ [encrypted? catalog results column.label] ∧
          Gives (describeColumns catalog results columns) later rest after := by
  cases mark : encrypted? catalog results column.label with
  | none =>
      simp only [describeColumns, mark, recordColumn, gives_bind_iff, gives_modify_iff,
        gives_pure_iff] at run
      rcases run with ⟨_, _, rfl, shown, _, ⟨rfl, rfl⟩, rest, _, others, same, rfl⟩
      refine ⟨column, rest, _, ?_, same, ?_, ?_, others⟩
      · simp only [described?, mark]
      · rfl
      · rfl
  | some encrypted =>
      by_cases textual : column.formatCode = 0
      · simp only [describeColumns, mark, textual, ne_eq, not_true_eq_false, if_false,
          recordColumn, gives_bind_iff, gives_modify_iff, gives_pure_iff] at run
        rcases run with ⟨_, _, rfl, shown, _, ⟨rfl, rfl⟩, rest, _, others, same, rfl⟩
        refine ⟨_, rest, _, ?_, same, ?_, ?_, others⟩
        · simp only [described?, mark, textual, if_true]
        · rfl
        · rfl
      · simp only [describeColumns, mark, textual, ne_eq, not_false_eq_true, if_true,
          gives_bind_iff, not_gives_throw, false_and] at run
        rcases run with ⟨_, _, impossible⟩
        exact impossible.elim

theorem results_of_describeColumns {catalog : Catalog} {results : Option ResultColumns}
    {columns described : List Wire.Column} {before after : Traversal State}
    (run : Gives (describeColumns catalog results columns) before described after) :
    after.own.results = before.own.results ++ marks catalog results columns := by
  induction columns generalizing before described with
  | nil =>
      rcases gives_pure_iff.mp run with ⟨-, rfl⟩
      exact (List.append_nil _).symm
  | cons column columns inductionHypothesis =>
      rcases exists_of_gives_describeColumns_cons run with
        ⟨shown, rest, later, -, -, -, recorded, others⟩
      rw [inductionHypothesis others, recorded, List.append_assoc]
      rfl

/-- What is described column by column leaves the scope. -/
theorem shown_of_describeColumns {catalog : Catalog} {results : Option ResultColumns}
    {columns described : List Wire.Column} {before after : Traversal State}
    (run : Gives (describeColumns catalog results columns) before described after) :
    columns.mapM (described? catalog results) = some described ∧
      described.map Wire.Column.label = columns.map Wire.Column.label ∧
        after.scope = before.scope := by
  induction columns generalizing before described with
  | nil =>
      rcases gives_pure_iff.mp run with ⟨rfl, rfl⟩
      exact ⟨rfl, rfl, rfl⟩
  | cons column columns inductionHypothesis =>
      rcases exists_of_gives_describeColumns_cons run with
        ⟨shown, rest, later, first, rfl, scope, -, others⟩
      rcases inductionHypothesis others with ⟨restShown, labels, restScope⟩
      refine ⟨?_, ?_, restScope.trans scope⟩
      · rw [List.mapM_cons, first, restShown]
        rfl
      · rw [List.map_cons, List.map_cons, labels, label_of_described? first]

theorem results_of_describe {catalog : Catalog} {columns described : List Wire.Column}
    {statement : Nat} {before after : Traversal State}
    (run : Gives (describe catalog columns statement) before described after) :
    after.own.results = marks catalog (before.scope.results? statement) columns := by
  simp only [describe, gives_bind_iff, gives_modify_iff, Walk.gives_scope_iff] at run
  rcases run with ⟨_, _, rfl, scope, _, ⟨rfl, rfl⟩, run⟩
  exact results_of_describeColumns run

theorem shown_of_describe {catalog : Catalog} {columns described : List Wire.Column}
    {statement : Nat} {before after : Traversal State}
    (run : Gives (describe catalog columns statement) before described after) :
    columns.mapM (described? catalog (before.scope.results? statement)) = some described ∧
      described.map Wire.Column.label = columns.map Wire.Column.label ∧
        after.scope = before.scope := by
  simp only [describe, gives_bind_iff, gives_modify_iff, Walk.gives_scope_iff] at run
  rcases run with ⟨_, _, rfl, scope, _, ⟨rfl, rfl⟩, run⟩
  rcases shown_of_describeColumns run with ⟨shown, labels, kept⟩
  exact ⟨shown, labels, kept⟩

theorem encryptionKey_of_markAt {catalog : Catalog} {results : Option ResultColumns}
    {columns : List Wire.Column} {index : Nat} {column : EncryptedColumn}
    (marked : markAt (marks catalog results columns) index = some column) :
    column.rule.encryptionKey = some column.key := by
  rw [markAt, marks, List.getElem?_map, Option.join_eq_some_iff, Option.map_eq_some_iff] at marked
  rcases marked with ⟨described, -, mark⟩
  simp only [encrypted?, Option.bind_eq_bind, Option.bind_eq_some_iff] at mark
  rcases mark with ⟨_, -, reference, -, rule, -, key, encrypted, same⟩
  cases same
  exact encrypted

/-! ## The way back -/

/--
A row with the values of encrypted columns restored: a value that was sent for a literal is
the rendering of the bytes of the literal, and NULLs and the values of other columns stay.
-/
structure Restores (results : List (Option EncryptedColumn)) (row opened : Row) : Prop where
  length : opened.length = row.length
  restored (index : Nat) (column : EncryptedColumn) (literal : Literal) (returned : Bytes) :
    markAt results index = some column → row[index]? = some (some returned) →
      Returns column literal returned →
        ∃ plaintext text, column.rule.plaintext literal = .ok (some plaintext) ∧
          column.rule.render plaintext = some text ∧ opened[index]? = some (some text)
  untouched (index : Nat) :
    markAt results index = none ∨ row[index]? = some none → opened[index]? = row[index]?

theorem decryptValue_of_shows {column : EncryptedColumn} {returned plaintext : Bytes}
    (shows : Shows column returned plaintext) :
    ∃ text, column.rule.render plaintext = some text ∧
      decryptValue (some column) (some returned) = .ok (some text) := by
  rcases exists_decrypt?_iff.mpr ⟨plaintext, shows⟩ with ⟨text, decrypted⟩
  refine ⟨text, ?_, ?_⟩
  · rw [← decrypt?_of_shows shows, decrypted]
  · simp only [decryptValue, decrypted]

theorem decryptValue_of_not_shows {column : EncryptedColumn} {returned : Bytes}
    (blind : ∀ plaintext, ¬ Shows column returned plaintext) :
    decryptValue (some column) (some returned) = .error (.undecryptable column.label) := by
  have nothing : decrypt? column returned = none := by
    cases decrypted : decrypt? column returned with
    | none =>
        rfl
    | some text =>
        rcases exists_decrypt?_iff.mp ⟨text, decrypted⟩ with ⟨plaintext, shows⟩
        exact absurd shows (blind plaintext)
  exact decryptValue_eq_error_iff.mpr ⟨column, returned, rfl, rfl, nothing, rfl⟩

/-- A row is decrypted if each value at a marked position is NULL or was sent for a literal. -/
theorem exists_decryptRow_of_returns {results : List (Option EncryptedColumn)} {row : Row}
    (keyed : ∀ index column, markAt results index = some column →
      column.rule.encryptionKey = some column.key)
    (returns : ∀ index column returned, markAt results index = some column →
      row[index]? = some (some returned) → ∃ literal, Returns column literal returned) :
    ∃ opened, decryptRow results row = .ok opened := by
  have readable (index : Nat) (value : Option Bytes) (place : row[index]? = some value) :
      ∃ text, decryptValue (markAt results index) value = .ok text := by
    cases mark : markAt results index with
    | none =>
        exact ⟨value, rfl⟩
    | some column =>
        cases value with
        | none =>
            exact ⟨none, rfl⟩
        | some returned =>
            rcases returns index column returned mark place with ⟨literal, sent⟩
            rcases shows_of_returns (keyed index column mark) sent with ⟨plaintext, -, shows⟩
            rcases decryptValue_of_shows shows with ⟨text, -, decrypted⟩
            exact ⟨some text, decrypted⟩
  rcases decryptRow_of_ok readable with ⟨opened, decrypted, -, -⟩
  exact ⟨opened, decrypted⟩

/-- A row that is decrypted at all is restored. -/
theorem restores_of_decryptRow {results : List (Option EncryptedColumn)} {row opened : Row}
    (keyed : ∀ index column, markAt results index = some column →
      column.rule.encryptionKey = some column.key)
    (decrypted : decryptRow results row = .ok opened) : Restores results row opened := by
  rcases decryptRow_eq_ok_iff.mp decrypted with ⟨length, values⟩
  constructor
  case length =>
    exact length
  case restored =>
    intro index column literal returned marked place returns
    rcases shows_of_returns (keyed index column marked) returns with ⟨plaintext, accepted, shows⟩
    rcases decryptValue_of_shows shows with ⟨text, rendered, value⟩
    rcases values index (some returned) place with ⟨opened, here, found⟩
    rw [marked, value] at found
    cases found
    exact ⟨plaintext, text, accepted, rendered, here⟩
  case untouched =>
    intro index alone
    cases place : row[index]? with
    | none =>
        rw [List.getElem?_eq_none_iff] at place ⊢
        rw [length]
        exact place
    | some value =>
        rcases values index value place with ⟨text, here, found⟩
        have kept : decryptValue (markAt results index) value = .ok value := by
          rcases alone with unmarked | null
          · rw [unmarked]
            rfl
          · rw [place] at null
            cases null
            cases markAt results index <;> rfl
        rw [kept] at found
        cases found
        exact here

/--
Writing and reading are inverse.  An accepted literal is sent as the text of a payload,
whatever the random bytes.  Describing a result set marks the positions of encrypted
columns; a row is kept and restored if every value at a marked position is NULL or a text
that was sent, and it fails if one of them does not show bytes of the width of its type.
A text or a number comes back as it was written, unless the type of the column has a code
of its own.
-/
theorem sent_values_come_back (catalog : Catalog) :
    (∀ (rule : ColumnRule) (key plaintext : Bytes) (literal : Literal) (before : Traversal State),
      rule.encryptionKey = some key → key.length = 32 →
      rule.plaintext literal = .ok (some plaintext) →
      ∃ payload after, Gives (treatment.value rule literal) before (.ofBytes payload) after ∧
        payload.take 16 = (before.own.entropy.draw 16).1) ∧
    (∀ (columns described : List Wire.Column) (statement : Nat) (before after : Traversal State),
      Gives (describe catalog columns statement) before described after →
      after.own.results = marks catalog (before.scope.results? statement) columns ∧
      ∀ row : Row,
        (∀ action opened last, Gives (inspect row) after (action, opened) last →
          action = .keep ∧ last = after ∧ Restores after.own.results row opened) ∧
        ((∀ index column returned, markAt after.own.results index = some column →
            row[index]? = some (some returned) → ∃ literal, Returns column literal returned) →
          ∃ opened, Gives (inspect row) after (.keep, opened) after) ∧
        (∀ index column returned, markAt after.own.results index = some column →
          row[index]? = some (some returned) → (∀ plaintext, ¬ Shows column returned plaintext) →
          ∃ label, (inspect row).run.run after = (.error (.undecryptable label), after))) ∧
    (∀ (rule : ColumnRule) (plaintext : Bytes) (literal : Literal),
      rule.dataType ∉ ColumnRule.codedTypes → rule.plaintext literal = .ok (some plaintext) →
      rule.render plaintext = some (Text.utf8 (ColumnRule.literalText literal))) := by
  refine ⟨?_, ?_, ?_⟩
  · intro rule key plaintext literal before encrypted whole accepted
    exact gives_value_of_accepted encrypted whole accepted before
  · intro columns described statement before after run
    have marked := results_of_describe run
    have keyed (index : Nat) (column : EncryptedColumn)
        (mark : markAt after.own.results index = some column) :
        column.rule.encryptionKey = some column.key := by
      rw [marked] at mark
      exact encryptionKey_of_markAt mark
    refine ⟨marked, ?_⟩
    intro row
    refine ⟨?_, ?_, ?_⟩
    · intro action opened last inspected
      rcases gives_inspect_iff.mp inspected with ⟨kept, same, decrypted⟩
      exact ⟨kept, same, restores_of_decryptRow keyed decrypted⟩
    · intro returns
      rcases exists_decryptRow_of_returns keyed returns with ⟨opened, decrypted⟩
      exact ⟨opened, gives_inspect_iff.mpr ⟨rfl, rfl, decrypted⟩⟩
    · intro index column returned mark place blind
      have unreadable := decryptValue_of_not_shows blind
      rw [← mark] at unreadable
      rcases decryptRow_of_error place unreadable with ⟨label, failed⟩
      refine ⟨label, ?_⟩
      rw [run_inspect, failed]
      rfl
  · intro rule plaintext literal uncoded accepted
    rcases ColumnRule.render_of_uncoded uncoded accepted with ⟨same, rendered⟩
    rw [rendered, same]

/-- The rule of the name of a city. -/
def cityName : ColumnRule :=
  ((ColumnRule.plain "name" .text).encrypted (List.replicate 32 3)).indexed (List.replicate 32 4)

/-- A name is sent, returned and restored, next to a NULL and the value of another column. -/
theorem cityName_comes_back :
    let before : Traversal State :=
      { scope := { current := some ⟨[("name", ⟨"cities", "name"⟩)]⟩ }
        own := { entropy := { stream := fun _ => 0 } } }
    let columns : List Wire.Column :=
      [{ name := Text.utf8 "id", typeOid := DataType.int4, typeSize := 4 },
        { name := Text.utf8 "name", typeOid := DataType.bytea, typeSize := -1 },
        { name := Text.utf8 "name", typeOid := DataType.bytea, typeSize := -1 }]
    ∃ payload sent described after opened,
      Gives (treatment.value cityName (.string "Ulm")) before (.ofBytes payload) sent ∧
        Gives (describe citiesCatalog columns 0) before described after ∧
          Gives (inspect [some [0x37], some (Text.utf8 ("\\x" ++ Hex.encode payload)), none]) after
            (.keep, opened) after ∧
              opened[0]? = some (some [0x37]) ∧ opened[1]? = some (some (Text.utf8 "Ulm")) ∧
                opened[2]? = some none := by
  intro before columns
  have accepted : cityName.plaintext (.string "Ulm") = .ok (some (Text.utf8 "Ulm")) := rfl
  rcases (sent_values_come_back citiesCatalog).1 cityName (List.replicate 32 3) _ _ before rfl rfl
    accepted with ⟨payload, sent, sends, -⟩
  have describes : ∃ described after, Gives (describe citiesCatalog columns 0) before described after :=
    exists_gives_of_isOk (by decide +kernel)
  rcases describes with ⟨described, after, run⟩
  rcases (sent_values_come_back citiesCatalog).2.1 columns described 0 before after run
    with ⟨marked, rows⟩
  have known : marks citiesCatalog (before.scope.results? 0) columns =
      [none, some ⟨"name", cityName, List.replicate 32 3⟩,
        some ⟨"name", cityName, List.replicate 32 3⟩] := by
    decide +kernel
  rw [known] at marked
  rcases rows [some [0x37], some (Text.utf8 ("\\x" ++ Hex.encode payload)), none]
    with ⟨restores, keeps, -⟩
  have returns : Returns ⟨"name", cityName, List.replicate 32 3⟩ (.string "Ulm")
      (Text.utf8 ("\\x" ++ Hex.encode payload)) :=
    ⟨before, sent, _, sends, rfl⟩
  rw [marked] at keeps restores
  have kept := keeps (by
    intro index column returned mark place
    rcases index with _ | _ | _ | index
    · cases mark
    · cases mark
      cases place
      exact ⟨_, returns⟩
    · cases place
    · cases place)
  rcases kept with ⟨opened, inspected⟩
  rcases restores _ _ _ inspected with ⟨-, -, restored⟩
  rcases restored.restored 1 _ _ _ rfl rfl returns with ⟨plaintext, text, encoded, rendered, place⟩
  rw [accepted] at encoded
  cases encoded
  rw [(sent_values_come_back citiesCatalog).2.2 cityName _ _ (by decide) accepted] at rendered
  cases rendered
  exact ⟨payload, sent, described, after, opened, sends, run, inspected,
    restored.untouched 0 (Or.inl rfl), place, restored.untouched 2 (Or.inr rfl)⟩

end Encryption

end ColumnVeil
