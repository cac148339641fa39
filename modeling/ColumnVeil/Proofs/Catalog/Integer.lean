import ColumnVeil.Proofs.Catalog.Numeral
import ColumnVeil.Proofs.Shield.Decryption
import ColumnVeil.Proofs.Wire.Rewriting
import ColumnVeil.Shield.Index

/-!
# The bytes of integers

A literal for an integer column is accepted exactly if it is a numeral of an integer that
the type of the column holds, and it stands for the two's complement of that integer.  The
bytes depend on the integer and not on the way in which it is written, so they are a key by
which equal integers are found; and the text of such bytes is the canonical numeral, which
stands for the same bytes again.
-/

namespace ColumnVeil

open Sql Decimal

/-! ## Two's complement -/

/-- So many bits can stand for an integer. -/
def InRange (bits : Nat) (value : Int) : Prop :=
  -2 ^ (bits - 1) ≤ value ∧ value < 2 ^ (bits - 1)

/-- Bytes are an integer in two's complement, the most significant byte first. -/
structure TwosComplement (bits : Nat) (value : Int) (bytes : Bytes) : Prop where
  width : 8 * bytes.length = bits
  integer : (BitVec.ofNat bits (ofBigEndian bytes)).toInt = value

theorem ofBigEndian_lt_two_pow {bits : Nat} {bytes : Bytes} (width : 8 * bytes.length = bits) :
    ofBigEndian bytes < 2 ^ bits := by
  have small := ofBigEndian_lt bytes
  rw [← width, Nat.pow_mul]
  exact small

namespace TwosComplement

variable {bits : Nat} {value : Int} {first second bytes : Bytes}

theorem inRange (complement : TwosComplement bits value bytes) : InRange bits value := by
  rw [← complement.integer]
  exact ⟨BitVec.le_toInt _, BitVec.toInt_lt⟩

/-- Different bytes stand for different integers. -/
theorem unique (complement : TwosComplement bits value first)
    (other : TwosComplement bits value second) : first = second := by
  have vectors := BitVec.toInt_inj.mp (complement.integer.trans other.integer.symm)
  have numbers := congrArg BitVec.toNat vectors
  rw [BitVec.toNat_ofNat, BitVec.toNat_ofNat,
    Nat.mod_eq_of_lt (ofBigEndian_lt_two_pow complement.width),
    Nat.mod_eq_of_lt (ofBigEndian_lt_two_pow other.width)] at numbers
  have widths := complement.width.trans other.width.symm
  exact ofBigEndian_injective (by omega) numbers

end TwosComplement

namespace ColumnRule

/-- Bytes of the right width are the two's complement of the integer that is read off them. -/
theorem twosComplement_integerOf {bits : Nat} {bytes : Bytes} (positive : 0 < bits)
    (width : 8 * bytes.length = bits) : TwosComplement bits (integerOf bits bytes) bytes := by
  refine ⟨width, ?_⟩
  have small := ofBigEndian_lt_two_pow width
  have double : 2 ^ bits = 2 * 2 ^ (bits - 1) := by
    rw [← Nat.pow_succ', Nat.succ_eq_add_one, Nat.sub_add_cancel positive]
  rw [BitVec.toInt_eq_toNat_cond, BitVec.toNat_ofNat, Nat.mod_eq_of_lt small, integerOf]
  simp only [Nat.pow_eq]
  by_cases low : ofBigEndian bytes < 2 ^ (bits - 1)
  · rw [if_pos low, if_pos (by omega)]
  · rw [if_neg low, if_neg (by omega)]

/-- The bytes of an integer in range are its two's complement. -/
theorem twosComplement_integerBytes {bits : Nat} {value : Int} (positive : 0 < bits)
    (whole : 8 ∣ bits) (range : InRange bits value) :
    TwosComplement bits value (integerBytes bits value) := by
  rcases whole with ⟨width, rfl⟩
  have lengths : (integerBytes (8 * width) value).length = width := by
    rw [integerBytes, bigEndian_length, Nat.mul_div_cancel_left width (by decide)]
  refine ⟨by rw [lengths], ?_⟩
  have size : Nat.pow 256 width = 2 ^ (8 * width) := (Nat.pow_mul 2 8 width).symm
  have modulus : (0 : Int) < (2 ^ (8 * width) : Nat) := by exact_mod_cast Nat.two_pow_pos _
  have nonnegative := Int.emod_nonneg value modulus.ne'
  have double : 2 ^ (8 * width) = 2 * 2 ^ (8 * width - 1) := by
    rw [← Nat.pow_succ', Nat.succ_eq_add_one, Nat.sub_add_cancel positive]
  have read : ofBigEndian (integerBytes (8 * width) value) =
      (value % (2 ^ (8 * width) : Nat)).toNat := by
    have small := Int.emod_lt_of_pos value modulus
    rw [integerBytes, ofBigEndian_bigEndian, Nat.mul_div_cancel_left width (by decide), size]
    exact Nat.mod_eq_of_lt (by simp only [Nat.pow_eq]; omega)
  rcases range with ⟨low, high⟩
  rw [read, BitVec.toInt_ofNat', Int.toNat_of_nonneg nonnegative, Int.emod_bmod]
  have doubled : ((2 ^ (8 * width) : Nat) : Int) = 2 * 2 ^ (8 * width - 1) := by
    exact_mod_cast double
  exact Int.bmod_eq_of_le (by omega) (by omega)

/-! ## Literals -/

/-- The integer types and their widths in bits. -/
def integerTypes : List (DataType × Nat) :=
  [(DataType.int2, 16), (DataType.int4, 32), (DataType.int8, 64)]

theorem integerBits?_of_mem {type : DataType} {bits : Nat} (integer : (type, bits) ∈ integerTypes) :
    integerBits? type = some bits ∧ 0 < bits ∧ 8 ∣ bits := by
  simp only [integerTypes, List.mem_cons, List.not_mem_nil, or_false, Prod.mk.injEq] at integer
  rcases integer with ⟨rfl, rfl⟩ | ⟨rfl, rfl⟩ | ⟨rfl, rfl⟩ <;> decide

/-- The text of a literal that is written in quotes or as a number. -/
def written? : Literal → Option String
  | .string text => some text
  | .number text => some text
  | _ => none

/-- A literal is a way to write an integer. -/
def Denotes (literal : Literal) (value : Int) : Prop :=
  ∃ text, ∃ numeral : Numeral,
    written? literal = some text ∧ numeral.Within text ∧ numeral.value = value

/-- What is left of the blanks is read as the integer that the literal denotes. -/
theorem denotes_iff {literal : Literal} {text : String} {value : Int}
    (written : written? literal = some text) :
    Denotes literal value ↔ parseInt? (Text.trim text) = some value := by
  rw [Numeral.parseInt?_trim_eq_some_iff]
  constructor
  · rintro ⟨other, numeral, same, within, denoted⟩
    cases written.symm.trans same
    exact ⟨numeral, within, denoted⟩
  · rintro ⟨numeral, within, denoted⟩
    exact ⟨text, numeral, written, within, denoted⟩

/-- A literal denotes one integer at most. -/
theorem Denotes.unique {literal : Literal} {first second : Int} (denotes : Denotes literal first)
    (other : Denotes literal second) : first = second := by
  have denotation := denotes
  rcases denotation with ⟨text, -, written, -, -⟩
  have parsed := (denotes_iff written).mp denotes
  rw [(denotes_iff written).mp other] at parsed
  exact (Option.some.inj parsed).symm

theorem parseSigned?_eq_some_iff {bits : Nat} {text : String} {value : Int} :
    parseSigned? bits text = some value ↔ parseInt? text = some value ∧ InRange bits value := by
  simp only [parseSigned?, Option.bind_eq_bind, Option.bind_eq_some_iff, Nat.pow_eq]
  constructor
  · rintro ⟨parsed, same, guarded⟩
    split at guarded
    · rename_i range
      cases guarded
      exact ⟨same, by exact_mod_cast range⟩
    · cases guarded
  · rintro ⟨same, range⟩
    exact ⟨value, same, if_pos (by exact_mod_cast range)⟩

section Columns

variable {rule : ColumnRule} {bits : Nat}

theorem plaintext_of_written {literal : Literal} {text : String}
    (integer : (rule.dataType, bits) ∈ integerTypes) (written : written? literal = some text) :
    rule.plaintext literal =
      match (parseSigned? bits (Text.trim text)).map (integerBytes bits) with
      | some bytes => .ok (some bytes)
      | none => .error (.query (.invalidLiteral (Text.trim text) rule.column)) := by
  have width := (integerBits?_of_mem integer).1
  cases literal with
  | null => cases written
  | boolean value => cases written
  | string text =>
      cases written
      cases found : (parseSigned? bits (Text.trim text)).map (integerBytes bits) <;>
        simp only [plaintext, literalText, encode?, width, found]
  | number text =>
      cases written
      cases found : (parseSigned? bits (Text.trim text)).map (integerBytes bits) <;>
        simp only [plaintext, literalText, encode?, width, found]

/-- The bytes of an accepted literal are the two's complement of what it denotes. -/
theorem plaintext_eq_ok_iff {literal : Literal} {text : String} {bytes : Bytes}
    (integer : (rule.dataType, bits) ∈ integerTypes) (written : written? literal = some text) :
    rule.plaintext literal = .ok (some bytes) ↔
      ∃ value, Denotes literal value ∧ TwosComplement bits value bytes := by
  rcases integerBits?_of_mem integer with ⟨-, positive, whole⟩
  rw [plaintext_of_written integer written]
  constructor
  · intro accepted
    split at accepted
    · rename_i found
      cases accepted
      rcases Option.map_eq_some_iff.mp found with ⟨value, parsed, rfl⟩
      rcases parseSigned?_eq_some_iff.mp parsed with ⟨read, range⟩
      exact ⟨value, (denotes_iff written).mpr read,
        twosComplement_integerBytes positive whole range⟩
    · cases accepted
  · rintro ⟨value, denotes, complement⟩
    have read := (denotes_iff written).mp denotes
    rw [parseSigned?_eq_some_iff.mpr ⟨read, complement.inRange⟩]
    have same := (twosComplement_integerBytes positive whole complement.inRange).unique complement
    rw [Option.map_some, same]

theorem twosComplement_of_plaintext {literal : Literal} {value : Int} {bytes : Bytes}
    (integer : (rule.dataType, bits) ∈ integerTypes) (denotes : Denotes literal value)
    (accepted : rule.plaintext literal = .ok (some bytes)) : TwosComplement bits value bytes := by
  have denotation := denotes
  rcases denotation with ⟨text, -, written, -, -⟩
  rcases (plaintext_eq_ok_iff integer written).mp accepted with ⟨other, same, complement⟩
  rw [denotes.unique same]
  exact complement

/-- A literal is accepted exactly if it denotes an integer that the type holds. -/
theorem exists_plaintext_iff {literal : Literal} {text : String}
    (integer : (rule.dataType, bits) ∈ integerTypes) (written : written? literal = some text) :
    (∃ bytes, rule.plaintext literal = .ok (some bytes)) ↔
      ∃ value, Denotes literal value ∧ InRange bits value := by
  rcases integerBits?_of_mem integer with ⟨-, positive, whole⟩
  simp only [plaintext_eq_ok_iff integer written]
  constructor
  · rintro ⟨bytes, value, denotes, complement⟩
    exact ⟨value, denotes, complement.inRange⟩
  · rintro ⟨value, denotes, range⟩
    exact ⟨integerBytes bits value, value, denotes,
      twosComplement_integerBytes positive whole range⟩

/-- Accepted literals stand for the same bytes exactly if they denote the same integer. -/
theorem eq_iff_of_plaintext {first second : Literal} {firstValue secondValue : Int}
    {firstBytes secondBytes : Bytes} (integer : (rule.dataType, bits) ∈ integerTypes)
    (denotes : Denotes first firstValue) (other : Denotes second secondValue)
    (accepted : rule.plaintext first = .ok (some firstBytes))
    (acceptedOther : rule.plaintext second = .ok (some secondBytes)) :
    firstBytes = secondBytes ↔ firstValue = secondValue := by
  have complement := twosComplement_of_plaintext integer denotes accepted
  have complementOther := twosComplement_of_plaintext integer other acceptedOther
  constructor
  · rintro rfl
    exact complement.integer.symm.trans complementOther.integer
  · rintro rfl
    exact complement.unique complementOther

/-! ## Texts -/

/-- Bytes of the width of the type are shown as the canonical numeral of their integer. -/
theorem render_of_integer {bytes : Bytes} (integer : (rule.dataType, bits) ∈ integerTypes) :
    rule.render bytes =
      if 8 * bytes.length = bits then some (Text.utf8 (canonical (integerOf bits bytes)).text)
      else none := by
  rcases integerBits?_of_mem integer with ⟨width, -, multiple⟩
  have whole : bytes.length = bits / 8 ↔ 8 * bytes.length = bits := by omega
  simp only [render, width, whole, renderInt_eq_text]

/-- Bytes of the width of the type stand for an integer, and are shown as its canonical
numeral. -/
theorem render_eq_some_iff {bytes shown : Bytes} (integer : (rule.dataType, bits) ∈ integerTypes) :
    rule.render bytes = some shown ↔
      ∃ numeral : Numeral, numeral.IsCanonical ∧ TwosComplement bits numeral.value bytes ∧
        shown = Text.utf8 numeral.text := by
  have positive := (integerBits?_of_mem integer).2.1
  rw [render_of_integer integer]
  constructor
  · intro rendered
    split at rendered
    · rename_i width
      cases rendered
      refine ⟨canonical (integerOf bits bytes), isCanonical_canonical _, ?_, rfl⟩
      rw [value_canonical]
      exact twosComplement_integerOf positive width
    · cases rendered
  · rintro ⟨numeral, shape, complement, rfl⟩
    have read := (twosComplement_integerOf positive complement.width).integer
    rw [complement.integer] at read
    rw [if_pos complement.width, ← read, ← shape.eq_canonical]

/-- The text of bytes stands for them again. -/
theorem plaintext_of_render {bytes : Bytes} {text : String} {literal : Literal}
    (integer : (rule.dataType, bits) ∈ integerTypes)
    (rendered : rule.render bytes = some (Text.utf8 text)) (written : written? literal = some text) :
    rule.plaintext literal = .ok (some bytes) := by
  rcases (render_eq_some_iff integer).mp rendered with ⟨numeral, -, complement, same⟩
  cases Text.utf8_injective same
  exact (plaintext_eq_ok_iff integer written).mpr
    ⟨numeral.value, ⟨numeral.text, numeral, written, numeral.within_text, rfl⟩, complement⟩

/-! ## The main result -/

/--
Integers are encoded canonically in a column of an integer type.  A literal in quotes or a
number is accepted exactly if it denotes an integer that the type holds, and then stands for
the two's complement of that integer; so accepted literals stand for the same bytes, which
are what is indexed and joined by, exactly if they denote the same integer.  Bytes are shown
exactly if they have the width of the type, as the canonical numeral of the integer that
they are, and a literal with that text stands for the same bytes.
-/
theorem integers_are_encoded_canonically (integer : (rule.dataType, bits) ∈ integerTypes) :
    (∀ literal text, written? literal = some text →
      ((∃ bytes, rule.plaintext literal = .ok (some bytes)) ↔
        ∃ value, Denotes literal value ∧ InRange bits value) ∧
      ∀ bytes, rule.plaintext literal = .ok (some bytes) ↔
        ∃ value, Denotes literal value ∧ TwosComplement bits value bytes) ∧
    (∀ first second firstValue secondValue firstBytes secondBytes,
      Denotes first firstValue → Denotes second secondValue →
      rule.plaintext first = .ok (some firstBytes) →
      rule.plaintext second = .ok (some secondBytes) →
      (firstBytes = secondBytes ↔ firstValue = secondValue)) ∧
    (∀ literal bytes, rule.plaintext literal = .ok (some bytes) →
      (∀ index, IndexShadow.value rule index literal =
        .ok (.ofBytes (Crypto.Sha256.hmac index.key bytes))) ∧
      ∀ catalog, JoinShadow.value catalog rule literal =
        .ok (.ofBytes ((Crypto.Sha256.digest bytes).take catalog.joinKeySize))) ∧
    (∀ bytes, (rule.render bytes = none ↔ 8 * bytes.length ≠ bits) ∧
      ∀ shown, rule.render bytes = some shown ↔
        ∃ numeral : Numeral, numeral.IsCanonical ∧ TwosComplement bits numeral.value bytes ∧
          shown = Text.utf8 numeral.text) ∧
    ∀ bytes text literal, rule.render bytes = some (Text.utf8 text) →
      written? literal = some text → rule.plaintext literal = .ok (some bytes) := by
  refine ⟨fun literal text written => ⟨exists_plaintext_iff integer written, fun bytes =>
    plaintext_eq_ok_iff integer written⟩, ?_, ?_, fun bytes => ⟨?_, fun shown =>
      render_eq_some_iff integer⟩, fun bytes text literal => plaintext_of_render integer⟩
  · intro first second firstValue secondValue firstBytes secondBytes
    exact eq_iff_of_plaintext integer
  · intro literal bytes accepted
    constructor
    · intro index
      simp only [IndexShadow.value, accepted, bind, Except.bind, pure, Except.pure]
    · intro catalog
      simp only [JoinShadow.value, accepted, bind, Except.bind, pure, Except.pure]
  · rw [render_of_integer integer]
    exact ite_eq_right_iff.trans (by simp)

end Columns

theorem integers_are_encoded_canonically_int2 :
    ((plain "height" DataType.int2).dataType, 16) ∈ integerTypes ∧
      (plain "height" DataType.int2).plaintext (.string " -032768 ") = .ok (some [0x80, 0x00]) ∧
      (plain "height" DataType.int2).render [0x80, 0x00] = some (Text.utf8 "-32768") := by
  have integer : ((plain "height" DataType.int2).dataType, 16) ∈ integerTypes := by decide
  have least : TwosComplement 16 (-32768) [0x80, 0x00] := ⟨rfl, by decide⟩
  rcases integers_are_encoded_canonically integer with ⟨literals, -, -, shown, -⟩
  refine ⟨integer, ((literals (.string " -032768 ") _ rfl).2 [0x80, 0x00]).mpr ⟨-32768, ?_, least⟩,
    ((shown [0x80, 0x00]).2 _).mpr ⟨⟨.minus, [3, 2, 7, 6, 8], by decide⟩, ⟨?_, ?_⟩, least, rfl⟩⟩
  · exact ⟨_, ⟨.minus, [0, 3, 2, 7, 6, 8], by decide⟩, rfl,
      ⟨[' '], [' '], List.forall_mem_singleton.mpr (by decide),
        List.forall_mem_singleton.mpr (by decide), rfl⟩, by decide⟩
  · decide
  · decide

end ColumnRule

end ColumnVeil
