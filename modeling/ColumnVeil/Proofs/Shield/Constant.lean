import ColumnVeil.Proofs.Catalog.Acceptance
import ColumnVeil.Proofs.Crypto.Cipher
import ColumnVeil.Proofs.Shield.Insertion
import ColumnVeil.Proofs.Shield.Renewal

/-!
# Constants for literals

Under rules whose keys fit, the only thing that can be wrong about a literal is the literal
itself.  A literal of a column is refused because it is no value of the column's type, or there is
a constant for it: `NULL`, or hexadecimal digits of a number that the shield fixes.

An accepted configuration has only such rules, so no statement fails on a key, and the constants of
a join shadow have two digits for each byte of the join key size.
-/

namespace ColumnVeil

open Sql

/-! ## Hexadecimal digits -/

namespace Hex

/-- A text of hexadecimal digits in lower case. -/
def Digits (text : String) : Prop :=
  ∀ character ∈ text.toList, ∃ value < 16, character = digit value

theorem digits_encode (bytes : Bytes) : Digits (encode bytes) := by
  intro character member
  rw [encode, String.toList_ofList] at member
  obtain ⟨byte, -, shown⟩ := List.mem_flatMap.mp member
  rcases List.mem_cons.mp shown with high | low
  · have bound := byte.toNat_lt
    exact ⟨byte.toNat / 16, by omega, high⟩
  · exact ⟨byte.toNat % 16, Nat.mod_lt _ (by decide), List.mem_singleton.mp low⟩

theorem length_encode (bytes : Bytes) : (encode bytes).length = 2 * bytes.length := by
  rw [encode, String.length_ofList]
  induction bytes with
  | nil => rfl
  | cons byte rest inductionHypothesis =>
      show (encodeChars rest).length + 1 + 1 = 2 * (rest.length + 1)
      omega

end Hex

/-! ## What becomes of a literal -/

/--
What becomes of a literal of a column under a shield: `NULL`, which for a column of the shield
stands for `NULL` only, a constant whose digits are of a number that the shield allows, or a
refusal of the literal itself.
-/
inductive ColumnRule.Becomes (rule : ColumnRule) (literal : Literal) (concerned : Bool)
    (allowed : Nat → Prop) : Except Failure Expr → Prop
  | null (absent : concerned = true → literal = .null) : Becomes rule literal concerned allowed
      (.ok (.value .null))
  | constant {digits : String} (hexadecimal : Hex.Digits digits) (length : allowed digits.length) :
      Becomes rule literal concerned allowed (.ok (.value (.string ("\\x" ++ digits))))
  | refused (unreadable : encode? rule.dataType (literalText literal) = none) :
      Becomes rule literal concerned allowed
        (.error (.query (.invalidLiteral (Text.trim (literalText literal)) rule.column)))

section Becomes

variable {rule : ColumnRule} {literal : Literal} {concerned : Bool} {allowed : Nat → Prop}

theorem ColumnRule.Becomes.ofBytes {bytes : Bytes} (length : allowed (2 * bytes.length)) :
    rule.Becomes literal concerned allowed (.ok (.ofBytes bytes)) :=
  .constant (Hex.digits_encode bytes) (Hex.length_encode bytes ▸ length)

/-- A literal is NULL, or it has its bytes, or it is no value of the type of the column. -/
theorem ColumnRule.plaintext_cases (rule : ColumnRule) (literal : Literal) :
    (literal = .null ∧ rule.plaintext literal = .ok none) ∨
      (∃ bytes, rule.plaintext literal = .ok (some bytes)) ∨
      encode? rule.dataType (literalText literal) = none ∧ rule.plaintext literal =
        .error (.query (.invalidLiteral (Text.trim (literalText literal)) rule.column)) := by
  cases literal with
  | null => exact Or.inl ⟨rfl, rfl⟩
  | _ =>
      refine Or.inr ?_
      simp only [plaintext]
      split
      · rename_i bytes _
        exact Or.inl ⟨bytes, rfl⟩
      · rename_i unreadable
        exact Or.inr ⟨unreadable, rfl⟩

/-- A value that a shield computes from the bytes of a literal. -/
theorem ColumnRule.becomes_of_computed {computed : Option Bytes → Except Failure Expr}
    (ofNull : computed none = .ok .null)
    (ofBytes : ∀ bytes, rule.Becomes literal concerned allowed (computed (some bytes))) :
    rule.Becomes literal concerned allowed (rule.plaintext literal >>= computed) := by
  rcases rule.plaintext_cases literal with ⟨null, known⟩ | ⟨bytes, known⟩ | ⟨unreadable, known⟩
  · rw [known]
    show rule.Becomes literal concerned allowed (computed none)
    rw [ofNull]
    exact .null fun _ => null
  · rw [known]
    exact ofBytes bytes
  · rw [known]
    exact .refused unreadable

end Becomes

/-! ## The three shields -/

theorem IndexShadow.becomes_value (rule : ColumnRule) (literal : Literal)
    (state : Traversal Unit) : rule.Becomes literal rule.blindIndex.isSome (· = 64)
      ((treatment.value rule literal).run.run state).1 := by
  cases indexed : rule.blindIndex with
  | none =>
      simp only [treatment, indexed]
      exact .null fun concerned => absurd concerned (by decide)
  | some index =>
      simp only [treatment, indexed, Walk.run_ofExcept]
      refine ColumnRule.becomes_of_computed rfl fun bytes => .ofBytes ?_
      rw [Crypto.Sha256.hmac_length]

theorem JoinShadow.becomes_value {catalog : Catalog} (fits : catalog.joinKeySize ≤ 32)
    (rule : ColumnRule) (literal : Literal) (state : Traversal State) :
    rule.Becomes literal true (· = 2 * catalog.joinKeySize)
      (((treatment catalog).value rule literal).run.run state).1 := by
  simp only [treatment, Walk.run_ofExcept]
  refine ColumnRule.becomes_of_computed rfl fun bytes => .ofBytes ?_
  rw [List.length_take, Crypto.Sha256.digest_length, Nat.min_eq_left fits]

/-- A payload has a first block and one block at least for the value. -/
def Encryption.IsPayload (count : Nat) : Prop :=
  64 ≤ count ∧ count % 32 = 0

theorem Encryption.becomes_value {rule : ColumnRule} (fits : rule.KeysFit) (literal : Literal)
    (state : Traversal State) : rule.Becomes literal rule.encryptionKey.isSome IsPayload
      ((treatment.value rule literal).run.run state).1 := by
  cases encrypted : rule.encryptionKey with
  | none =>
      simp only [treatment, encrypted]
      exact .null fun concerned => absurd concerned (by decide)
  | some key =>
      simp only [treatment, encrypted]
      rcases rule.plaintext_cases literal with ⟨null, known⟩ | ⟨bytes, known⟩ | ⟨unreadable, known⟩
      · rw [value, known]
        exact .null fun _ => null
      · have whole := Crypto.Entropy.draw_length state.own.entropy Crypto.Cbc.blockSize
        rw [run_value known, Crypto.Cbc.encrypt_of_whole (fits.encryptionKey key encrypted)]
        refine .ofBytes ?_
        rw [Crypto.Cbc.length_encryptFrom key bytes whole]
        constructor
        · omega
        · omega
      · rw [value, known]
        exact .refused unreadable

/--
A configuration is accepted exactly if a digest can fill the join key size and all definitions are
valid.  Then every key that is kept has thirty-two bytes, and whatever the literal and whenever it
comes, the shields refuse nothing but a literal that is no value of its column's type: otherwise
encryption makes `NULL` or the digits of whole blocks of it, the blind index `NULL` or sixty-four
digits, and the join shadow `NULL` or two digits for each byte of the join key size.
-/
theorem accepted_keys_never_fail (tables : List TableDefinition) (joinKeySize : Nat) :
    ((∃ catalog, Catalog.ofDefinitions tables joinKeySize = .ok catalog) ↔
      (1 ≤ joinKeySize ∧ joinKeySize ≤ 32) ∧
        ∀ table ∈ tables, ∀ definition ∈ table.columns, definition.Valid) ∧
    ∀ catalog, Catalog.ofDefinitions tables joinKeySize = .ok catalog →
      catalog.joinKeySize = joinKeySize ∧ ∀ kept ∈ catalog.rules, kept.2.KeysFit ∧
        ∀ literal,
          (∀ state, kept.2.Becomes literal kept.2.encryptionKey.isSome Encryption.IsPayload
            ((Encryption.treatment.value kept.2 literal).run.run state).1) ∧
          (∀ state, kept.2.Becomes literal kept.2.blindIndex.isSome (· = 64)
            ((IndexShadow.treatment.value kept.2 literal).run.run state).1) ∧
          ∀ state, kept.2.Becomes literal true (· = 2 * joinKeySize)
            (((JoinShadow.treatment catalog).value kept.2 literal).run.run state).1 := by
  refine ⟨Catalog.exists_ofDefinitions_iff, fun catalog accepted => ?_⟩
  obtain ⟨same, fits⟩ := Catalog.joinKeySize_of_accepted accepted
  refine ⟨same, fun kept member => ?_⟩
  have keysFit := Catalog.keysFit_of_accepted accepted member
  refine ⟨keysFit, fun literal => ⟨Encryption.becomes_value keysFit literal,
    IndexShadow.becomes_value kept.2 literal, fun state => ?_⟩⟩
  rw [← same] at fits ⊢
  exact JoinShadow.becomes_value fits kept.2 literal state

/-- Towns with an area, under all three protections. -/
def keyedTowns : List TableDefinition :=
  [{ name := "Towns"
     columns := [{ name := "Area", type := "int4", encryptionKey := some (List.replicate 32 1),
                   blindIndexKey := some (List.replicate 32 2), join := true }] }]

/-- The rule for the area. -/
def keyedArea : ColumnRule :=
  ((ColumnRule.plain "area" .int4).encrypted (List.replicate 32 1)).indexed (List.replicate 32 2)
    |>.joined

/-- With join keys of four bytes, the constants for the shadows of the area have eight digits and
sixty-four, and nothing but a literal that is no integer is refused. -/
theorem keyedTowns_never_fail :
    let catalog := Catalog.insert { joinKeySize := 4 } "towns" keyedArea
    Catalog.ofDefinitions keyedTowns 4 = .ok catalog ∧ keyedArea.KeysFit ∧
      ∀ literal state indexed joined,
        keyedArea.Becomes literal true Encryption.IsPayload
          ((Encryption.treatment.value keyedArea literal).run.run state).1 ∧
        keyedArea.Becomes literal true (· = 64)
          ((IndexShadow.treatment.value keyedArea literal).run.run indexed).1 ∧
        keyedArea.Becomes literal true (· = 8)
          (((JoinShadow.treatment catalog).value keyedArea literal).run.run joined).1 := by
  intro catalog
  have computed : (Catalog.ofDefinitions keyedTowns 4).toOption = some catalog := by
    decide +kernel
  have accepted : Catalog.ofDefinitions keyedTowns 4 = .ok catalog := by
    cases result : Catalog.ofDefinitions keyedTowns 4 with
    | error failure =>
        rw [result] at computed
        cases computed
    | ok found =>
        rw [result] at computed
        rw [Option.some.inj computed]
  have member : ((⟨"towns", "area"⟩ : ColumnRef), keyedArea) ∈ catalog.rules := by
    decide +kernel
  obtain ⟨keysFit, each⟩ := ((accepted_keys_never_fail keyedTowns 4).2 catalog accepted).2 _ member
  refine ⟨accepted, keysFit, fun literal state indexed joined => ?_⟩
  obtain ⟨encryption, index, join⟩ := each literal
  exact ⟨encryption state, index indexed, join joined⟩

end ColumnVeil
