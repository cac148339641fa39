import ColumnVeil.Crypto.Cbc

/-!
# Decryption inverts encryption

Every step of the block cipher has its inverse, so that deciphering undoes enciphering
under any list of round keys; chaining and padding are undone in turn.  The mixing of
columns is the only step with some algebra in it: multiplication by a constant is additive
(`scale_xor`), and the two circulant matrices are inverse to each other.
-/

namespace ColumnVeil.Crypto

namespace Aes

/-! ## The field of 256 elements -/

/-- What holds of all numbers below 256 holds of all bytes. -/
theorem forall_byte {P : UInt8 → Prop} (all : ∀ value : Fin 256, P (UInt8.ofNat value.val))
    (byte : UInt8) : P byte := by
  have one := all ⟨byte.toNat, byte.toNat_lt⟩
  rw [UInt8.ofNat_toNat] at one
  exact one

/-- What doubling adds if the byte had this highest bit. -/
def reduction (top : UInt8) : UInt8 :=
  if top = 0 then 0 else 0x1B

theorem double_eq (byte : UInt8) : double byte = (byte <<< 1) ^^^ reduction (byte &&& 0x80) := by
  revert byte
  apply forall_byte
  decide +kernel

theorem top_eq (byte : UInt8) : byte &&& 0x80 = 0 ∨ byte &&& 0x80 = 0x80 := by
  revert byte
  apply forall_byte
  decide +kernel

theorem and_xor (left right mask : UInt8) :
    (left ^^^ right) &&& mask = (left &&& mask) ^^^ (right &&& mask) := by
  apply UInt8.toBitVec_inj.mp
  apply BitVec.eq_of_getLsbD_eq
  intro index _
  simp only [UInt8.toBitVec_and, UInt8.toBitVec_xor, BitVec.getLsbD_and, BitVec.getLsbD_xor,
    Bool.and_xor_distrib_right]

theorem reduction_xor (left right : UInt8) :
    reduction ((left ^^^ right) &&& 0x80) =
      reduction (left &&& 0x80) ^^^ reduction (right &&& 0x80) := by
  rw [and_xor]
  rcases top_eq left with leftTop | leftTop <;> rcases top_eq right with rightTop | rightTop <;>
    rw [leftTop, rightTop] <;> rfl

theorem double_xor (left right : UInt8) :
    double (left ^^^ right) = double left ^^^ double right := by
  simp only [double_eq, reduction_xor, UInt8.shiftLeft_xor]
  ac_rfl

theorem scale_xor (factor : Nat) (left right : UInt8) :
    scale factor (left ^^^ right) = scale factor left ^^^ scale factor right := by
  have part (bit : Nat) (left right : UInt8) :
      (if factor.testBit bit then left ^^^ right else 0) =
        (if factor.testBit bit then left else 0) ^^^ (if factor.testBit bit then right else 0) := by
    split
    · rfl
    · exact UInt8.xor_self.symm
  simp only [scale, double_xor, part]
  ac_rfl

/-! ## The mixing of columns -/

theorem get_ofFn (entry : Fin 16 → UInt8) (position : Fin 16) :
    (Vector.ofFn entry).get position = entry position :=
  Vector.getElem_ofFn position.isLt

/-- The byte of a column so many places below a byte, in a circle. -/
def below (block : Block) (position : Fin 16) (offset : Nat) : UInt8 :=
  block.get ⟨position.val / 4 * 4 + (position.val + offset) % 4, by omega⟩

theorem below_zero (block : Block) (position : Fin 16) :
    below block position 0 = block.get position := by
  rw [below]
  congr 1
  apply Fin.ext
  simp only
  omega

theorem below_add_four (block : Block) (position : Fin 16) (offset : Nat) :
    below block position (offset + 4) = below block position offset := by
  simp only [below, ← Nat.add_assoc, Nat.add_mod_right]

theorem below_mixWith (first second third fourth : Nat) (block : Block) (position : Fin 16)
    (offset : Nat) :
    below (mixWith first second third fourth block) position offset =
      scale first (below block position offset)
        ^^^ scale second (below block position (offset + 1))
        ^^^ scale third (below block position (offset + 2))
        ^^^ scale fourth (below block position (offset + 3)) := by
  have place (more : Nat) :
      (position.val / 4 * 4 + (position.val + offset) % 4) / 4 * 4
          + (position.val / 4 * 4 + (position.val + offset) % 4 + more) % 4 =
        position.val / 4 * 4 + (position.val + (offset + more)) % 4 := by
    omega
  have own := place 0
  rw [Nat.add_zero, Nat.add_zero] at own
  simp only [below, mixWith, get_ofFn, place, own, Nat.add_zero]

/-- One row of the product of the two matrices of the mixing. -/
theorem unmix_mix (a b c d : UInt8) :
    scale 14 (scale 2 a ^^^ scale 3 b ^^^ scale 1 c ^^^ scale 1 d)
      ^^^ scale 11 (scale 2 b ^^^ scale 3 c ^^^ scale 1 d ^^^ scale 1 a)
      ^^^ scale 13 (scale 2 c ^^^ scale 3 d ^^^ scale 1 a ^^^ scale 1 b)
      ^^^ scale 9 (scale 2 d ^^^ scale 3 a ^^^ scale 1 b ^^^ scale 1 c) = a := by
  -- The byte itself has the coefficient one, and each of the three others has zero.
  have own : scale 14 (scale 2 a) ^^^ scale 11 (scale 1 a) ^^^ scale 13 (scale 1 a)
      ^^^ scale 9 (scale 3 a) = a := by
    revert a
    apply forall_byte
    decide +kernel
  have next : scale 14 (scale 3 b) ^^^ scale 11 (scale 2 b) ^^^ scale 13 (scale 1 b)
      ^^^ scale 9 (scale 1 b) = 0 := by
    revert b
    apply forall_byte
    decide +kernel
  have opposite : scale 14 (scale 1 c) ^^^ scale 11 (scale 3 c) ^^^ scale 13 (scale 2 c)
      ^^^ scale 9 (scale 1 c) = 0 := by
    revert c
    apply forall_byte
    decide +kernel
  have last : scale 14 (scale 1 d) ^^^ scale 11 (scale 1 d) ^^^ scale 13 (scale 3 d)
      ^^^ scale 9 (scale 2 d) = 0 := by
    revert d
    apply forall_byte
    decide +kernel
  calc
    _ = (scale 14 (scale 2 a) ^^^ scale 11 (scale 1 a) ^^^ scale 13 (scale 1 a)
          ^^^ scale 9 (scale 3 a))
        ^^^ (scale 14 (scale 3 b) ^^^ scale 11 (scale 2 b) ^^^ scale 13 (scale 1 b)
          ^^^ scale 9 (scale 1 b))
        ^^^ (scale 14 (scale 1 c) ^^^ scale 11 (scale 3 c) ^^^ scale 13 (scale 2 c)
          ^^^ scale 9 (scale 1 c))
        ^^^ (scale 14 (scale 1 d) ^^^ scale 11 (scale 1 d) ^^^ scale 13 (scale 3 d)
          ^^^ scale 9 (scale 2 d)) := by
      simp only [scale_xor]
      ac_rfl
    _ = a := by
      rw [own, next, opposite, last, UInt8.xor_zero, UInt8.xor_zero, UInt8.xor_zero]

theorem unmixColumns_mixColumns (block : Block) : unmixColumns (mixColumns block) = block := by
  apply Vector.ext
  intro index bound
  have row := below_mixWith 14 11 13 9 (mixColumns block) ⟨index, bound⟩ 0
  have around := below_add_four block ⟨index, bound⟩
  rw [below_zero] at row
  refine Eq.trans row ?_
  simp only [mixColumns, below_mixWith, Nat.zero_add, Nat.reduceAdd]
  rw [around 0, around 1, around 2, unmix_mix, below_zero]
  rfl

/-! ## The other steps -/

theorem unshiftRows_shiftRows (block : Block) : unshiftRows (shiftRows block) = block := by
  apply Vector.ext
  intro index bound
  simp only [unshiftRows, shiftRows, Vector.getElem_ofFn]
  congr 1
  omega

theorem map_unsubstitute_substitute (block : Block) :
    (block.map substitute).map unsubstitute = block := by
  apply Vector.ext
  intro index bound
  rw [Vector.getElem_map, Vector.getElem_map, unsubstitute_substitute]

theorem addBlocks_addBlocks (key block : Block) : addBlocks key (addBlocks key block) = block := by
  apply Vector.ext
  intro index bound
  simp only [addBlocks, Vector.getElem_zipWith]
  rw [← UInt8.xor_assoc, UInt8.xor_self, UInt8.zero_xor]

theorem decryptRounds_encryptRounds (keys : List Block) (block : Block) :
    decryptRounds keys (encryptRounds keys block) = block := by
  -- On the round keys; the last round does not mix columns.
  induction keys generalizing block with
  | nil =>
      rfl
  | cons key keys inductionHypothesis =>
      cases keys with
      | nil =>
          rw [encryptRounds, decryptRounds, addBlocks_addBlocks, unshiftRows_shiftRows,
            map_unsubstitute_substitute]
      | cons next keys =>
          rw [encryptRounds, decryptRounds, inductionHypothesis, addBlocks_addBlocks,
            unmixColumns_mixColumns, unshiftRows_shiftRows, map_unsubstitute_substitute]
          · exact List.cons_ne_nil next keys
          · exact List.cons_ne_nil next keys

/-- Deciphering undoes enciphering, whatever the round keys. -/
theorem decryptWith_encryptWith (keys : List Block) (block : Block) :
    decryptWith keys (encryptWith keys block) = block := by
  cases keys with
  | nil =>
      rfl
  | cons first rest =>
      rw [encryptWith, decryptWith, decryptRounds_encryptRounds, addBlocks_addBlocks]

/-! ## Blocks as bytes -/

theorem ofBytes_toList (block : Block) : Block.ofBytes block.toList = block := by
  apply Vector.ext
  intro index bound
  have inside : index < block.toList.length := by
    rw [Vector.length_toList]
    exact bound
  simp only [Block.ofBytes, Vector.getElem_ofFn]
  rw [List.getD_eq_getElem?_getD, List.getElem?_eq_getElem inside, Vector.getElem_toList]
  rfl

theorem toList_ofBytes {bytes : Bytes} (whole : bytes.length = 16) :
    (Block.ofBytes bytes).toList = bytes := by
  apply List.ext_getElem
  · rw [Vector.length_toList, whole]
  · intro index _ inside
    simp only [Vector.getElem_toList, Block.ofBytes, Vector.getElem_ofFn]
    rw [List.getD_eq_getElem?_getD, List.getElem?_eq_getElem inside]
    rfl

end Aes

namespace Cbc

/-! ## Chaining -/

theorem chain_succ (keys : List Aes.Block) (fuel : Nat) (previous : Aes.Block) {bytes : Bytes}
    (nonempty : bytes ≠ []) :
    chain keys (fuel + 1) previous bytes =
      let block :=
        Aes.encryptWith keys (Aes.addBlocks previous (Aes.Block.ofBytes (bytes.take 16)))
      block.toList ++ chain keys fuel block (bytes.drop 16) := by
  cases bytes with
  | nil =>
      exact absurd rfl nonempty
  | cons head tail =>
      rfl

theorem unchain_succ (keys : List Aes.Block) (fuel : Nat) (previous : Aes.Block) {bytes : Bytes}
    (nonempty : bytes ≠ []) :
    unchain keys (fuel + 1) previous bytes =
      let block := Aes.Block.ofBytes (bytes.take 16)
      (Aes.addBlocks previous (Aes.decryptWith keys block)).toList
        ++ unchain keys fuel block (bytes.drop 16) := by
  cases bytes with
  | nil =>
      exact absurd rfl nonempty
  | cons head tail =>
      rfl

theorem ne_nil_of_blocks {bytes : Bytes} {fuel : Nat} (whole : bytes.length = 16 * (fuel + 1)) :
    bytes ≠ [] := by
  rintro rfl
  simp only [List.length_nil] at whole
  omega

theorem length_chain (keys : List Aes.Block) (fuel : Nat) (previous : Aes.Block) {bytes : Bytes}
    (whole : bytes.length = 16 * fuel) : (chain keys fuel previous bytes).length = 16 * fuel := by
  induction fuel generalizing previous bytes with
  | zero =>
      rfl
  | succ fuel inductionHypothesis =>
      rw [chain_succ keys fuel previous (ne_nil_of_blocks whole)]
      simp only [List.length_append, Vector.length_toList]
      rw [inductionHypothesis]
      · omega
      · rw [List.length_drop, whole]
        omega

/-- Whole blocks come back from their chain. -/
theorem unchain_chain (keys : List Aes.Block) (fuel : Nat) (previous : Aes.Block) {bytes : Bytes}
    (whole : bytes.length = 16 * fuel) :
    unchain keys fuel previous (chain keys fuel previous bytes) = bytes := by
  induction fuel generalizing previous bytes with
  | zero =>
      exact (List.length_eq_zero_iff.mp whole).symm
  | succ fuel inductionHypothesis =>
      have first : (bytes.take 16).length = 16 := by
        rw [List.length_take]
        omega
      have rest : (bytes.drop 16).length = 16 * fuel := by
        rw [List.length_drop]
        omega
      have chained : chain keys (fuel + 1) previous bytes ≠ [] :=
        ne_nil_of_blocks (length_chain keys (fuel + 1) previous whole)
      rw [unchain_succ keys fuel previous chained,
        chain_succ keys fuel previous (ne_nil_of_blocks whole)]
      simp only
      rw [List.take_left' Vector.length_toList, List.drop_left' Vector.length_toList,
        Aes.ofBytes_toList, Aes.decryptWith_encryptWith, Aes.addBlocks_addBlocks,
        Aes.toList_ofBytes first, inductionHypothesis _ rest, List.take_append_drop]

/-! ## Payloads -/

theorem length_pad (plaintext : Bytes) :
    (pad plaintext).length = 16 * (plaintext.length / 16 + 1) := by
  rw [pad, List.length_append, List.length_replicate]
  omega

/-- A payload is a first block and the padded value. -/
theorem length_encryptFrom (key plaintext : Bytes) {first : Bytes} (whole : first.length = 16) :
    (encryptFrom key first plaintext).length = 16 * (plaintext.length / 16 + 2) := by
  have padded := length_pad plaintext
  rw [encryptFrom, List.length_append, length_chain, whole]
  · omega
  · omega

/-- Nothing but a key of a wrong length keeps a value from being encrypted. -/
theorem encrypt_of_whole {key : Bytes} (keyWhole : key.length = keySize) (plaintext : Bytes)
    (entropy : Entropy) :
    encrypt key plaintext entropy =
      .ok (encryptFrom key (entropy.draw blockSize).1 plaintext, (entropy.draw blockSize).2) := by
  rw [encrypt, if_neg (not_not_intro keyWhole)]

/-- A value comes back from its payload, whatever the first block. -/
theorem decrypt_encryptFrom {key first : Bytes} (plaintext : Bytes)
    (keyWhole : key.length = keySize) (whole : first.length = blockSize) :
    decrypt key (encryptFrom key first plaintext) = .ok plaintext := by
  have length := length_encryptFrom key plaintext whole
  have padded := length_pad plaintext
  have fits : ¬ ((encryptFrom key first plaintext).length < 2 * blockSize ∨
      (encryptFrom key first plaintext).length % blockSize ≠ 0) := by
    simp only [blockSize]
    omega
  have body : (encryptFrom key first plaintext).drop blockSize =
      chain (Aes.roundKeys key) ((pad plaintext).length / 16) (Aes.Block.ofBytes first)
        (pad plaintext) := List.drop_left' whole
  have front : (encryptFrom key first plaintext).take blockSize = first := List.take_left' whole
  rw [decrypt, if_neg (not_not_intro keyWhole), if_neg fits]
  simp only [body, front]
  have blocks : (pad plaintext).length = 16 * ((pad plaintext).length / 16) := by
    omega
  rw [length_chain _ _ _ blocks, Nat.mul_div_cancel_left _ (by decide), unchain_chain _ _ _ blocks,
    unpad_pad]

end Cbc

end ColumnVeil.Crypto
