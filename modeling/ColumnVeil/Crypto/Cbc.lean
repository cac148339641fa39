import ColumnVeil.Crypto.Aes
import ColumnVeil.Crypto.Entropy

/-!
# Encryption of values

A value is padded to whole blocks (PKCS#7), chained through AES-256 from a random first
block, and sent with that first block in front.  `unpad_pad` says that padding can be taken
off again.
-/

namespace ColumnVeil.Crypto

/-- Why a value could not be encrypted or decrypted. -/
inductive CipherError
  /-- The key does not have thirty-two bytes. -/
  | keyLength (length : Nat)
  /-- The payload is not a first block and at least one further whole block. -/
  | payloadLength (length : Nat)
  /-- The deciphered blocks do not end in a padding. -/
  | badPadding
deriving Repr, DecidableEq

/-- The wording of a cipher error. -/
def CipherError.message : CipherError → String
  | .keyLength length => s!"encryption key must be 32 bytes, got {length}"
  | .payloadLength length => s!"ciphertext of {length} bytes is not a valid AES-CBC payload"
  | .badPadding => "decryption failed"

namespace Cbc

/-- The bytes of a key. -/
def keySize : Nat := 32

/-- The bytes of a block. -/
def blockSize : Nat := 16

/-- Fill up to whole blocks with copies of the number of bytes added, at least one. -/
def pad (plaintext : Bytes) : Bytes :=
  let count := 16 - plaintext.length % 16
  plaintext ++ List.replicate count (UInt8.ofNat count)

/-- Take a padding off, if there is a proper one. -/
def unpad? (padded : Bytes) : Option Bytes :=
  match padded.getLast? with
  | none => none
  | some last =>
    let count := last.toNat
    let kept := padded.length - count
    if 1 ≤ count ∧ count ≤ 16 ∧ count ≤ padded.length ∧ (padded.drop kept).all (· == last) then
      some (padded.take kept)
    else none

theorem unpad_pad (plaintext : Bytes) : unpad? (pad plaintext) = some plaintext := by
  have bound := Nat.mod_lt plaintext.length (show 16 > 0 by decide)
  have positive : 0 < 16 - plaintext.length % 16 := by omega
  have last : (pad plaintext).getLast? = some (UInt8.ofNat (16 - plaintext.length % 16)) := by
    have nonzero : ¬ 16 - plaintext.length % 16 = 0 := by omega
    simp [pad, List.getLast?_append, List.getLast?_replicate, nonzero]
  have value : (UInt8.ofNat (16 - plaintext.length % 16)).toNat = 16 - plaintext.length % 16 := by
    rw [UInt8.toNat_ofNat']; omega
  have length : (pad plaintext).length = plaintext.length + (16 - plaintext.length % 16) := by
    simp [pad]
  have kept : (pad plaintext).length - (16 - plaintext.length % 16) = plaintext.length := by
    omega
  simp only [unpad?, last, value, kept]
  rw [if_pos]
  · simp [pad]
  · refine ⟨by omega, by omega, by omega, ?_⟩
    simp [pad]

/-- Encipher whole blocks, each mixed with the one before it; `fuel` bounds their number. -/
def chain (keys : List Aes.Block) : (fuel : Nat) → Aes.Block → Bytes → Bytes
  | 0, _, _ => []
  | _, _, [] => []
  | fuel + 1, previous, bytes =>
    let block := Aes.encryptWith keys (Aes.addBlocks previous (Aes.Block.ofBytes (bytes.take 16)))
    block.toList ++ chain keys fuel block (bytes.drop 16)

/-- Decipher whole blocks and undo the mixing; `fuel` bounds their number. -/
def unchain (keys : List Aes.Block) : (fuel : Nat) → Aes.Block → Bytes → Bytes
  | 0, _, _ => []
  | _, _, [] => []
  | fuel + 1, previous, bytes =>
    let block := Aes.Block.ofBytes (bytes.take 16)
    (Aes.addBlocks previous (Aes.decryptWith keys block)).toList ++ unchain keys fuel block (bytes.drop 16)

/-- The payload of a value under a key, with the given first block. -/
def encryptFrom (key first plaintext : Bytes) : Bytes :=
  let padded := pad plaintext
  first ++ chain (Aes.roundKeys key) (padded.length / 16) (Aes.Block.ofBytes first) padded

/-- Encrypt a value under a key.  The first block is drawn after the key is checked. -/
def encrypt (key plaintext : Bytes) (entropy : Entropy) : Except CipherError (Bytes × Entropy) :=
  if key.length ≠ keySize then .error (.keyLength key.length)
  else
    let (first, entropy) := entropy.draw blockSize
    .ok (encryptFrom key first plaintext, entropy)

/-- Decrypt a payload under a key. -/
def decrypt (key payload : Bytes) : Except CipherError Bytes :=
  if key.length ≠ keySize then .error (.keyLength key.length)
  else if payload.length < 2 * blockSize ∨ payload.length % blockSize ≠ 0 then
    .error (.payloadLength payload.length)
  else
    let body := payload.drop blockSize
    let padded := unchain (Aes.roundKeys key) (body.length / 16)
      (Aes.Block.ofBytes (payload.take blockSize)) body
    match unpad? padded with
    | some plaintext => .ok plaintext
    | none => .error .badPadding

end Cbc

end ColumnVeil.Crypto
