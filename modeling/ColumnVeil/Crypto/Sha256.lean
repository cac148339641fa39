import ColumnVeil.Bytes

/-!
# SHA-256 and its keyed form

The hash function of FIPS 180-4 on byte strings, and HMAC over it.  Every digest has
thirty-two bytes (`digest_length`, `hmac_length`).
-/

namespace ColumnVeil.Crypto.Sha256

/-- The fractional parts of the cube roots of the first sixty-four primes. -/
def roundConstants : List UInt32 :=
  [
    0x428A2F98, 0x71374491, 0xB5C0FBCF, 0xE9B5DBA5, 0x3956C25B, 0x59F111F1, 0x923F82A4,
    0xAB1C5ED5, 0xD807AA98, 0x12835B01, 0x243185BE, 0x550C7DC3, 0x72BE5D74, 0x80DEB1FE,
    0x9BDC06A7, 0xC19BF174, 0xE49B69C1, 0xEFBE4786, 0x0FC19DC6, 0x240CA1CC, 0x2DE92C6F,
    0x4A7484AA, 0x5CB0A9DC, 0x76F988DA, 0x983E5152, 0xA831C66D, 0xB00327C8, 0xBF597FC7,
    0xC6E00BF3, 0xD5A79147, 0x06CA6351, 0x14292967, 0x27B70A85, 0x2E1B2138, 0x4D2C6DFC,
    0x53380D13, 0x650A7354, 0x766A0ABB, 0x81C2C92E, 0x92722C85, 0xA2BFE8A1, 0xA81A664B,
    0xC24B8B70, 0xC76C51A3, 0xD192E819, 0xD6990624, 0xF40E3585, 0x106AA070, 0x19A4C116,
    0x1E376C08, 0x2748774C, 0x34B0BCB5, 0x391C0CB3, 0x4ED8AA4A, 0x5B9CCA4F, 0x682E6FF3,
    0x748F82EE, 0x78A5636F, 0x84C87814, 0x8CC70208, 0x90BEFFFA, 0xA4506CEB, 0xBEF9A3F7,
    0xC67178F2]

/-- The eight words that are carried from block to block. -/
structure State where
  a : UInt32
  b : UInt32
  c : UInt32
  d : UInt32
  e : UInt32
  f : UInt32
  g : UInt32
  h : UInt32
deriving Repr, DecidableEq

/-- The fractional parts of the square roots of the first eight primes. -/
def State.initial : State :=
  ⟨0x6A09E667, 0xBB67AE85, 0x3C6EF372, 0xA54FF53A,
    0x510E527F, 0x9B05688C, 0x1F83D9AB, 0x5BE0CD19⟩

namespace State

/-- The words in order. -/
def words (state : State) : List UInt32 :=
  [state.a, state.b, state.c, state.d, state.e, state.f, state.g, state.h]

/-- Word by word sum. -/
def add (left right : State) : State :=
  ⟨left.a + right.a, left.b + right.b, left.c + right.c, left.d + right.d,
    left.e + right.e, left.f + right.f, left.g + right.g, left.h + right.h⟩

end State

/-- Rotation to the right, for amounts from 1 to 31. -/
def rotateRight (word : UInt32) (amount : UInt32) : UInt32 :=
  (word >>> amount) ||| (word <<< (32 - amount))

/-- One of the sixty-four rounds of a block. -/
def round (state : State) (constantAndWord : UInt32 × UInt32) : State :=
  let (constant, word) := constantAndWord
  let sigma := rotateRight state.e 6 ^^^ rotateRight state.e 11 ^^^ rotateRight state.e 25
  let choice := (state.e &&& state.f) ^^^ (~~~state.e &&& state.g)
  let first := state.h + sigma + choice + constant + word
  let sigma' := rotateRight state.a 2 ^^^ rotateRight state.a 13 ^^^ rotateRight state.a 22
  let majority := (state.a &&& state.b) ^^^ (state.a &&& state.c) ^^^ (state.b &&& state.c)
  ⟨first + (sigma' + majority), state.a, state.b, state.c, state.d + first, state.e, state.f, state.g⟩

/-- The word that follows the words so far in a message schedule. -/
def nextWord (words : Array UInt32) : UInt32 :=
  let at_ (back : Nat) := words.getD (words.size - back) 0
  let low := rotateRight (at_ 15) 7 ^^^ rotateRight (at_ 15) 18 ^^^ (at_ 15 >>> 3)
  let high := rotateRight (at_ 2) 17 ^^^ rotateRight (at_ 2) 19 ^^^ (at_ 2 >>> 10)
  at_ 16 + low + at_ 7 + high

/-- The big-endian words of a block. -/
def blockWords : Bytes → List UInt32
  | a :: b :: c :: d :: rest => UInt32.ofNat (ofBigEndian [a, b, c, d]) :: blockWords rest
  | _ => []

/-- The sixty-four words that a block of sixteen words is stretched to. -/
def schedule (block : Bytes) : List UInt32 :=
  ((List.range 48).foldl (fun words _ => words.push (nextWord words))
    (blockWords block).toArray).toList

/-- Absorb one block of sixty-four bytes. -/
def compress (state : State) (block : Bytes) : State :=
  state.add ((roundConstants.zip (schedule block)).foldl round state)

/-- A message with a one bit, zeros and its length in bits, to whole blocks. -/
def pad (message : Bytes) : Bytes :=
  let zeros := (119 - message.length % 64) % 64
  message ++ 0x80 :: List.replicate zeros 0 ++ bigEndian 8 (8 * message.length)

/-- Absorb a list of bytes block by block; `fuel` bounds the number of blocks. -/
def absorb : (fuel : Nat) → State → Bytes → State
  | 0, state, _ => state
  | _, state, [] => state
  | fuel + 1, state, bytes => absorb fuel (compress state (bytes.take 64)) (bytes.drop 64)

/-- The SHA-256 digest of a message. -/
def digest (message : Bytes) : Bytes :=
  let padded := pad message
  (absorb (padded.length / 64) State.initial padded).words.flatMap fun word =>
    bigEndian 4 word.toNat

@[simp] theorem digest_length (message : Bytes) : (digest message).length = 32 := by
  simp [digest, State.words]

/-- The key of HMAC as one block: a long key is hashed first, a short one filled with zeros. -/
def blockKey (key : Bytes) : Bytes :=
  let short := if key.length > 64 then digest key else key
  short ++ List.replicate (64 - short.length) 0

/-- HMAC-SHA256 of a message under a key of any length. -/
def hmac (key message : Bytes) : Bytes :=
  let block := blockKey key
  digest (block.map (· ^^^ 0x5C) ++ digest (block.map (· ^^^ 0x36) ++ message))

@[simp] theorem hmac_length (key message : Bytes) : (hmac key message).length = 32 := by
  simp [hmac]

end ColumnVeil.Crypto.Sha256
