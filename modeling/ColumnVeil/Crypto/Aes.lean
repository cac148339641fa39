import ColumnVeil.Bytes

/-!
# The AES-256 block cipher

The cipher of FIPS 197 with a key of thirty-two bytes, on blocks of sixteen bytes that are
read column by column, and its inverse.  The byte substitution is a table with its inverse
(`unsubstitute_substitute`).
-/

namespace ColumnVeil.Crypto.Aes

/-- A block of sixteen bytes, the four columns one after the other. -/
abbrev Block := Vector UInt8 16

/-- The substitution of single bytes. -/
def substitutionTable : Array UInt8 :=
  #[
    0x63, 0x7C, 0x77, 0x7B, 0xF2, 0x6B, 0x6F, 0xC5, 0x30, 0x01, 0x67, 0x2B, 0xFE, 0xD7, 0xAB,
    0x76, 0xCA, 0x82, 0xC9, 0x7D, 0xFA, 0x59, 0x47, 0xF0, 0xAD, 0xD4, 0xA2, 0xAF, 0x9C, 0xA4,
    0x72, 0xC0, 0xB7, 0xFD, 0x93, 0x26, 0x36, 0x3F, 0xF7, 0xCC, 0x34, 0xA5, 0xE5, 0xF1, 0x71,
    0xD8, 0x31, 0x15, 0x04, 0xC7, 0x23, 0xC3, 0x18, 0x96, 0x05, 0x9A, 0x07, 0x12, 0x80, 0xE2,
    0xEB, 0x27, 0xB2, 0x75, 0x09, 0x83, 0x2C, 0x1A, 0x1B, 0x6E, 0x5A, 0xA0, 0x52, 0x3B, 0xD6,
    0xB3, 0x29, 0xE3, 0x2F, 0x84, 0x53, 0xD1, 0x00, 0xED, 0x20, 0xFC, 0xB1, 0x5B, 0x6A, 0xCB,
    0xBE, 0x39, 0x4A, 0x4C, 0x58, 0xCF, 0xD0, 0xEF, 0xAA, 0xFB, 0x43, 0x4D, 0x33, 0x85, 0x45,
    0xF9, 0x02, 0x7F, 0x50, 0x3C, 0x9F, 0xA8, 0x51, 0xA3, 0x40, 0x8F, 0x92, 0x9D, 0x38, 0xF5,
    0xBC, 0xB6, 0xDA, 0x21, 0x10, 0xFF, 0xF3, 0xD2, 0xCD, 0x0C, 0x13, 0xEC, 0x5F, 0x97, 0x44,
    0x17, 0xC4, 0xA7, 0x7E, 0x3D, 0x64, 0x5D, 0x19, 0x73, 0x60, 0x81, 0x4F, 0xDC, 0x22, 0x2A,
    0x90, 0x88, 0x46, 0xEE, 0xB8, 0x14, 0xDE, 0x5E, 0x0B, 0xDB, 0xE0, 0x32, 0x3A, 0x0A, 0x49,
    0x06, 0x24, 0x5C, 0xC2, 0xD3, 0xAC, 0x62, 0x91, 0x95, 0xE4, 0x79, 0xE7, 0xC8, 0x37, 0x6D,
    0x8D, 0xD5, 0x4E, 0xA9, 0x6C, 0x56, 0xF4, 0xEA, 0x65, 0x7A, 0xAE, 0x08, 0xBA, 0x78, 0x25,
    0x2E, 0x1C, 0xA6, 0xB4, 0xC6, 0xE8, 0xDD, 0x74, 0x1F, 0x4B, 0xBD, 0x8B, 0x8A, 0x70, 0x3E,
    0xB5, 0x66, 0x48, 0x03, 0xF6, 0x0E, 0x61, 0x35, 0x57, 0xB9, 0x86, 0xC1, 0x1D, 0x9E, 0xE1,
    0xF8, 0x98, 0x11, 0x69, 0xD9, 0x8E, 0x94, 0x9B, 0x1E, 0x87, 0xE9, 0xCE, 0x55, 0x28, 0xDF,
    0x8C, 0xA1, 0x89, 0x0D, 0xBF, 0xE6, 0x42, 0x68, 0x41, 0x99, 0x2D, 0x0F, 0xB0, 0x54, 0xBB,
    0x16]

/-- The inverse substitution. -/
def inverseTable : Array UInt8 :=
  #[
    0x52, 0x09, 0x6A, 0xD5, 0x30, 0x36, 0xA5, 0x38, 0xBF, 0x40, 0xA3, 0x9E, 0x81, 0xF3, 0xD7,
    0xFB, 0x7C, 0xE3, 0x39, 0x82, 0x9B, 0x2F, 0xFF, 0x87, 0x34, 0x8E, 0x43, 0x44, 0xC4, 0xDE,
    0xE9, 0xCB, 0x54, 0x7B, 0x94, 0x32, 0xA6, 0xC2, 0x23, 0x3D, 0xEE, 0x4C, 0x95, 0x0B, 0x42,
    0xFA, 0xC3, 0x4E, 0x08, 0x2E, 0xA1, 0x66, 0x28, 0xD9, 0x24, 0xB2, 0x76, 0x5B, 0xA2, 0x49,
    0x6D, 0x8B, 0xD1, 0x25, 0x72, 0xF8, 0xF6, 0x64, 0x86, 0x68, 0x98, 0x16, 0xD4, 0xA4, 0x5C,
    0xCC, 0x5D, 0x65, 0xB6, 0x92, 0x6C, 0x70, 0x48, 0x50, 0xFD, 0xED, 0xB9, 0xDA, 0x5E, 0x15,
    0x46, 0x57, 0xA7, 0x8D, 0x9D, 0x84, 0x90, 0xD8, 0xAB, 0x00, 0x8C, 0xBC, 0xD3, 0x0A, 0xF7,
    0xE4, 0x58, 0x05, 0xB8, 0xB3, 0x45, 0x06, 0xD0, 0x2C, 0x1E, 0x8F, 0xCA, 0x3F, 0x0F, 0x02,
    0xC1, 0xAF, 0xBD, 0x03, 0x01, 0x13, 0x8A, 0x6B, 0x3A, 0x91, 0x11, 0x41, 0x4F, 0x67, 0xDC,
    0xEA, 0x97, 0xF2, 0xCF, 0xCE, 0xF0, 0xB4, 0xE6, 0x73, 0x96, 0xAC, 0x74, 0x22, 0xE7, 0xAD,
    0x35, 0x85, 0xE2, 0xF9, 0x37, 0xE8, 0x1C, 0x75, 0xDF, 0x6E, 0x47, 0xF1, 0x1A, 0x71, 0x1D,
    0x29, 0xC5, 0x89, 0x6F, 0xB7, 0x62, 0x0E, 0xAA, 0x18, 0xBE, 0x1B, 0xFC, 0x56, 0x3E, 0x4B,
    0xC6, 0xD2, 0x79, 0x20, 0x9A, 0xDB, 0xC0, 0xFE, 0x78, 0xCD, 0x5A, 0xF4, 0x1F, 0xDD, 0xA8,
    0x33, 0x88, 0x07, 0xC7, 0x31, 0xB1, 0x12, 0x10, 0x59, 0x27, 0x80, 0xEC, 0x5F, 0x60, 0x51,
    0x7F, 0xA9, 0x19, 0xB5, 0x4A, 0x0D, 0x2D, 0xE5, 0x7A, 0x9F, 0x93, 0xC9, 0x9C, 0xEF, 0xA0,
    0xE0, 0x3B, 0x4D, 0xAE, 0x2A, 0xF5, 0xB0, 0xC8, 0xEB, 0xBB, 0x3C, 0x83, 0x53, 0x99, 0x61,
    0x17, 0x2B, 0x04, 0x7E, 0xBA, 0x77, 0xD6, 0x26, 0xE1, 0x69, 0x14, 0x63, 0x55, 0x21, 0x0C,
    0x7D]

/-- The substitute of a byte. -/
def substitute (byte : UInt8) : UInt8 :=
  substitutionTable.getD byte.toNat 0

/-- The byte that a substitute stands for. -/
def unsubstitute (byte : UInt8) : UInt8 :=
  inverseTable.getD byte.toNat 0

/-- Multiplication by two in the field of 256 elements. -/
def double (byte : UInt8) : UInt8 :=
  if byte ≥ 0x80 then (byte <<< 1) ^^^ 0x1B else byte <<< 1

/-- Multiplication by a constant of at most four bits in the field of 256 elements. -/
def scale (factor : Nat) (byte : UInt8) : UInt8 :=
  let part (bit : Nat) (value : UInt8) : UInt8 := if factor.testBit bit then value else 0
  part 0 byte ^^^ part 1 (double byte) ^^^ part 2 (double (double byte))
    ^^^ part 3 (double (double (double byte)))

/-- Row `r` moves `r` places to the left. -/
def shiftRows (block : Block) : Block :=
  Vector.ofFn fun position : Fin 16 => block[(position.val + 4 * (position.val % 4)) % 16]

/-- Row `r` moves `r` places to the right. -/
def unshiftRows (block : Block) : Block :=
  Vector.ofFn fun position : Fin 16 => block[(position.val + 12 * (position.val % 4)) % 16]

/-- Every column times a circulant matrix with this first row. -/
def mixWith (first second third fourth : Nat) (block : Block) : Block :=
  Vector.ofFn fun position : Fin 16 =>
    let entry (offset : Nat) : UInt8 :=
      block.get ⟨position.val / 4 * 4 + (position.val + offset) % 4, by
        have := position.isLt
        have := Nat.mod_lt (position.val + offset) (show 4 > 0 by decide)
        omega⟩
    scale first (entry 0) ^^^ scale second (entry 1) ^^^ scale third (entry 2)
      ^^^ scale fourth (entry 3)

/-- The mixing of columns. -/
def mixColumns : Block → Block :=
  mixWith 2 3 1 1

/-- The inverse mixing of columns. -/
def unmixColumns : Block → Block :=
  mixWith 14 11 13 9

/-- Byte by byte sum in the field. -/
def addBlocks (left right : Block) : Block :=
  Vector.zipWith (· ^^^ ·) left right

/-- The four bytes of the next word of the key schedule, from the last word and the word
eight places back. -/
def nextKeyWord (index : Nat) (last back : List UInt8) : List UInt8 :=
  let turned := match last with
    | first :: rest => rest ++ [first]
    | [] => []
  let mixed :=
    if index % 8 = 0 then
      let roundConstant := Nat.repeat double (index / 8 - 1) 1
      match turned.map substitute with
      | first :: rest => (first ^^^ roundConstant) :: rest
      | [] => []
    else if index % 8 = 4 then last.map substitute
    else last
  List.zipWith (· ^^^ ·) back mixed

/-- The words of a key, four bytes each. -/
def keyWords : Bytes → List (List UInt8)
  | a :: b :: c :: d :: rest => [a, b, c, d] :: keyWords rest
  | _ => []

/-- All sixty words of the key schedule. -/
def expandKey (key : Bytes) : Array (List UInt8) :=
  (List.range 52).foldl
    (fun words step =>
      words.push (nextKeyWord (step + 8) (words.getD (words.size - 1) [])
        (words.getD (words.size - 8) [])))
    (keyWords key).toArray

/-- The first sixteen bytes as a block, zeros standing for missing ones. -/
def Block.ofBytes (bytes : Bytes) : Block :=
  Vector.ofFn fun position : Fin 16 => bytes.getD position.val 0

/-- The fifteen round keys of a key, in order. -/
def roundKeys (key : Bytes) : List Block :=
  let words := expandKey key
  (List.range 15).map fun round =>
    Block.ofBytes ((List.range 4).flatMap fun column => words.getD (4 * round + column) [])

/-- The rounds after the first key has been added. -/
def encryptRounds : List Block → Block → Block
  | [], block => block
  | [last], block => addBlocks last (shiftRows (block.map substitute))
  | key :: keys, block =>
    encryptRounds keys (addBlocks key (mixColumns (shiftRows (block.map substitute))))

/-- Encipher one block under the round keys. -/
def encryptWith (keys : List Block) (block : Block) : Block :=
  match keys with
  | [] => block
  | first :: rest => encryptRounds rest (addBlocks first block)

/-- Undo `encryptRounds`. -/
def decryptRounds : List Block → Block → Block
  | [], block => block
  | [last], block => (unshiftRows (addBlocks last block)).map unsubstitute
  | key :: keys, block =>
    (unshiftRows (unmixColumns (addBlocks key (decryptRounds keys block)))).map unsubstitute

/-- Decipher one block under the round keys. -/
def decryptWith (keys : List Block) (block : Block) : Block :=
  match keys with
  | [] => block
  | first :: rest => addBlocks first (decryptRounds rest block)

theorem unsubstitute_substitute (byte : UInt8) : unsubstitute (substitute byte) = byte := by
  have all : ∀ value : Fin 256, unsubstitute (substitute (UInt8.ofNat value.val)) = UInt8.ofNat value.val := by
    decide +kernel
  simpa using all ⟨byte.toNat, byte.toNat_lt⟩

end ColumnVeil.Crypto.Aes
