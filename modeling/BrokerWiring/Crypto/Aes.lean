import BrokerWiring.Crypto.Word

/-!
# AES, deciphering

Blocks of sixteen bytes under keys of sixteen, twenty-four or thirty-two bytes. A block is a list of
four columns of four bytes each, one column after another. Only the way back is needed: the round
keys are used from the last to the first, with the inverse of each step.
-/

namespace BrokerWiring.Crypto.Aes

/-! ## Bytes -/

/-- The substitution of a byte. -/
def substitutions : Array UInt8 := #[
  0x63, 0x7C, 0x77, 0x7B, 0xF2, 0x6B, 0x6F, 0xC5, 0x30, 0x01, 0x67, 0x2B, 0xFE, 0xD7, 0xAB, 0x76,
  0xCA, 0x82, 0xC9, 0x7D, 0xFA, 0x59, 0x47, 0xF0, 0xAD, 0xD4, 0xA2, 0xAF, 0x9C, 0xA4, 0x72, 0xC0,
  0xB7, 0xFD, 0x93, 0x26, 0x36, 0x3F, 0xF7, 0xCC, 0x34, 0xA5, 0xE5, 0xF1, 0x71, 0xD8, 0x31, 0x15,
  0x04, 0xC7, 0x23, 0xC3, 0x18, 0x96, 0x05, 0x9A, 0x07, 0x12, 0x80, 0xE2, 0xEB, 0x27, 0xB2, 0x75,
  0x09, 0x83, 0x2C, 0x1A, 0x1B, 0x6E, 0x5A, 0xA0, 0x52, 0x3B, 0xD6, 0xB3, 0x29, 0xE3, 0x2F, 0x84,
  0x53, 0xD1, 0x00, 0xED, 0x20, 0xFC, 0xB1, 0x5B, 0x6A, 0xCB, 0xBE, 0x39, 0x4A, 0x4C, 0x58, 0xCF,
  0xD0, 0xEF, 0xAA, 0xFB, 0x43, 0x4D, 0x33, 0x85, 0x45, 0xF9, 0x02, 0x7F, 0x50, 0x3C, 0x9F, 0xA8,
  0x51, 0xA3, 0x40, 0x8F, 0x92, 0x9D, 0x38, 0xF5, 0xBC, 0xB6, 0xDA, 0x21, 0x10, 0xFF, 0xF3, 0xD2,
  0xCD, 0x0C, 0x13, 0xEC, 0x5F, 0x97, 0x44, 0x17, 0xC4, 0xA7, 0x7E, 0x3D, 0x64, 0x5D, 0x19, 0x73,
  0x60, 0x81, 0x4F, 0xDC, 0x22, 0x2A, 0x90, 0x88, 0x46, 0xEE, 0xB8, 0x14, 0xDE, 0x5E, 0x0B, 0xDB,
  0xE0, 0x32, 0x3A, 0x0A, 0x49, 0x06, 0x24, 0x5C, 0xC2, 0xD3, 0xAC, 0x62, 0x91, 0x95, 0xE4, 0x79,
  0xE7, 0xC8, 0x37, 0x6D, 0x8D, 0xD5, 0x4E, 0xA9, 0x6C, 0x56, 0xF4, 0xEA, 0x65, 0x7A, 0xAE, 0x08,
  0xBA, 0x78, 0x25, 0x2E, 0x1C, 0xA6, 0xB4, 0xC6, 0xE8, 0xDD, 0x74, 0x1F, 0x4B, 0xBD, 0x8B, 0x8A,
  0x70, 0x3E, 0xB5, 0x66, 0x48, 0x03, 0xF6, 0x0E, 0x61, 0x35, 0x57, 0xB9, 0x86, 0xC1, 0x1D, 0x9E,
  0xE1, 0xF8, 0x98, 0x11, 0x69, 0xD9, 0x8E, 0x94, 0x9B, 0x1E, 0x87, 0xE9, 0xCE, 0x55, 0x28, 0xDF,
  0x8C, 0xA1, 0x89, 0x0D, 0xBF, 0xE6, 0x42, 0x68, 0x41, 0x99, 0x2D, 0x0F, 0xB0, 0x54, 0xBB, 0x16]

/-- The byte that is substituted by each byte. -/
def preimages : Array UInt8 :=
  ((List.range 256).map fun b => (substitutions.toList.idxOf b.toUInt8).toUInt8).toArray

/-- The substitution of `b`. -/
def substitute (b : UInt8) : UInt8 := substitutions.getD b.toNat 0

/-- The byte whose substitution is `b`. -/
def restore (b : UInt8) : UInt8 := preimages.getD b.toNat 0

/-- A byte, as a polynomial over two elements, times the indeterminate. -/
def timesX (b : UInt8) : UInt8 := (b <<< 1) ^^^ (if b < 0x80 then 0 else 0x1B)

/-- The product of two bytes as polynomials; `n` is the number of bits of the second that count. -/
def times (a b : UInt8) : Nat → UInt8
  | 0 => 0
  | n + 1 => (if b &&& 1 = 1 then a else 0) ^^^ times (timesX a) (b >>> 1) n

/-! ## Round keys -/

/-- The last byte first, the others behind it in their order; and the reverse of that. -/
def turnWord : List UInt8 → List UInt8
  | a :: rest => rest ++ [a]
  | [] => []

/-- Goes on with the words of a key schedule, given last word first, for `n` more words. `size` is
the number of words of the key and `constant` belongs to the next word that has one. -/
def stretch (size : Nat) : Nat → Nat → UInt8 → List (List UInt8) → List (List UInt8)
  | 0, _, _, ws => ws
  | n + 1, index, constant, ws =>
    let last := ws.headD []
    let back := ws.getD (size - 1) []
    if index % size = 0 then
      let mixed := xorBytes ((turnWord last).map substitute) [constant, 0, 0, 0]
      stretch size n (index + 1) (timesX constant) (xorBytes back mixed :: ws)
    else
      let mixed := if 6 < size ∧ index % size = 4 then last.map substitute else last
      stretch size n (index + 1) constant (xorBytes back mixed :: ws)

/-- The round keys for a key, last one first. -/
def roundKeys (key : List UInt8) : List (List UInt8) :=
  let size := key.length / 4
  let ws := stretch size (4 * (size + 7) - size) size 1 (blocks 4 key).reverse
  (blocks 16 ws.reverse.flatten).reverse

/-! ## Blocks -/

/-- Row `i` moved `i` places to the right. -/
def restoreRows (block : List UInt8) : List UInt8 :=
  [0, 13, 10, 7, 4, 1, 14, 11, 8, 5, 2, 15, 12, 9, 6, 3].map fun i => block.getD i 0

/-- A column times the inverse of the mixing matrix. -/
def restoreColumn : List UInt8 → List UInt8
  | [a, b, c, d] =>
    let row (p q r s : UInt8) := times p a 8 ^^^ times q b 8 ^^^ times r c 8 ^^^ times s d 8
    [row 14 11 13 9, row 9 14 11 13, row 13 9 14 11, row 11 13 9 14]
  | column => column

/-- The rounds for the remaining keys; the one with the last key does not mix columns. -/
def rounds (block : List UInt8) : List (List UInt8) → List UInt8
  | [] => block
  | key :: rest =>
    let block := xorBytes ((restoreRows block).map restore) key
    if rest.isEmpty then block else rounds ((blocks 4 block).flatMap restoreColumn) rest

/-- Deciphers a block under the round keys, last one first. -/
def decipherWith (keys : List (List UInt8)) (block : List UInt8) : List UInt8 :=
  match keys with
  | [] => block
  | key :: rest => rounds (xorBytes block key) rest

/-- Deciphers a block under a key. -/
def decipher (key : List UInt8) : List UInt8 → List UInt8 :=
  let keys := roundKeys key
  fun block => decipherWith keys block

end BrokerWiring.Crypto.Aes
