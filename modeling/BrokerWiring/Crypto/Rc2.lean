import BrokerWiring.Crypto.Word

/-!
# RC2, deciphering

Blocks of eight bytes, seen as four words of sixteen bits in little-endian order, under a key that
is stretched to sixty-four such words. Enciphering mixes in five rounds, mashes, mixes in six,
mashes, and mixes in five; deciphering goes the way back.
-/

namespace BrokerWiring.Crypto.Rc2

/-! ## Keys -/

/-- The byte for each byte in the stretching of keys. -/
def substitutions : Array UInt8 := #[
  0xD9, 0x78, 0xF9, 0xC4, 0x19, 0xDD, 0xB5, 0xED, 0x28, 0xE9, 0xFD, 0x79, 0x4A, 0xA0, 0xD8, 0x9D,
  0xC6, 0x7E, 0x37, 0x83, 0x2B, 0x76, 0x53, 0x8E, 0x62, 0x4C, 0x64, 0x88, 0x44, 0x8B, 0xFB, 0xA2,
  0x17, 0x9A, 0x59, 0xF5, 0x87, 0xB3, 0x4F, 0x13, 0x61, 0x45, 0x6D, 0x8D, 0x09, 0x81, 0x7D, 0x32,
  0xBD, 0x8F, 0x40, 0xEB, 0x86, 0xB7, 0x7B, 0x0B, 0xF0, 0x95, 0x21, 0x22, 0x5C, 0x6B, 0x4E, 0x82,
  0x54, 0xD6, 0x65, 0x93, 0xCE, 0x60, 0xB2, 0x1C, 0x73, 0x56, 0xC0, 0x14, 0xA7, 0x8C, 0xF1, 0xDC,
  0x12, 0x75, 0xCA, 0x1F, 0x3B, 0xBE, 0xE4, 0xD1, 0x42, 0x3D, 0xD4, 0x30, 0xA3, 0x3C, 0xB6, 0x26,
  0x6F, 0xBF, 0x0E, 0xDA, 0x46, 0x69, 0x07, 0x57, 0x27, 0xF2, 0x1D, 0x9B, 0xBC, 0x94, 0x43, 0x03,
  0xF8, 0x11, 0xC7, 0xF6, 0x90, 0xEF, 0x3E, 0xE7, 0x06, 0xC3, 0xD5, 0x2F, 0xC8, 0x66, 0x1E, 0xD7,
  0x08, 0xE8, 0xEA, 0xDE, 0x80, 0x52, 0xEE, 0xF7, 0x84, 0xAA, 0x72, 0xAC, 0x35, 0x4D, 0x6A, 0x2A,
  0x96, 0x1A, 0xD2, 0x71, 0x5A, 0x15, 0x49, 0x74, 0x4B, 0x9F, 0xD0, 0x5E, 0x04, 0x18, 0xA4, 0xEC,
  0xC2, 0xE0, 0x41, 0x6E, 0x0F, 0x51, 0xCB, 0xCC, 0x24, 0x91, 0xAF, 0x50, 0xA1, 0xF4, 0x70, 0x39,
  0x99, 0x7C, 0x3A, 0x85, 0x23, 0xB8, 0xB4, 0x7A, 0xFC, 0x02, 0x36, 0x5B, 0x25, 0x55, 0x97, 0x31,
  0x2D, 0x5D, 0xFA, 0x98, 0xE3, 0x8A, 0x92, 0xAE, 0x05, 0xDF, 0x29, 0x10, 0x67, 0x6C, 0xBA, 0xC9,
  0xD3, 0x00, 0xE6, 0xCF, 0xE1, 0x9E, 0xA8, 0x2C, 0x63, 0x16, 0x01, 0x3F, 0x58, 0xE2, 0x89, 0xA9,
  0x0D, 0x38, 0x34, 0x1B, 0xAB, 0x33, 0xFF, 0xB0, 0xBB, 0x48, 0x0C, 0x5F, 0xB9, 0xB1, 0xCD, 0x2E,
  0xC5, 0xF3, 0xDB, 0x47, 0xE5, 0xA5, 0x9C, 0x77, 0x0A, 0xA6, 0x20, 0x68, 0xFE, 0x7F, 0xC1, 0xAD]

/-- The byte for `b`. -/
def substitute (b : UInt8) : UInt8 := substitutions.getD b.toNat 0

/-- Goes on behind a key of `size` bytes, given last byte first, for `n` more bytes. -/
def stretch (size : Nat) : Nat → List UInt8 → List UInt8
  | 0, bytes => bytes
  | n + 1, bytes =>
    stretch size n (substitute (bytes.headD 0 + bytes.getD (size - 1) 0) :: bytes)

/-- Goes down to the front of a key for `n` more bytes: each one comes from the byte behind it and
the one `size` places behind. -/
def narrow (size : Nat) : Nat → List UInt8 → List UInt8
  | 0, bytes => bytes
  | n + 1, bytes => narrow size n (substitute (bytes.headD 0 ^^^ bytes.getD (size - 1) 0) :: bytes)

/-- Pairs of bytes as words, the lower byte first. -/
def wordsOf : List UInt8 → List UInt16
  | low :: high :: rest => (low.toUInt16 ||| (high.toUInt16 <<< 8)) :: wordsOf rest
  | _ => []

/-- The words of a key of which a whole number of bytes is effective. -/
def keyWords (key : List UInt8) : Array UInt16 :=
  let size := key.length
  let long := (stretch size (128 - size) key.reverse).reverse
  let tail := long.drop (128 - size)
  let tail := match tail with
    | [] => []
    | b :: rest => substitute b :: rest
  (wordsOf (narrow size (128 - size) tail)).toArray

/-! ## Blocks -/

/-- The four words of a block. -/
structure Block where
  a : UInt16
  b : UInt16
  c : UInt16
  d : UInt16
  deriving Repr, DecidableEq

/-- A word moved right, the bits that fall out coming back on the left. -/
def rotateRight16 (x n : UInt16) : UInt16 := (x >>> n) ||| (x <<< (16 - n))

/-- Undoes a mixing round with four words of the key, the first of them number `j`. -/
def unmix (keys : Array UInt16) (j : Nat) (x : Block) : Block :=
  let d := rotateRight16 x.d 5 - keys.getD (j + 3) 0 - (x.c &&& x.b) - (~~~x.c &&& x.a)
  let c := rotateRight16 x.c 3 - keys.getD (j + 2) 0 - (x.b &&& x.a) - (~~~x.b &&& d)
  let b := rotateRight16 x.b 2 - keys.getD (j + 1) 0 - (x.a &&& d) - (~~~x.a &&& c)
  let a := rotateRight16 x.a 1 - keys.getD j 0 - (d &&& c) - (~~~d &&& b)
  ⟨a, b, c, d⟩

/-- Undoes a mashing round: each word loses the word of the key that another one names. -/
def unmash (keys : Array UInt16) (x : Block) : Block :=
  let named (w : UInt16) := keys.getD (w &&& 63).toNat 0
  let d := x.d - named x.c
  let c := x.c - named x.b
  let b := x.b - named x.a
  let a := x.a - named d
  ⟨a, b, c, d⟩

/-- What is undone, last step first: a mixing round by the number of its first word, or a mashing
round. -/
def steps : List (Option Nat) :=
  [some 60, some 56, some 52, some 48, some 44, none, some 40, some 36, some 32, some 28, some 24,
    some 20, none, some 16, some 12, some 8, some 4, some 0]

/-- Undoes a step. -/
def undo (keys : Array UInt16) (x : Block) : Option Nat → Block
  | some j => unmix keys j x
  | none => unmash keys x

/-- Deciphers a block. -/
def decipher (key : List UInt8) : List UInt8 → List UInt8 :=
  let keys := keyWords key
  fun block =>
    match wordsOf block with
    | [a, b, c, d] =>
      let x := steps.foldl (undo keys) ⟨a, b, c, d⟩
      [x.a, x.b, x.c, x.d].flatMap fun (w : UInt16) => [w.toUInt8, (w >>> 8).toUInt8]
    | _ => []

end BrokerWiring.Crypto.Rc2
