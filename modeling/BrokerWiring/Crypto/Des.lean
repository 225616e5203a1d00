import BrokerWiring.Crypto.Word

/-!
# Triple DES, deciphering

Blocks of eight bytes under three keys of eight bytes. Everything is a rearrangement of bits but for
the eight substitutions of six bits by four; bits are numbered from one, the highest first.
-/

namespace BrokerWiring.Crypto.Des

/-! ## Rearrangements -/

/-- The bits of a word of `width` bits that `places` name, one behind the other. -/
def arrange (width : Nat) (places : List Nat) (x : UInt64) : UInt64 :=
  places.foldl (fun acc place => (acc <<< 1) ||| ((x >>> (width - place).toUInt64) &&& 1)) 0

/-- The rearrangement of a block before the rounds. -/
def initialPlaces : List Nat :=
  [58, 50, 42, 34, 26, 18, 10, 2, 60, 52, 44, 36, 28, 20, 12, 4,
    62, 54, 46, 38, 30, 22, 14, 6, 64, 56, 48, 40, 32, 24, 16, 8,
    57, 49, 41, 33, 25, 17, 9, 1, 59, 51, 43, 35, 27, 19, 11, 3,
    61, 53, 45, 37, 29, 21, 13, 5, 63, 55, 47, 39, 31, 23, 15, 7]

/-- The rearrangement behind the rounds; it undoes the initial one. -/
def finalPlaces : List Nat :=
  [40, 8, 48, 16, 56, 24, 64, 32, 39, 7, 47, 15, 55, 23, 63, 31,
    38, 6, 46, 14, 54, 22, 62, 30, 37, 5, 45, 13, 53, 21, 61, 29,
    36, 4, 44, 12, 52, 20, 60, 28, 35, 3, 43, 11, 51, 19, 59, 27,
    34, 2, 42, 10, 50, 18, 58, 26, 33, 1, 41, 9, 49, 17, 57, 25]

/-- Half a block stretched to forty-eight bits. -/
def expandedPlaces : List Nat :=
  [32, 1, 2, 3, 4, 5, 4, 5, 6, 7, 8, 9, 8, 9, 10, 11, 12, 13, 12, 13, 14, 15, 16, 17,
    16, 17, 18, 19, 20, 21, 20, 21, 22, 23, 24, 25, 24, 25, 26, 27, 28, 29, 28, 29, 30, 31, 32, 1]

/-- The rearrangement of the bits that the substitutions give. -/
def spreadPlaces : List Nat :=
  [16, 7, 20, 21, 29, 12, 28, 17, 1, 15, 23, 26, 5, 18, 31, 10,
    2, 8, 24, 14, 32, 27, 3, 9, 19, 13, 30, 6, 22, 11, 4, 25]

/-- The fifty-six bits of a key that count, its left half before its right half. -/
def keyPlaces : List Nat :=
  [57, 49, 41, 33, 25, 17, 9, 1, 58, 50, 42, 34, 26, 18, 10, 2, 59, 51, 43, 35, 27, 19, 11, 3, 60,
    52, 44, 36, 63, 55, 47, 39, 31, 23, 15, 7, 62, 54, 46, 38, 30, 22, 14, 6, 61, 53, 45, 37, 29,
    21, 13, 5, 28, 20, 12, 4]

/-- The bits of a turned key that make a round key. -/
def roundKeyPlaces : List Nat :=
  [14, 17, 11, 24, 1, 5, 3, 28, 15, 6, 21, 10, 23, 19, 12, 4, 26, 8, 16, 7, 27, 20, 13, 2,
    41, 52, 31, 37, 47, 55, 30, 40, 51, 45, 33, 48, 44, 49, 39, 56, 34, 53, 46, 42, 50, 36, 29, 32]

/-! ## Substitutions -/

/-- The four bits for each row and column, box after box. -/
def boxes : Array UInt8 := #[
  14, 4, 13, 1, 2, 15, 11, 8, 3, 10, 6, 12, 5, 9, 0, 7,
  0, 15, 7, 4, 14, 2, 13, 1, 10, 6, 12, 11, 9, 5, 3, 8,
  4, 1, 14, 8, 13, 6, 2, 11, 15, 12, 9, 7, 3, 10, 5, 0,
  15, 12, 8, 2, 4, 9, 1, 7, 5, 11, 3, 14, 10, 0, 6, 13,
  15, 1, 8, 14, 6, 11, 3, 4, 9, 7, 2, 13, 12, 0, 5, 10,
  3, 13, 4, 7, 15, 2, 8, 14, 12, 0, 1, 10, 6, 9, 11, 5,
  0, 14, 7, 11, 10, 4, 13, 1, 5, 8, 12, 6, 9, 3, 2, 15,
  13, 8, 10, 1, 3, 15, 4, 2, 11, 6, 7, 12, 0, 5, 14, 9,
  10, 0, 9, 14, 6, 3, 15, 5, 1, 13, 12, 7, 11, 4, 2, 8,
  13, 7, 0, 9, 3, 4, 6, 10, 2, 8, 5, 14, 12, 11, 15, 1,
  13, 6, 4, 9, 8, 15, 3, 0, 11, 1, 2, 12, 5, 10, 14, 7,
  1, 10, 13, 0, 6, 9, 8, 7, 4, 15, 14, 3, 11, 5, 2, 12,
  7, 13, 14, 3, 0, 6, 9, 10, 1, 2, 8, 5, 11, 12, 4, 15,
  13, 8, 11, 5, 6, 15, 0, 3, 4, 7, 2, 12, 1, 10, 14, 9,
  10, 6, 9, 0, 12, 11, 7, 13, 15, 1, 3, 14, 5, 2, 8, 4,
  3, 15, 0, 6, 10, 1, 13, 8, 9, 4, 5, 11, 12, 7, 2, 14,
  2, 12, 4, 1, 7, 10, 11, 6, 8, 5, 3, 15, 13, 0, 14, 9,
  14, 11, 2, 12, 4, 7, 13, 1, 5, 0, 15, 10, 3, 9, 8, 6,
  4, 2, 1, 11, 10, 13, 7, 8, 15, 9, 12, 5, 6, 3, 0, 14,
  11, 8, 12, 7, 1, 14, 2, 13, 6, 15, 0, 9, 10, 4, 5, 3,
  12, 1, 10, 15, 9, 2, 6, 8, 0, 13, 3, 4, 14, 7, 5, 11,
  10, 15, 4, 2, 7, 12, 9, 5, 6, 1, 13, 14, 0, 11, 3, 8,
  9, 14, 15, 5, 2, 8, 12, 3, 7, 0, 4, 10, 1, 13, 11, 6,
  4, 3, 2, 12, 9, 5, 15, 10, 11, 14, 1, 7, 6, 0, 8, 13,
  4, 11, 2, 14, 15, 0, 8, 13, 3, 12, 9, 7, 5, 10, 6, 1,
  13, 0, 11, 7, 4, 9, 1, 10, 14, 3, 5, 12, 2, 15, 8, 6,
  1, 4, 11, 13, 12, 3, 7, 14, 10, 15, 6, 8, 0, 5, 9, 2,
  6, 11, 13, 8, 1, 4, 10, 7, 9, 5, 0, 15, 14, 2, 3, 12,
  13, 2, 8, 4, 6, 15, 11, 1, 10, 9, 3, 14, 5, 0, 12, 7,
  1, 15, 13, 8, 10, 3, 7, 4, 12, 5, 6, 11, 0, 14, 9, 2,
  7, 11, 4, 1, 9, 12, 14, 2, 0, 6, 10, 13, 15, 3, 5, 8,
  2, 1, 14, 7, 4, 10, 8, 13, 15, 12, 9, 0, 3, 5, 6, 11]

/-- The four bits that box `box` gives for six: the outer two name the row. -/
def substitute (box : Nat) (six : UInt64) : UInt64 :=
  let row := ((six >>> 4) &&& 2) ||| (six &&& 1)
  let column := (six >>> 1) &&& 15
  (boxes.getD (box * 64 + row.toNat * 16 + column.toNat) 0).toUInt64

/-- The half block that a round adds. -/
def feistel (half roundKey : UInt64) : UInt64 :=
  let x := arrange 32 expandedPlaces half ^^^ roundKey
  let image : UInt64 := (List.range 8).foldl
    (fun acc box => (acc <<< 4) ||| substitute box ((x >>> (42 - 6 * box).toUInt64) &&& 63)) 0
  arrange 32 spreadPlaces image

/-! ## Keys -/

/-- How far both halves of a key turn before each round. -/
def turns : List UInt64 := [1, 1, 2, 2, 2, 2, 2, 2, 1, 2, 2, 2, 2, 2, 2, 1]

/-- Twenty-eight bits moved left, those that fall out coming back on the right. -/
def turnHalf (half n : UInt64) : UInt64 := ((half <<< n) ||| (half >>> (28 - n))) &&& 0xFFFFFFF

/-- The round keys for the halves of a key. -/
def roundKeysFrom (left right : UInt64) : List UInt64 → List UInt64
  | [] => []
  | n :: rest =>
    let left := turnHalf left n
    let right := turnHalf right n
    arrange 56 roundKeyPlaces ((left <<< 28) ||| right) :: roundKeysFrom left right rest

/-- The word of up to eight bytes. -/
def wordOf (bytes : List UInt8) : UInt64 := bytes.foldl (fun x b => (x <<< 8) ||| b.toUInt64) 0

/-- The sixteen round keys of a key. -/
def roundKeys (key : List UInt8) : List UInt64 :=
  let x := arrange 64 keyPlaces (wordOf key)
  roundKeysFrom (x >>> 28) (x &&& 0xFFFFFFF) turns

/-! ## Blocks -/

/-- The rounds on both halves. -/
def rounds (left right : UInt64) : List UInt64 → UInt64
  | [] => (right <<< 32) ||| left
  | key :: rest => rounds right (left ^^^ feistel right key) rest

/-- A block under round keys, in their order to encipher and in reverse order to decipher. -/
def cipher (keys : List UInt64) (x : UInt64) : UInt64 :=
  let x := arrange 64 initialPlaces x
  arrange 64 finalPlaces (rounds (x >>> 32) (x &&& 0xFFFFFFFF) keys)

/-- Deciphers a block under the three keys of a key of twenty-four bytes. -/
def decipher (key : List UInt8) : List UInt8 → List UInt8 :=
  let first := roundKeys (key.take 8)
  let second := roundKeys ((key.drop 8).take 8)
  let third := roundKeys ((key.drop 16).take 8)
  fun block =>
    let x := cipher third.reverse (wordOf block)
    bigEndian (cipher first.reverse (cipher second x)).toNat 8

end BrokerWiring.Crypto.Des
