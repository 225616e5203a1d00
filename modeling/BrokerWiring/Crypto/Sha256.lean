import BrokerWiring.Crypto.Word

/-!
# SHA-256 and SHA-224

The digest of 256 bits. Each block is stretched to sixty-four words, and a round for each of them
mixes it into eight words of state. The constants are the fractions of the square and cube roots of
the first primes. The digest of 224 bits starts from another state and leaves out the last word.
-/

namespace BrokerWiring.Crypto.Sha256

/-- The words of state. -/
structure State where
  a : UInt32
  b : UInt32
  c : UInt32
  d : UInt32
  e : UInt32
  f : UInt32
  g : UInt32
  h : UInt32
  deriving Repr, DecidableEq

/-- The state before the first block. -/
def initial : State :=
  ⟨0x6A09E667, 0xBB67AE85, 0x3C6EF372, 0xA54FF53A, 0x510E527F, 0x9B05688C, 0x1F83D9AB,
    0x5BE0CD19⟩

/-- The state before the first block for the digest of 224 bits. -/
def initial224 : State :=
  ⟨0xC1059ED8, 0x367CD507, 0x3070DD17, 0xF70E5939, 0xFFC00B31, 0x68581511, 0x64F98FA7,
    0xBEFA4FA4⟩

/-- The constant of each round. -/
def constants : List UInt32 :=
  [0x428A2F98, 0x71374491, 0xB5C0FBCF, 0xE9B5DBA5, 0x3956C25B, 0x59F111F1, 0x923F82A4, 0xAB1C5ED5,
    0xD807AA98, 0x12835B01, 0x243185BE, 0x550C7DC3, 0x72BE5D74, 0x80DEB1FE, 0x9BDC06A7, 0xC19BF174,
    0xE49B69C1, 0xEFBE4786, 0x0FC19DC6, 0x240CA1CC, 0x2DE92C6F, 0x4A7484AA, 0x5CB0A9DC, 0x76F988DA,
    0x983E5152, 0xA831C66D, 0xB00327C8, 0xBF597FC7, 0xC6E00BF3, 0xD5A79147, 0x06CA6351, 0x14292967,
    0x27B70A85, 0x2E1B2138, 0x4D2C6DFC, 0x53380D13, 0x650A7354, 0x766A0ABB, 0x81C2C92E, 0x92722C85,
    0xA2BFE8A1, 0xA81A664B, 0xC24B8B70, 0xC76C51A3, 0xD192E819, 0xD6990624, 0xF40E3585, 0x106AA070,
    0x19A4C116, 0x1E376C08, 0x2748774C, 0x34B0BCB5, 0x391C0CB3, 0x4ED8AA4A, 0x5B9CCA4F, 0x682E6FF3,
    0x748F82EE, 0x78A5636F, 0x84C87814, 0x8CC70208, 0x90BEFFFA, 0xA4506CEB, 0xBEF9A3F7, 0xC67178F2]

/-- The mixing of a word of the schedule seen fifteen places back. -/
def spread0 (x : UInt32) : UInt32 := rotateRight x 7 ^^^ rotateRight x 18 ^^^ (x >>> 3)

/-- The mixing of a word of the schedule seen two places back. -/
def spread1 (x : UInt32) : UInt32 := rotateRight x 17 ^^^ rotateRight x 19 ^^^ (x >>> 10)

/-- Goes on with a schedule, given last word first, for `n` more words. -/
def stretch : Nat → List UInt32 → List UInt32
  | 0, ws => ws
  | n + 1, ws =>
    stretch n ((spread1 (ws.getD 1 0) + ws.getD 6 0 + spread0 (ws.getD 14 0) + ws.getD 15 0) :: ws)

/-- The sixty-four words of a block. -/
def schedule (block : List UInt8) : List UInt32 := (stretch 48 (words block).reverse).reverse

/-- One round, with its constant and its word. -/
def round (s : State) (step : UInt32 × UInt32) : State :=
  let turned := rotateRight s.e 6 ^^^ rotateRight s.e 11 ^^^ rotateRight s.e 25
  let choice := (s.e &&& s.f) ^^^ (~~~s.e &&& s.g)
  let first := s.h + turned + choice + step.1 + step.2
  let majority := (s.a &&& s.b) ^^^ (s.a &&& s.c) ^^^ (s.b &&& s.c)
  let second := (rotateRight s.a 2 ^^^ rotateRight s.a 13 ^^^ rotateRight s.a 22) + majority
  ⟨first + second, s.a, s.b, s.c, s.d + first, s.e, s.f, s.g⟩

/-- The state behind a block. -/
def compress (s : State) (block : List UInt8) : State :=
  let t := (constants.zip (schedule block)).foldl round s
  ⟨s.a + t.a, s.b + t.b, s.c + t.c, s.d + t.d, s.e + t.e, s.f + t.f, s.g + t.g, s.h + t.h⟩

/-- The words of state behind a message, from a given state on. -/
def stateBehind (start : State) (message : List UInt8) : List UInt8 :=
  let s := (blocks 64 (padded 64 message)).foldl compress start
  [s.a, s.b, s.c, s.d, s.e, s.f, s.g, s.h].flatMap wordBytes

/-- SHA-256. -/
def digest : Digest := ⟨64, 32, stateBehind initial⟩

/-- SHA-224. -/
def digest224 : Digest := ⟨64, 28, fun message => (stateBehind initial224 message).take 28⟩

end BrokerWiring.Crypto.Sha256
