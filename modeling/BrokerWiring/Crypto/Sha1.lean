import BrokerWiring.Crypto.Word

/-!
# SHA-1

The digest of 160 bits. Each block is stretched to eighty words, and eighty rounds mix them into
five words of state.
-/

namespace BrokerWiring.Crypto.Sha1

/-- The words of state. -/
structure State where
  a : UInt32
  b : UInt32
  c : UInt32
  d : UInt32
  e : UInt32
  deriving Repr, DecidableEq

/-- The state before the first block. -/
def initial : State := ⟨0x67452301, 0xEFCDAB89, 0x98BADCFE, 0x10325476, 0xC3D2E1F0⟩

/-- Goes on with a schedule, given last word first, for `n` more words. -/
def stretch : Nat → List UInt32 → List UInt32
  | 0, ws => ws
  | n + 1, ws =>
    let mixed := ws.getD 2 0 ^^^ ws.getD 7 0 ^^^ ws.getD 13 0 ^^^ ws.getD 15 0
    stretch n (rotateLeft mixed 1 :: ws)

/-- The eighty words of a block. -/
def schedule (block : List UInt8) : List UInt32 := (stretch 64 (words block).reverse).reverse

/-- The function and the constant of a round. -/
def mix (round : Nat) (s : State) : UInt32 :=
  if round < 20 then ((s.b &&& s.c) ||| (~~~s.b &&& s.d)) + 0x5A827999
  else if round < 40 then (s.b ^^^ s.c ^^^ s.d) + 0x6ED9EBA1
  else if round < 60 then ((s.b &&& s.c) ||| (s.b &&& s.d) ||| (s.c &&& s.d)) + 0x8F1BBCDC
  else (s.b ^^^ s.c ^^^ s.d) + 0xCA62C1D6

/-- The rounds from number `round` on, one for each word. -/
def rounds (round : Nat) (s : State) : List UInt32 → State
  | [] => s
  | w :: rest =>
    rounds (round + 1)
      ⟨rotateLeft s.a 5 + mix round s + s.e + w, s.a, rotateLeft s.b 30, s.c, s.d⟩ rest

/-- The state behind a block. -/
def compress (s : State) (block : List UInt8) : State :=
  let t := rounds 0 s (schedule block)
  ⟨s.a + t.a, s.b + t.b, s.c + t.c, s.d + t.d, s.e + t.e⟩

/-- The digest of a message. -/
def hash (message : List UInt8) : List UInt8 :=
  let s := (blocks 64 (padded 64 message)).foldl compress initial
  [s.a, s.b, s.c, s.d, s.e].flatMap wordBytes

/-- SHA-1. -/
def digest : Digest := ⟨64, 20, hash⟩

end BrokerWiring.Crypto.Sha1
