/-!
# Base64

Six bits a character, four characters a group of three bytes. Blanks do not count. The last group
may be short: two characters stand for one byte and three for two, and equals signs fill it up or
are left out altogether. Bits of a short group that make no whole byte are dropped.
-/

namespace BrokerWiring.Pem

/-- The six bits of a character, given by its byte. -/
def sextet? (b : UInt8) : Option Nat :=
  if 0x41 ≤ b ∧ b ≤ 0x5A then some (b.toNat - 0x41)
  else if 0x61 ≤ b ∧ b ≤ 0x7A then some (b.toNat - 0x61 + 26)
  else if 0x30 ≤ b ∧ b ≤ 0x39 then some (b.toNat - 0x30 + 52)
  else if b = 0x2B then some 62
  else if b = 0x2F then some 63
  else none

/-- The equals sign, which fills up the last group. -/
def filler : UInt8 := 0x3D

/-- Whether a byte may stand anywhere without counting. -/
def isBase64Blank (b : UInt8) : Bool := b == 0x20 || (0x09 ≤ b && b ≤ 0x0D)

/-- The bytes of groups of sextets, the last of which may be short. -/
def groups? : List Nat → Option (List UInt8)
  | [] => some []
  | [_] => none
  | [a, b] => some [((a * 64 + b) / 16).toUInt8]
  | [a, b, c] =>
    let n := (a * 64 + b) * 64 + c
    some [(n / 1024).toUInt8, (n / 4).toUInt8]
  | a :: b :: c :: d :: rest =>
    let n := ((a * 64 + b) * 64 + c) * 64 + d
    (groups? rest).map fun tail =>
      (n / 65536).toUInt8 :: (n / 256).toUInt8 :: n.toUInt8 :: tail

/-- Whether as many equals signs may stand behind as many characters: none at all, or one or two
that fill up the last group. -/
def isFilling (characters fillers : Nat) : Bool :=
  fillers = 0 || (fillers ≤ 2 && (characters + fillers) % 4 = 0)

/-- The bytes that a text stands for. -/
def decodeBase64? (text : List UInt8) : Option (List UInt8) :=
  let text := text.filter (!isBase64Blank ·)
  let characters := text.takeWhile (· != filler)
  let fillers := text.drop characters.length
  if fillers.all (· == filler) && isFilling characters.length fillers.length then do
    groups? (← characters.mapM sextet?)
  else none

end BrokerWiring.Pem
