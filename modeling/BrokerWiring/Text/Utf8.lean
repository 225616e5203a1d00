/-!
# UTF-8

`encode` writes characters as UTF-8 and `decode` reads them back, refusing at the first character
that is not well formed. A `Fault` says where that character starts and how many bytes of it were
read before the one that rules it out, or that the text ended inside it.

Well formed means the shortest form of a scalar value: no overlong forms, no surrogates and
nothing above U+10FFFF. The rule for the lead byte and for the byte behind it (`Lead.of?`) says all
of that; the bytes after these two are free in `80 … BF`.
-/

namespace BrokerWiring.Utf8

/-! ## Faults -/

/-- Where a byte string stops being UTF-8. -/
structure Fault where
  /-- The index of the first byte of the character that is not well formed. -/
  index : Nat
  /-- The bytes of it that were read before the refusal; none when the text ended first. -/
  length? : Option Nat
  deriving Repr, DecidableEq

/-- The wording of a fault. -/
def Fault.message (fault : Fault) : String :=
  match fault.length? with
  | some n => s!"invalid utf-8 sequence of {n} bytes from index {fault.index}"
  | none => s!"incomplete utf-8 byte sequence from index {fault.index}"

/-! ## Reading -/

/-- What a lead byte says: the bits it carries, the bytes that follow and the range of the first
of these. -/
structure Lead where
  bits : Nat
  tails : Nat
  low : Nat
  high : Nat
  deriving Repr, DecidableEq

/-- The rule for lead bytes; `80 … C1` and `F5 … FF` lead nothing. -/
def Lead.of? (b : Nat) : Option Lead :=
  if b < 0x80 then some ⟨b, 0, 0x80, 0xBF⟩
  else if b < 0xC2 then none
  else if b < 0xE0 then some ⟨b - 0xC0, 1, 0x80, 0xBF⟩
  else if b = 0xE0 then some ⟨0, 2, 0xA0, 0xBF⟩
  else if b = 0xED then some ⟨0xD, 2, 0x80, 0x9F⟩
  else if b < 0xF0 then some ⟨b - 0xE0, 2, 0x80, 0xBF⟩
  else if b = 0xF0 then some ⟨0, 3, 0x90, 0xBF⟩
  else if b < 0xF4 then some ⟨b - 0xF0, 3, 0x80, 0xBF⟩
  else if b = 0xF4 then some ⟨4, 3, 0x80, 0x8F⟩
  else none

/-- A character that has begun: its value so far, the bytes owed (at least one), the range of the
next one and the number already read. -/
structure Begun where
  value : Nat
  owed : Nat
  low : Nat
  high : Nat
  taken : Nat
  deriving Repr, DecidableEq

/-- Reads on from byte `index`, which starts the character `begun?` if there is one. -/
def decodeFrom (index : Nat) : Option Begun → List UInt8 → Except Fault (List Char)
  | none, [] => .ok []
  | some _, [] => .error ⟨index, none⟩
  | none, b :: rest =>
    match Lead.of? b.toNat with
    | none => .error ⟨index, some 1⟩
    | some lead =>
      if lead.tails = 0 then
        (decodeFrom (index + 1) none rest).map (Char.ofNat lead.bits :: ·)
      else decodeFrom index (some ⟨lead.bits, lead.tails, lead.low, lead.high, 1⟩) rest
  | some begun, b :: rest =>
    if begun.low ≤ b.toNat ∧ b.toNat ≤ begun.high then
      let value := begun.value * 64 + (b.toNat - 0x80)
      if begun.owed = 1 then
        (decodeFrom (index + begun.taken + 1) none rest).map (Char.ofNat value :: ·)
      else decodeFrom index (some ⟨value, begun.owed - 1, 0x80, 0xBF, begun.taken + 1⟩) rest
    else .error ⟨index, some begun.taken⟩

/-- The characters of a byte string, or its first fault. -/
def decode (bytes : List UInt8) : Except Fault (List Char) := decodeFrom 0 none bytes

/-- The text of a byte string, or its first fault. -/
def decodeText (bytes : List UInt8) : Except Fault String := (decode bytes).map String.ofList

/-! ## Writing -/

/-- The bytes of one character. -/
def encodeChar (c : Char) : List UInt8 :=
  let n := c.toNat
  if n < 0x80 then [n.toUInt8]
  else if n < 0x800 then [(0xC0 + n / 64).toUInt8, (0x80 + n % 64).toUInt8]
  else if n < 0x10000 then
    [(0xE0 + n / 4096).toUInt8, (0x80 + n / 64 % 64).toUInt8, (0x80 + n % 64).toUInt8]
  else
    [(0xF0 + n / 262144).toUInt8, (0x80 + n / 4096 % 64).toUInt8, (0x80 + n / 64 % 64).toUInt8,
      (0x80 + n % 64).toUInt8]

/-- The bytes of a list of characters. -/
def encode (cs : List Char) : List UInt8 := cs.flatMap encodeChar

/-- The bytes of a text. -/
def encodeText (s : String) : List UInt8 := encode s.toList

end BrokerWiring.Utf8
