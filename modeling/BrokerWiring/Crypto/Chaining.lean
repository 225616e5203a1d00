import BrokerWiring.Crypto.Word

/-!
# Chained blocks

A message of several blocks, each mixed with the block before it, and filled up to a whole number
of blocks with bytes that say how many there are of them.
-/

namespace BrokerWiring.Crypto

/-- A block cipher that deciphers. -/
structure BlockCipher where
  blockSize : Nat
  decipher : List UInt8 → List UInt8

/-- The blocks deciphered one after another; `before` is the enciphered block before the next. -/
def unchain (cipher : BlockCipher) (before : List UInt8) : List (List UInt8) → List UInt8
  | [] => []
  | block :: rest => xorBytes (cipher.decipher block) before ++ unchain cipher block rest

/-- The bytes without the filling at their end; none if that is not in order. -/
def unfilled? (blockSize : Nat) (bytes : List UInt8) : Option (List UInt8) :=
  match bytes.getLast? with
  | none => none
  | some last =>
    let count := last.toNat
    let kept := bytes.take (bytes.length - count)
    let filling := List.replicate count last
    if 0 < count ∧ count ≤ blockSize ∧ bytes = kept ++ filling then some kept else none

/-- The message of chained blocks behind an initial vector; none if there is no whole number of
blocks, or no filling. -/
def unchained? (cipher : BlockCipher) (initial bytes : List UInt8) : Option (List UInt8) :=
  if bytes.length % cipher.blockSize ≠ 0 then none
  else unfilled? cipher.blockSize (unchain cipher initial (blocks cipher.blockSize bytes))

end BrokerWiring.Crypto
