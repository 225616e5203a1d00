import BrokerWiring.Crypto.Word

/-!
# Keyed digests and keys from passwords

`hmac` is the keyed digest. Two ways lead from a password to a key: `stretched` chains keyed
digests, `diversified` digests password and salt together and serves several purposes with one
password, each with a diversifier of its own.
-/

namespace BrokerWiring.Crypto

/-! ## Keyed digests -/

/-- A key as long as a block: a longer one is digested first. -/
def blockKey (digest : Digest) (key : List UInt8) : List UInt8 :=
  let key := if digest.blockSize < key.length then digest.hash key else key
  key ++ List.replicate (digest.blockSize - key.length) 0

/-- The digest of a message under a key. -/
def hmac (digest : Digest) (key message : List UInt8) : List UInt8 :=
  let key := blockKey digest key
  digest.hash (key.map (· ^^^ 0x5C) ++ digest.hash (key.map (· ^^^ 0x36) ++ message))

/-! ## Chained keyed digests -/

/-- The exclusive or of `n` more links of a chain, the last link being `link`. -/
def chain (next : List UInt8 → List UInt8) : Nat → List UInt8 → List UInt8 → List UInt8
  | 0, _, sum => sum
  | n + 1, link, sum =>
    let link := next link
    chain next n link (xorBytes sum link)

/-- The pieces of a key from number `index` on, until `length` bytes are there. -/
def stretchedFrom (next : List UInt8 → List UInt8) (salt : List UInt8) (iterations : Nat) :
    Nat → Nat → Nat → List UInt8
  | 0, _, _ => []
  | fuel + 1, index, length =>
    let first := next (salt ++ bigEndian index 4)
    let piece := chain next (iterations - 1) first first
    if length ≤ piece.length then piece.take length
    else piece ++ stretchedFrom next salt iterations fuel (index + 1) (length - piece.length)

/-- A key of `length` bytes from a password, by keyed digests. -/
def stretched (digest : Digest) (password salt : List UInt8) (iterations length : Nat) :
    List UInt8 :=
  stretchedFrom (hmac digest password) salt iterations length 1 length

/-! ## Diversified digests -/

/-- What a diversified key is for. -/
inductive Purpose where
  | encryption
  | initialVector
  | authentication
  deriving Repr, DecidableEq

/-- The byte that stands for a purpose. -/
def Purpose.diversifier : Purpose → UInt8
  | .encryption => 1
  | .initialVector => 2
  | .authentication => 3

/-- Bytes repeated up to a whole number of blocks; none stay none. -/
def filled (size : Nat) (bytes : List UInt8) : List UInt8 :=
  let length := (bytes.length + size - 1) / size * size
  (List.replicate (length / bytes.length + 1) bytes).flatten.take length

/-- A digest applied `n` times over. -/
def repeated (digest : Digest) : Nat → List UInt8 → List UInt8
  | 0, bytes => bytes
  | n + 1, bytes => repeated digest n (digest.hash bytes)

/-- Adds a number and one to a block, dropping what does not fit. -/
def addToBlock (block : List UInt8) (n : Nat) : List UInt8 :=
  bigEndian (ofBigEndian block + n + 1) block.length

/-- The pieces of a diversified key, until `length` bytes are there. -/
def diversifiedFrom (digest : Digest) (lead : List UInt8) (iterations : Nat) :
    Nat → List UInt8 → Nat → List UInt8
  | 0, _, _ => []
  | fuel + 1, input, length =>
    let piece := repeated digest iterations (lead ++ input)
    if length ≤ piece.length then piece.take length
    else
      let addend := ofBigEndian (filled digest.blockSize piece)
      let input := (blocks digest.blockSize input).flatMap (addToBlock · addend)
      piece ++ diversifiedFrom digest lead iterations fuel input (length - piece.length)

/-- A key of `length` bytes for one purpose. -/
def diversified (digest : Digest) (purpose : Purpose) (password salt : List UInt8)
    (iterations length : Nat) : List UInt8 :=
  let size := digest.blockSize
  diversifiedFrom digest (List.replicate size purpose.diversifier) iterations length
    (filled size salt ++ filled size password) length

end BrokerWiring.Crypto
