import BrokerWiring.Asn1.Der
import BrokerWiring.Crypto.Aes
import BrokerWiring.Crypto.Chaining
import BrokerWiring.Crypto.Des
import BrokerWiring.Crypto.Rc2
import BrokerWiring.Crypto.Scrypt
import BrokerWiring.Crypto.Sha1
import BrokerWiring.Crypto.Sha256
import BrokerWiring.Crypto.Sha512
import BrokerWiring.Text.Utf8
import BrokerWiring.Transport.Archive.Fault

/-!
# Schemes of key archives

How a password protects the parts of an archive. `decipher` knows two families: chained AES under a
key that is stretched from the password (`Stretching`), and triple DES or RC2 under a key of
diversified digests. `checkStamp` recomputes the keyed digest that stands on an archive.

The first family takes the password in UTF-8, the others in units of sixteen bits, so that they
refuse a password with a character that takes two of them.
-/

namespace BrokerWiring.Archive

open Asn1 Crypto

/-! ## Object identifiers -/

/-- The path of the standards that archives are built from. -/
def standards : List Nat := [1, 2, 840, 113549]

/-- Enciphering under a key that is stretched from the password. -/
def passwordSchemeId : Identifier := .ofNumbers (standards ++ [1, 5, 13])

/-- Stretching by iterated keyed digests. -/
def iterationId : Identifier := .ofNumbers (standards ++ [1, 5, 12])

/-- Stretching that takes memory. -/
def memoryId : Identifier := .ofNumbers [1, 3, 6, 1, 4, 1, 11591, 4, 11]

/-- Enciphering with triple DES under a key of diversified digests. -/
def tripleDesSchemeId : Identifier := .ofNumbers (standards ++ [1, 12, 1, 3])

/-- Enciphering with RC2 and 40 bits of a key of diversified digests. -/
def rc2SchemeId : Identifier := .ofNumbers (standards ++ [1, 12, 1, 6])

/-- The digests that a stamp may be made with. -/
def stampDigests : List (Identifier × Digest) :=
  [(.ofNumbers [1, 3, 14, 3, 2, 26], Sha1.digest),
    (.ofNumbers [2, 16, 840, 1, 101, 3, 4, 2, 1], Sha256.digest)]

/-- The keyed digests that stretch a password, by their digests. -/
def iterationDigests : List (Identifier × Digest) :=
  [(.ofNumbers (standards ++ [2, 8]), Sha256.digest224),
    (.ofNumbers (standards ++ [2, 9]), Sha256.digest),
    (.ofNumbers (standards ++ [2, 10]), Sha512.digest384),
    (.ofNumbers (standards ++ [2, 11]), Sha512.digest)]

/-- The ciphers that chain AES blocks, with the length of their keys. -/
def blockCiphers : List (Identifier × Nat) :=
  [(.ofNumbers [2, 16, 840, 1, 101, 3, 4, 1, 2], 16),
    (.ofNumbers [2, 16, 840, 1, 101, 3, 4, 1, 22], 24),
    (.ofNumbers [2, 16, 840, 1, 101, 3, 4, 1, 42], 32)]

/-- What an identifier stands for in a list. -/
def named {α : Type} (list : List (Identifier × α)) (id : Identifier) : Except Fault α :=
  match list.lookup id with
  | some a => .ok a
  | none => .error (.unsupported id)

/-! ## Passwords -/

/-- A password in units of sixteen bits with a zero unit at its end. A character that takes two
units is refused, and so is the last one that takes one. -/
def widePassword (password : String) : Except Fault (List UInt8) :=
  if password.toList.all (·.toNat < 0xFFFF) then
    .ok (password.toList.flatMap (fun c => bigEndian c.toNat 2) ++ [0, 0])
  else .error .unencodablePassword

/-- The number of iterations at the front, which may even be negative. Fewer than one count as
one. -/
def expectIterations (bytes : List UInt8) : Option (Nat × List UInt8) :=
  (expectInteger (-0x80000000) 0x7FFFFFFF bytes).map fun (n, rest) => (max 1 n.toNat, rest)

/-! ## Diversified digests -/

/-- Deciphers with a key and an initial vector. -/
def unchain (cipher : BlockCipher) (initial bytes : List UInt8) : Except Fault (List UInt8) :=
  match unchained? cipher initial bytes with
  | some plain => .ok plain
  | none => .error .wrongPassword

/-- Deciphers under a key of diversified digests; `keyLength` belongs to the cipher. -/
def decipherDiversified (cipherFor : List UInt8 → List UInt8 → List UInt8) (keyLength : Nat)
    (password : String) (parameters : Element) (bytes : List UInt8) :
    Except Fault (List UInt8) := do
  let content ← found (parameters.contentOf? sequenceTag)
  let (salt, rest) ← found (expect octetStringTag content)
  let (iterations, rest) ← found (expectIterations rest)
  found (atEnd rest)
  let secret ← widePassword password
  let derive (purpose : Purpose) (length : Nat) :=
    diversified Sha1.digest purpose secret salt iterations length
  unchain ⟨8, cipherFor (derive .encryption keyLength)⟩ (derive .initialVector 8) bytes

/-! ## Stretched keys -/

/-- How a password is stretched. -/
inductive Stretching where
  | iterated (digest : Digest) (iterations : Nat)
  | laborious (work : Scrypt.Work)

/-- The key of a given length that a password is stretched to. -/
def Stretching.key (stretching : Stretching) (password salt : List UInt8) (length : Nat) :
    List UInt8 :=
  match stretching with
  | .iterated digest iterations => stretched digest password salt iterations length
  | .laborious work => Scrypt.key Sha256.digest password salt work length

/-- What stretching a password needs; the length of the key need not be given. -/
structure Recipe where
  salt : List UInt8
  length? : Option Nat
  stretching : Stretching

/-- The length of a key at the front, if one is given. -/
def optionalLength (bytes : List UInt8) : Option (Option Nat × List UInt8) :=
  match optionally integerTag bytes with
  | (none, _) => some (none, bytes)
  | (some _, _) => (expectNatural 2 bytes).map fun (n, rest) => (some n, rest)

/-- The digest that an algorithm of keyed digests names. It has a parameter, which is null. -/
def iterationDigest (algorithm : Algorithm) : Except Fault Digest :=
  if algorithm.parameters? = some ⟨nullTag, []⟩ then named iterationDigests algorithm.id
  else .error .badEncoding

/-- The recipe of stretching by iteration. The keyed digest has to be named: the one that would be
meant otherwise is not supported. -/
def iterationRecipe (content : List UInt8) : Except Fault Recipe := do
  let (salt, rest) ← found (expect octetStringTag content)
  let (iterations, rest) ← found (expectNatural 4 rest)
  let (length?, rest) ← found (optionalLength rest)
  let (algorithm, rest) ← found (expectAlgorithm rest)
  found (atEnd rest)
  let digest ← iterationDigest algorithm
  return ⟨salt, length?, .iterated digest (max 1 iterations)⟩

/-- The recipe of stretching that takes memory. -/
def memoryRecipe (content : List UInt8) : Except Fault Recipe := do
  let (salt, rest) ← found (expect octetStringTag content)
  let (cost, rest) ← found (expectNatural 8 rest)
  let (blockSize, rest) ← found (expectNatural 2 rest)
  let (lanes, rest) ← found (expectNatural 2 rest)
  let (length?, rest) ← found (optionalLength rest)
  found (atEnd rest)
  let work : Scrypt.Work := ⟨cost, blockSize, lanes⟩
  if work.isSound then return ⟨salt, length?, .laborious work⟩ else .error .badEncoding

/-- The recipe that an algorithm spells. -/
def recipe (algorithm : Algorithm) : Except Fault Recipe := do
  let parameters ← found algorithm.parameters?
  let content ← found (parameters.contentOf? sequenceTag)
  if algorithm.id = iterationId then iterationRecipe content
  else if algorithm.id = memoryId then memoryRecipe content
  else .error (.unsupported algorithm.id)

/-- Deciphers AES under a stretched key. -/
def decipherStretched (password : String) (parameters : Element) (bytes : List UInt8) :
    Except Fault (List UInt8) := do
  let content ← found (parameters.contentOf? sequenceTag)
  let (derivation, rest) ← found (expectAlgorithm content)
  let (cipher, rest) ← found (expectAlgorithm rest)
  found (atEnd rest)
  let recipe ← recipe derivation
  let length ← named blockCiphers cipher.id
  let initial ← found (cipher.parameters?.bind (·.contentOf? octetStringTag))
  if initial.length ≠ 16 ∨ recipe.length?.any (· ≠ length) then .error .badEncoding
  else
    let key := recipe.stretching.key (Utf8.encodeText password) recipe.salt length
    unchain ⟨16, Aes.decipher key⟩ initial bytes

/-! ## Schemes -/

/-- Deciphers with the scheme that an algorithm names. -/
def decipher (algorithm : Algorithm) (password : String) (bytes : List UInt8) :
    Except Fault (List UInt8) := do
  let parameters ← found algorithm.parameters?
  if algorithm.id = passwordSchemeId then decipherStretched password parameters bytes
  else if algorithm.id = tripleDesSchemeId then
    decipherDiversified Des.decipher 24 password parameters bytes
  else if algorithm.id = rc2SchemeId then
    decipherDiversified Rc2.decipher 5 password parameters bytes
  else .error (.unsupported algorithm.id)

/-- Checks the stamp on an archive: a keyed digest of what is inside, under a key of its own. -/
def checkStamp (password : String) (inside stamp : List UInt8) : Except Fault Unit := do
  let (sum, rest) ← found (expect sequenceTag stamp)
  let (algorithm, sum) ← found (expectAlgorithm sum)
  let expected ← found (whole octetStringTag sum)
  let (salt, rest) ← found (expect octetStringTag rest)
  let (iterations, rest) ←
    if rest.isEmpty then .ok (1, []) else found (expectIterations rest)
  found (atEnd rest)
  let digest ← named stampDigests algorithm.id
  let secret ← widePassword password
  let key := diversified digest .authentication secret salt iterations digest.size
  if hmac digest key inside = expected then .ok () else .error .wrongPassword

end BrokerWiring.Archive
