import BrokerWiring.Asn1.Certificate
import BrokerWiring.Transport.Archive.Scheme

/-!
# Bags of key archives

What an archive holds lies in bags, in plain contents or enciphered ones. Keys that are enciphered
and certificates count; a certificate that does not read, or a key that the password does not open,
spoils the whole archive. Every other bag is passed over.

A bag may have attributes. Both the attributes and the values of each are sets, so that their order
in the archive does not matter: they are taken in the order of their bytes, and of each kind the
first attribute counts with its first value.
-/

namespace BrokerWiring.Archive

open Asn1

/-! ## Object identifiers -/

/-- Content in plain bytes. -/
def dataId : Identifier := .ofNumbers (standards ++ [1, 7, 1])

/-- Content that is enciphered. -/
def encryptedDataId : Identifier := .ofNumbers (standards ++ [1, 7, 6])

/-- A bag with a private key that is enciphered. -/
def shroudedKeyBagId : Identifier := .ofNumbers (standards ++ [1, 12, 10, 1, 2])

/-- A bag with a certificate. -/
def certificateBagId : Identifier := .ofNumbers (standards ++ [1, 12, 10, 1, 3])

/-- A certificate of the kind that stores use. -/
def certificateKindId : Identifier := .ofNumbers (standards ++ [1, 9, 22, 1])

/-- The attribute that holds the name of a bag. -/
def friendlyNameId : Identifier := .ofNumbers (standards ++ [1, 9, 20])

/-- The attribute by which a key and its certificate find each other. -/
def localKeyId : Identifier := .ofNumbers (standards ++ [1, 9, 21])

/-- The attribute of a certificate that is trusted on its own. -/
def trustId : Identifier := .ofNumbers [2, 16, 840, 1, 113894, 746875, 1, 1]

/-! ## Attributes -/

/-- An attribute of a bag with its values in order. -/
structure BagAttribute where
  kind : Identifier
  values : List Element

/-- The bytes of an attribute. -/
def BagAttribute.bytes (tag : BagAttribute) : List UInt8 :=
  let kind := Element.bytes ⟨oidTag, tag.kind.bytes⟩
  let values := Element.bytes ⟨setTag, tag.values.flatMap Element.bytes⟩
  Element.bytes ⟨sequenceTag, kind ++ values⟩

/-- The attribute that a content spells. -/
def attribute? (content : List UInt8) : Option BagAttribute := do
  let (kind, rest) ← expectIdentifier content
  let values ← children (← whole setTag rest)
  return ⟨kind, ← inOrder? Element.bytes values⟩

/-- The attributes of a set, in order. -/
def attributes? (content : List UInt8) : Option (List BagAttribute) := do
  let parts ← childrenOf sequenceTag content
  inOrder? BagAttribute.bytes (← parts.mapM attribute?)

/-- Text of units of sixteen bits, each a character of its own; none if a unit is none. -/
def wideText? : List UInt8 → Option (List Char)
  | a :: b :: rest =>
    let n := a.toNat * 256 + b.toNat
    if (0xD800 ≤ n ∧ n < 0xE000) ∨ n = 0xFFFF then none
    else (wideText? rest).map (Char.ofNat n :: ·)
  | [_] => none
  | [] => some []

/-- What the attributes of a bag tell. -/
structure Tags where
  localId? : Option (List UInt8)
  friendlyName? : Option String
  isTrusted : Bool
  deriving Repr, DecidableEq

/-- The first value of the first attribute of a kind. -/
def firstValue? (attributes : List BagAttribute) (kind : Identifier) : Option Element :=
  (attributes.find? (·.kind = kind)).bind (·.values.head?)

/-- What attributes tell. A value of another type than the one that belongs there tells nothing. -/
def Tags.ofAttributes (attributes : List BagAttribute) : Tags where
  localId? := (firstValue? attributes localKeyId).bind (·.contentOf? octetStringTag)
  friendlyName? := do
    let value ← firstValue? attributes friendlyNameId
    let text ← wideText? (← value.contentOf? wideStringTag)
    return String.ofList text
  isTrusted := attributes.any (·.kind = trustId)

/-! ## Bags -/

/-- A bag that counts. -/
inductive Bag where
  | key (tags : Tags)
  | certificate (tags : Tags) (subject : Name)

/-- The key in a bag, deciphered. -/
def shroudedKey (password : String) (value : List UInt8) : Except Fault (List UInt8) := do
  let content ← found (whole sequenceTag value)
  let (algorithm, rest) ← found (expectAlgorithm content)
  let bytes ← found (whole octetStringTag rest)
  decipher algorithm password bytes

/-- Whom the certificate in a bag is about. -/
def certificateSubject (value : List UInt8) : Except Fault Name := do
  let content ← found (whole sequenceTag value)
  let (kind, rest) ← found (expectIdentifier content)
  if kind ≠ certificateKindId then .error (.unsupported kind)
  else
    let bytes ← found (whole octetStringTag (← found (whole (fieldTag 0) rest)))
    match Certificate.subject? bytes with
    | some subject => .ok subject
    | none => .error .badCertificate

/-- What the field of a bag encloses. -/
def enclosed (value : Element) : Except Fault (List UInt8) :=
  if isEnclosingField value.tag then .ok value.content else .error .badEncoding

/-- The bag that a content spells, if it counts. -/
def bagOf (password : String) (content : List UInt8) : Except Fault (Option Bag) := do
  let (kind, rest) ← found (expectIdentifier content)
  let (value, rest) ← found (anything rest)
  let attributes ←
    if rest.isEmpty then .ok [] else found ((whole setTag rest).bind attributes?)
  let tags := Tags.ofAttributes attributes
  if kind = shroudedKeyBagId then
    let _ ← shroudedKey password (← enclosed value)
    return some (.key tags)
  else if kind = certificateBagId then
    return some (.certificate tags (← certificateSubject (← enclosed value)))
  else return none

/-- The bags that a byte string spells. -/
def bagsOf (password : String) (bytes : List UInt8) : Except Fault (List Bag) := do
  let list ← found (whole sequenceTag bytes)
  return (← (← found (childrenOf sequenceTag list)).mapM (bagOf password)).filterMap id

/-! ## Contents -/

/-- A content with its kind. -/
structure Content where
  kind : Identifier
  value : Element

/-- The content that a byte string spells. -/
def contentOf (bytes : List UInt8) : Except Fault Content := do
  let (kind, rest) ← found (expectIdentifier bytes)
  match ← found (children (← found (whole (fieldTag 0) rest))) with
  | [value] => return ⟨kind, value⟩
  | _ => .error .badEncoding

/-- The bytes of an enciphered content, whose format is the first one. Attributes behind it have to
be in order, but tell nothing. -/
def decipheredContent (password : String) (value : Element) : Except Fault (List UInt8) := do
  let content ← found (value.contentOf? sequenceTag)
  let (_, rest) ← found (expectInteger 0 0 content)
  let (inner, rest) ← found (expect sequenceTag rest)
  let rest ← found (skipFields 1 rest)
  let _ ←
    if rest.isEmpty then .ok [] else found ((whole (fieldTag 1) rest).bind attributes?)
  let (_, inner) ← found (expectIdentifier inner)
  let (algorithm, inner) ← found (expectAlgorithm inner)
  let bytes ← found (whole (implicitTag 0) inner)
  decipher algorithm password bytes

/-- The bags of a content, plain or enciphered. -/
def contentBags (password : String) (bytes : List UInt8) : Except Fault (List Bag) := do
  let content ← contentOf bytes
  if content.kind = dataId then
    bagsOf password (← found (content.value.contentOf? octetStringTag))
  else if content.kind = encryptedDataId then
    bagsOf password (← decipheredContent password content.value)
  else .error (.unsupported content.kind)

end BrokerWiring.Archive
