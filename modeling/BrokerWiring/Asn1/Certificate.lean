import BrokerWiring.Asn1.Name
import BrokerWiring.Asn1.Time

/-!
# Certificates

`subject?` looks up whom a certificate is about. To have a subject at all, the whole certificate has
to read as one, from its version to its extensions; what the extensions say does not matter.
-/

namespace BrokerWiring.Asn1

namespace Certificate

/-! ## Parts -/

/-- What follows the version; it may be missing. -/
def passVersion (bytes : List UInt8) : Option (List UInt8) := do
  match ← Ber.optionalField 0 bytes with
  | (none, rest) => return rest
  | (some field, rest) =>
    let (content, _) ← Ber.expect Ber.integerNumber field
    let n ← integer? content
    if 0 ≤ n ∧ n < 0x100000000 then some rest else none

/-- What follows the beginning and the end of the validity. -/
def passValidity (bytes : List UInt8) : Option (List UInt8) := do
  let (content, rest) ← Ber.expect Ber.sequenceNumber bytes
  let content ← Time.pass content
  let _ ← Time.pass content
  return rest

/-- What follows a public key. -/
def passKey (bytes : List UInt8) : Option (List UInt8) := do
  let (content, rest) ← Ber.expect Ber.sequenceNumber bytes
  let content ← Ber.passAlgorithm content
  let _ ← Ber.passBits content
  return rest

/-- What follows field `n`, which may be missing but not be empty. -/
def passUnique (n : UInt32) (bytes : List UInt8) : Option (List UInt8) := do
  match ← Ber.optionalField n bytes with
  | (some [], _) => none
  | (_, rest) => return rest

/-- The extension at the front: an identifier, whether it is critical, and bytes. -/
def extension? (bytes : List UInt8) : Option (Unit × List UInt8) := do
  let (content, rest) ← Ber.expect Ber.sequenceNumber bytes
  let (_, content) ← Ber.expectIdentifier content
  let content :=
    match Ber.expect Ber.booleanNumber content with
    | some ([0], content) | some ([0xFF], content) => content
    | _ => content
  let _ ← Ber.expect Ber.octetStringNumber content
  return ((), rest)

/-- Whether bytes are the extensions of a certificate, of which there may be none. They stand in
field three, whose length does not count. -/
def areExtensions (bytes : List UInt8) : Bool :=
  bytes.isEmpty ||
    match Ber.header bytes with
    | some ((header, _), field) =>
      header.number = 3 &&
        match Ber.expect Ber.sequenceNumber field with
        | some (content, []) => (Ber.many extension? content).2.isEmpty
        | _ => false
    | none => false

/-! ## The subject -/

/-- The subject in the body of a certificate. -/
def bodySubject? (body : List UInt8) : Option Name := do
  let body ← passVersion body
  let body ← Ber.passNumber body
  let body ← Ber.passAlgorithm body
  let (_, body) ← Name.expect body
  let body ← passValidity body
  let (subject, body) ← Name.expect body
  let body ← passKey body
  let body ← passUnique 1 body
  let body ← passUnique 2 body
  if areExtensions body then some subject else none

/-- Whom a certificate is about; none if it cannot be read. What comes behind a certificate does not
count. -/
def subject? (bytes : List UInt8) : Option Name := do
  let (certificate, _) ← Ber.expect Ber.sequenceNumber bytes
  let (body, rest) ← Ber.expect Ber.sequenceNumber certificate
  let subject ← bodySubject? body
  let rest ← Ber.passAlgorithm rest
  let _ ← Ber.passBits rest
  return subject

end Certificate

end BrokerWiring.Asn1
