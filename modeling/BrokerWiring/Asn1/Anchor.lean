import BrokerWiring.Asn1.Der

/-!
# Trust anchors

`check` decides whether a certificate may serve as a trust anchor: the encoding has to be right,
the version has to be the third, no extension that is understood may come twice, and the algorithm
has to be named the same way inside and outside. A certificate of the first version, which has no
extensions, is let through by its shape.
-/

namespace BrokerWiring.Asn1

namespace Anchor

/-- Why a certificate is no trust anchor. -/
inductive Fault where
  | badEncoding
  | unsupportedVersion
  | algorithmMismatch
  | repeatedExtension
  deriving Repr, DecidableEq

/-- The name of a fault. -/
def Fault.message : Fault → String
  | .badEncoding => "BadEncoding"
  | .unsupportedVersion => "UnsupportedCertVersion"
  | .algorithmMismatch => "SignatureAlgorithmMismatch"
  | .repeatedExtension => "ExtensionValueInvalid"

/-- The content of the element at the front, which has to have a given tag and less than 65535
bytes. -/
def take (tag : UInt8) (bytes : List UInt8) : Except Fault (List UInt8 × List UInt8) :=
  match expect tag bytes with
  | some (content, rest) =>
    if content.length < 0xFFFF then .ok (content, rest) else .error .badEncoding
  | none => .error .badEncoding

/-- The content of the one element that a byte string is. -/
def takeWhole (tag : UInt8) (bytes : List UInt8) : Except Fault (List UInt8) :=
  match take tag bytes with
  | .ok (content, []) => .ok content
  | _ => .error .badEncoding

/-- A certificate in its three parts: the body, the algorithm of the signature, and the
signature. -/
structure Signed where
  body : List UInt8
  algorithm : List UInt8
  signature : List UInt8

/-- The parts of a certificate. The signature is a string of whole bytes. -/
def signed (bytes : List UInt8) : Except Fault Signed := do
  let certificate ← takeWhole sequenceTag bytes
  let (body, rest) ← take sequenceTag certificate
  let (algorithm, rest) ← take sequenceTag rest
  match ← takeWhole bitStringTag rest with
  | 0 :: signature => .ok ⟨body, algorithm, signature⟩
  | _ => .error .badEncoding

/-- Whether a byte string is the content of a version field that names the third version. -/
def isThirdVersion (content : List UInt8) : Bool := whole integerTag content = some [2]

/-- Passes the version field. -/
def passVersion (body : List UInt8) : Except Fault (List UInt8) :=
  match take (fieldTag 0) body with
  | .ok (content, rest) =>
    if isThirdVersion content then .ok rest else .error .unsupportedVersion
  | .error _ => .error .unsupportedVersion

/-- An extension of a certificate. -/
structure Extension where
  id : List UInt8
  critical : Bool
  value : List UInt8

/-- The extension that a content spells. -/
def extensionOf (content : List UInt8) : Except Fault Extension := do
  let (id, rest) ← take oidTag content
  let (flag?, rest) := optionally booleanTag rest
  let critical ←
    match flag? with
    | none | some [0] => .ok false
    | some [0xFF] => .ok true
    | some _ => .error .badEncoding
  let value ← takeWhole octetStringTag rest
  return ⟨id, critical, value⟩

/-- The last numbers of the extensions that are understood; the first of them is a string of bits,
the others are sequences. -/
def understood : List UInt8 := [15, 17, 19, 30, 31, 37]

/-- The number of an extension that is understood. -/
def Extension.number? (extension : Extension) : Option UInt8 :=
  match extension.id with
  | [0x55, 0x1D, n] => if understood.contains n then some n else none
  | _ => none

/-- Whether the extensions are in order; `seen` are the numbers of those before. -/
def checkExtensions (seen : List UInt8) : List (List UInt8) → Except Fault Unit
  | [] => .ok ()
  | content :: rest => do
    let extension ← extensionOf content
    match extension.number? with
    | none => checkExtensions seen rest
    | some n =>
      if seen.contains n then .error .repeatedExtension
      else
        if n ≠ 15 then
          let _ ← takeWhole sequenceTag extension.value
        checkExtensions (n :: seen) rest

/-- Whether the field of extensions is in order; it may be absent. -/
def checkExtensionField (bytes : List UInt8) : Except Fault Unit :=
  if bytes.isEmpty then .ok ()
  else do
    let field ← takeWhole (fieldTag 3) bytes
    let list ← takeWhole sequenceTag field
    match childrenOf sequenceTag list with
    | some extensions => checkExtensions [] extensions
    | none => .error .badEncoding

/-- Whether a certificate of the third version may be an anchor. -/
def checkThird (bytes : List UInt8) : Except Fault Unit := do
  let certificate ← signed bytes
  let body ← passVersion certificate.body
  let (_, body) ← take integerTag body
  let (algorithm, body) ← take sequenceTag body
  if algorithm ≠ certificate.algorithm then .error .algorithmMismatch
  else
    let (_, body) ← take sequenceTag body
    let (_, body) ← take sequenceTag body
    let (_, body) ← take sequenceTag body
    let (_, body) ← take sequenceTag body
    checkExtensionField body

/-- Whether a certificate has the shape of the first version. -/
def checkFirst (bytes : List UInt8) : Except Fault Unit := do
  let certificate ← takeWhole sequenceTag bytes
  let (body, rest) ← take sequenceTag certificate
  let (_, body) ← take integerTag body
  let (_, body) ← take sequenceTag body
  let (_, body) ← take sequenceTag body
  let (_, body) ← take sequenceTag body
  let (_, body) ← take sequenceTag body
  let _ ← takeWhole sequenceTag body
  let (_, rest) ← take sequenceTag rest
  let _ ← takeWhole bitStringTag rest

/-- Whether a certificate may serve as a trust anchor. -/
def check (bytes : List UInt8) : Except Fault Unit :=
  match checkThird bytes with
  | .error .unsupportedVersion => checkFirst bytes
  | result => result

end Anchor

end BrokerWiring.Asn1
