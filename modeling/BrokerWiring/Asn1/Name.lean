import BrokerWiring.Asn1.Ber
import BrokerWiring.Text.Hex
import BrokerWiring.Text.Utf8

/-!
# Names in certificates

A distinguished name is a list of relative names, each of one or more attributes. `text` writes it
in the order of the certificate, with commas between relative names and plus signs within one.

A name is read as far as it can be read: what comes behind the first broken relative name, or within
one behind the first broken attribute, does not count.
-/

namespace BrokerWiring.Asn1

/-- An attribute of a name. -/
structure Attribute where
  kind : Identifier
  value : Ber.Element
  deriving Repr, DecidableEq

/-- A distinguished name. -/
abbrev Name := List (List Attribute)

namespace Name

/-! ## Labels -/

/-- The short labels that names are written with. -/
def shortLabels : List (List Nat × String) :=
  [([2, 5, 4, 3], "CN"), ([2, 5, 4, 6], "C"), ([2, 5, 4, 7], "L"), ([2, 5, 4, 8], "ST"),
    ([2, 5, 4, 10], "O"), ([2, 5, 4, 11], "OU"),
    ([0, 9, 2342, 19200300, 100, 1, 25], "DC"), ([1, 2, 840, 113549, 1, 9, 1], "Email")]

/-- The labels of the other attributes of directories, by their last number. -/
def directoryLabels : List (Nat × String) :=
  [(0, "objectClass"), (1, "aliasedEntryName"), (2, "knowledgeInformation"), (4, "surname"),
    (5, "serialNumber"), (9, "streetAddress"), (12, "title"), (13, "description"),
    (14, "searchGuide"), (15, "businessCategory"), (16, "postalAddress"), (17, "postalCode"),
    (41, "name"), (42, "givenName"), (43, "initials"), (44, "generationQualifier"),
    (45, "uniqueIdentifier"), (46, "dnQualifier")]

/-- The labels of what certificates extend themselves with, by their last number. -/
def extensionLabels : List (Nat × String) :=
  [(14, "subjectKeyIdentifier"), (15, "keyUsage"), (16, "privateKeyUsagePeriod"),
    (17, "subjectAltName"), (18, "issuerAltName"), (19, "basicConstraints"), (20, "crlNumber"),
    (21, "reasonCode"), (24, "invalidityDate"), (30, "nameConstraints"),
    (31, "crlDistributionPoints"), (32, "certificatePolicies"), (33, "policyMappings"),
    (35, "authorityKeyIdentifier"), (36, "policyConstraints"), (37, "extendedKeyUsage"),
    (46, "freshestCRL"), (54, "inhibitAnyPolicy")]

/-- The labels of attributes of signed messages, by their last number. -/
def messageLabels : List (Nat × String) :=
  [(2, "unstructuredName"), (3, "contentType"), (4, "id-messageDigest"), (5, "signingTime"),
    (7, "challengePassword"), (14, "extensionRequest"), (15, "smimeCapabilities"),
    (20, "friendlyName")]

/-- How the kinds of attributes are called. -/
def labels : List (Identifier × String) :=
  let below (path : List Nat) (named : List (Nat × String)) :=
    named.map fun (n, label) => (path ++ [n], label)
  (shortLabels ++ below [2, 5, 4] directoryLabels ++ below [2, 5, 29] extensionLabels ++
    below [1, 2, 840, 113549, 1, 9] messageLabels ++
    [([0, 9, 2342, 19200300, 100, 1, 1], "uid")]).map
    fun (path, label) => (Identifier.ofNumbers path, label)

/-- What an attribute is called; without a label, by its number. -/
def label (kind : Identifier) : String :=
  (labels.lookup kind).getD ("OID(" ++ kind.text ++ ")")

/-! ## Values -/

/-- Units of sixteen bits; a byte that is left at the end is a unit of its own. -/
def wideUnits : List UInt8 → List Nat
  | a :: b :: rest => (a.toNat * 256 + b.toNat) :: wideUnits rest
  | [a] => [a.toNat]
  | [] => []

/-- The characters of units, of which two make a character beyond the first 65536; none if one of
these two is missing. -/
def ofUnits? : List Nat → Option (List Char)
  | first :: second :: rest =>
    if 0xD800 ≤ first ∧ first < 0xDC00 then
      if 0xDC00 ≤ second ∧ second < 0xE000 then
        let n := (first - 0xD800) * 1024 + (second - 0xDC00) + 0x10000
        (ofUnits? rest).map (Char.ofNat n :: ·)
      else none
    else if 0xDC00 ≤ first ∧ first < 0xE000 then none
    else (ofUnits? (second :: rest)).map (Char.ofNat first :: ·)
  | [n] => if 0xD800 ≤ n ∧ n < 0xE000 then none else some [Char.ofNat n]
  | [] => some []

/-- The tag numbers of strings of bytes. -/
def stringNumbers : List UInt32 := [7, 12, 18, 19, 20, 21, 22, 25, 26, 27]

/-- The tag number of a string in units of sixteen bits. -/
def wideStringNumber : UInt32 := 30

/-- The text of an attribute; a value that is no string is shown in hexadecimal. None if a string
does not read as one. -/
def valueText? (value : Ber.Element) : Option String :=
  if stringNumbers.contains value.header.number then (Utf8.decodeText value.content).toOption
  else if value.header.number = wideStringNumber then
    (ofUnits? (wideUnits value.content)).map String.ofList
  else some (String.ofList ((Text.hexBytes value.content).toList.map Char.toUpper))

/-- An attribute with its label. -/
def attributeText? (part : Attribute) : Option String :=
  (valueText? part.value).map fun value => label part.kind ++ "=" ++ value

/-- The text of a relative name. -/
def relativeText? (parts : List Attribute) : Option String :=
  (parts.mapM attributeText?).map (" + ".intercalate ·)

/-- The text of a name. -/
def text (name : Name) : String :=
  match name.mapM relativeText? with
  | some relatives => ", ".intercalate relatives
  | none => "<X509Error: Invalid X.509 name>"

/-! ## Reading -/

/-- The attribute at the front. -/
def attribute? (bytes : List UInt8) : Option (Attribute × List UInt8) := do
  let (content, rest) ← Ber.expect Ber.sequenceNumber bytes
  let (kind, inner) ← Ber.expectIdentifier content
  let (value, _) ← Ber.element inner
  return (⟨kind, value⟩, rest)

/-- The relative name at the front; it has at least one attribute. -/
def relative? (bytes : List UInt8) : Option (List Attribute × List UInt8) := do
  let (content, rest) ← Ber.expect Ber.setNumber bytes
  match (Ber.many attribute? content).1 with
  | [] => none
  | parts => return (parts, rest)

/-- The name at the front. -/
def expect (bytes : List UInt8) : Option (Name × List UInt8) := do
  let (content, rest) ← Ber.expect Ber.sequenceNumber bytes
  return ((Ber.many relative? content).1, rest)

end Name

end BrokerWiring.Asn1
