import BrokerWiring.Pem.Base64
import BrokerWiring.Text.Utf8

/-!
# PEM bundles

A bundle is a text with sections in it, each between a line that begins it and one that ends it.
Sections with a known label hold base64; the others, and all that stands between sections, are
passed over. `certificates` gives the contents of the certificates in order, or the first fault.
-/

namespace BrokerWiring.Pem

/-- What is wrong with a bundle. -/
inductive Fault where
  /-- A line that begins a section but does not end in exactly five dashes. -/
  | badBeginning
  | unfinished
  | badBase64
  deriving Repr, DecidableEq

/-- The wording of a fault. -/
def Fault.message : Fault → String
  | .badBeginning => "illegal section start"
  | .unfinished => "missing section end marker"
  | .badBase64 => "base64 decode error"

/-- The label of certificates. -/
def certificateLabel : List UInt8 := Utf8.encodeText "CERTIFICATE"

/-- The labels of sections that hold base64. -/
def knownLabels : List (List UInt8) :=
  certificateLabel ::
    ["PUBLIC KEY", "RSA PRIVATE KEY", "PRIVATE KEY", "EC PRIVATE KEY", "X509 CRL",
      "CERTIFICATE REQUEST", "ECHCONFIG"].map Utf8.encodeText

/-- What a line that begins a section starts with. -/
def beginLead : List UInt8 := Utf8.encodeText "-----BEGIN "

/-- What a line that ends a section starts with, in front of the label. -/
def endLead : List UInt8 := Utf8.encodeText "-----END "

/-- The five dashes behind a label. -/
def dashes : List UInt8 := Utf8.encodeText "-----"

/-- The lines of a text: a line feed or a carriage return ends one. What stands behind the last of
these is a line only if it is not empty. -/
def lines (bytes : List UInt8) : List (List UInt8) :=
  let rec go (line : List UInt8) : List UInt8 → List (List UInt8)
    | [] => if line.isEmpty then [] else [line.reverse]
    | b :: rest => if b = 0x0A ∨ b = 0x0D then line.reverse :: go [] rest else go (b :: line) rest
  go [] bytes

/-- Counts the dashes at the end of a line, given last byte first, with blanks among them passed
over; `kept` is the line in front of the foremost of these dashes. -/
def trailer (kept : List UInt8) : Nat → List UInt8 → Nat × List UInt8
  | count, [] => (count, kept)
  | count, b :: rest =>
    if b = 0x2D then trailer rest (count + 1) rest
    else if b = 0x20 then trailer kept count rest
    else (count, kept)

/-- The label of a line that begins a section, without what it starts with. -/
def label? (line : List UInt8) : Except Fault (List UInt8) :=
  let (count, kept) := trailer line.reverse 0 line.reverse
  if count = 5 then .ok (kept.reverse.drop beginLead.length) else .error .badBeginning

/-- Reads lines; `section?` is the label of the section that has begun, `content` its text so
far. -/
def certificatesFrom (section? : Option (List UInt8)) (content : List UInt8) :
    List (List UInt8) → Except Fault (List (List UInt8))
  | [] => if section?.isSome then .error .unfinished else .ok []
  | line :: rest =>
    if beginLead.isPrefixOf line then
      match label? line with
      | .error fault => .error fault
      | .ok label => certificatesFrom (some label) content rest
    else
      match section? with
      | none => certificatesFrom none content rest
      | some label =>
        if (endLead ++ label ++ dashes).isPrefixOf line then
          if knownLabels.contains label then
            match decodeBase64? content with
            | none => .error .badBase64
            | some bytes =>
              let others := certificatesFrom none [] rest
              if label = certificateLabel then others.map (bytes :: ·) else others
          else certificatesFrom none [] rest
        else certificatesFrom (some label) (content ++ line) rest

/-- The certificates of a bundle. -/
def certificates (bytes : List UInt8) : Except Fault (List (List UInt8)) :=
  certificatesFrom none [] (lines bytes)

end BrokerWiring.Pem
