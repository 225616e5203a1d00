import BrokerWiring.Asn1.Identifier
import BrokerWiring.Crypto.Word

/-!
# DER elements

The distinguished encoding of nested data: a tag of one byte, a length in as few bytes as possible,
and as many bytes of content. `element` takes one element off the front of a byte string, `children`
splits a content into the elements that it is made of, and `Element.bytes` writes one.

Fields with a number are read by `field` and `skipFields`: an element of a context may stand in
front of the field that is asked for only if its number is smaller.
-/

namespace BrokerWiring.Asn1

/-- A tag with what it encloses. -/
structure Element where
  tag : UInt8
  content : List UInt8
  deriving Repr, DecidableEq

/-! ## Tags -/

/-- The tag of a truth value. -/
def booleanTag : UInt8 := 0x01

/-- The tag of a whole number. -/
def integerTag : UInt8 := 0x02

/-- The tag of bits, whose content first says how many of its last byte do not count. -/
def bitStringTag : UInt8 := 0x03

/-- The tag of bytes. -/
def octetStringTag : UInt8 := 0x04

/-- The tag of nothing. -/
def nullTag : UInt8 := 0x05

/-- The tag of an object identifier. -/
def oidTag : UInt8 := 0x06

/-- The tag of text in units of sixteen bits. -/
def wideStringTag : UInt8 := 0x1E

/-- The tag of elements whose order counts. -/
def sequenceTag : UInt8 := 0x30

/-- The tag of elements whose order does not count. -/
def setTag : UInt8 := 0x31

/-- The tag of field `n` when it encloses elements. -/
def fieldTag (n : UInt8) : UInt8 := 0xA0 + n

/-- The tag of field `n` when it stands in place of the tag of a simple value. -/
def implicitTag (n : UInt8) : UInt8 := 0x80 + n

/-- The tags with a meaning that is the same everywhere. -/
def universalTags : List UInt8 :=
  [0x01, 0x02, 0x03, 0x04, 0x05, 0x06, 0x09, 0x0A, 0x0C, 0x12, 0x13, 0x14, 0x15, 0x16, 0x17, 0x18,
    0x1A, 0x1E, 0x30, 0x31]

/-- Whether a tag has a meaning: one that is the same everywhere, or one that the surroundings
give it. -/
def isMeaningful (tag : UInt8) : Bool := universalTags.contains tag || 0x40 ≤ tag

/-- Whether a tag is that of a field with a number. -/
def isField (tag : UInt8) : Bool := tag &&& 0xC0 = 0x80

/-- Whether a tag is that of a field that encloses elements. -/
def isEnclosingField (tag : UInt8) : Bool := tag &&& 0xE0 = 0xA0

/-! ## Reading -/

/-- The length in front of a content, and what follows it. One byte says a length below 128;
otherwise it says how many bytes, at most four, hold the length, and fewer would not do. -/
def length? : List UInt8 → Option (Nat × List UInt8)
  | [] => none
  | b :: rest =>
    if b < 0x80 then some (b.toNat, rest)
    else
      let count := b.toNat - 0x80
      let digits := rest.take count
      let n := Crypto.ofBigEndian digits
      if count = 0 ∨ 4 < count ∨ digits.length < count then none
      else if n < 0x80 ∨ n < Nat.pow 256 (count - 1) then none
      else some (n, rest.drop count)

/-- The element at the front. A tag of several bytes is not understood. -/
def element : List UInt8 → Option (Element × List UInt8)
  | [] => none
  | tag :: rest =>
    if tag &&& 0x1F = 0x1F then none
    else
      match length? rest with
      | none => none
      | some (n, rest) =>
        if rest.length < n then none else some (⟨tag, rest.take n⟩, rest.drop n)

/-- The content of the element at the front, which has to have a given tag. -/
def expect (tag : UInt8) (bytes : List UInt8) : Option (List UInt8 × List UInt8) :=
  match element bytes with
  | some (found, rest) => if found.tag = tag then some (found.content, rest) else none
  | none => none

/-- The content of the element at the front if it has a given tag; otherwise everything stays. -/
def optionally (tag : UInt8) (bytes : List UInt8) : Option (List UInt8) × List UInt8 :=
  match expect tag bytes with
  | some (content, rest) => (some content, rest)
  | none => (none, bytes)

/-- The content of the one element that a byte string is. -/
def whole (tag : UInt8) (bytes : List UInt8) : Option (List UInt8) :=
  match expect tag bytes with
  | some (content, []) => some content
  | _ => none

/-- The element at the front, whatever it is as long as its tag has a meaning. -/
def anything (bytes : List UInt8) : Option (Element × List UInt8) :=
  match element bytes with
  | some (found, rest) => if isMeaningful found.tag then some (found, rest) else none
  | none => none

/-- The elements of a content, each read by `next`; the first argument bounds their number. -/
def childrenWithin (next : List UInt8 → Option (Element × List UInt8)) :
    Nat → List UInt8 → Option (List Element)
  | _, [] => some []
  | 0, _ => none
  | fuel + 1, bytes => do
    let (first, rest) ← next bytes
    let others ← childrenWithin next fuel rest
    return first :: others

/-- The elements of a content. -/
def children (bytes : List UInt8) : Option (List Element) :=
  childrenWithin anything bytes.length bytes

/-- The contents of the elements of a content, which all have to have a given tag. -/
def childrenOf (tag : UInt8) (bytes : List UInt8) : Option (List (List UInt8)) := do
  let found ← childrenWithin element bytes.length bytes
  found.mapM fun e => if e.tag = tag then some e.content else none

/-- The content of an element that has to have a given tag. -/
def Element.contentOf? (e : Element) (tag : UInt8) : Option (List UInt8) :=
  if e.tag = tag then some e.content else none

/-- Whether nothing is left. -/
def atEnd (bytes : List UInt8) : Option Unit := if bytes.isEmpty then some () else none

/-- What follows the fields at the front whose numbers are below `n`; none if one of them is
broken. The first argument bounds their number. -/
def skipFieldsWithin (n : UInt8) : Nat → List UInt8 → Option (List UInt8)
  | fuel + 1, tag :: rest =>
    if isField tag && tag &&& 0x1F < n then
      match element (tag :: rest) with
      | some (_, rest) => skipFieldsWithin n fuel rest
      | none => none
    else some (tag :: rest)
  | _, bytes => some bytes

/-- What follows the fields at the front whose numbers are below `n`. -/
def skipFields (n : UInt8) (bytes : List UInt8) : Option (List UInt8) :=
  skipFieldsWithin n bytes.length bytes

/-! ## Writing -/

/-- A length in as few bytes as possible. -/
def lengthBytes (n : Nat) : List UInt8 :=
  if n < 0x80 then [n.toUInt8]
  else
    let width := n.log2 / 8 + 1
    (0x80 + width).toUInt8 :: Crypto.bigEndian n width

/-- The bytes of an element. -/
def Element.bytes (e : Element) : List UInt8 :=
  e.tag :: lengthBytes e.content.length ++ e.content

/-! ## Sets -/

/-- Puts an item where its bytes belong; none if the same bytes are there already. -/
def insertInOrder? {α : Type} (bytesOf : α → List UInt8) (item : α) : List α → Option (List α)
  | [] => some [item]
  | other :: rest =>
    if bytesOf item < bytesOf other then some (item :: other :: rest)
    else if bytesOf item = bytesOf other then none
    else (insertInOrder? bytesOf item rest).map (other :: ·)

/-- Items in the order of their bytes; none if two of them have the same. -/
def inOrder? {α : Type} (bytesOf : α → List UInt8) (items : List α) : Option (List α) :=
  items.foldlM (fun sorted item => insertInOrder? bytesOf item sorted) []

/-! ## Values -/

/-- The whole number that a content spells. The highest bit of the first byte is the sign, and a
first byte that only repeats the sign may not stand there. -/
def integer? : List UInt8 → Option Int
  | [] => none
  | a :: rest =>
    let sign : UInt8 := if a < 0x80 then 0 else 0xFF
    let isPadded : Bool :=
      match rest with
      | [] => false
      | b :: _ => a = sign && (a < 0x80) == (b < 0x80)
    if isPadded then none
    else
      let n := Crypto.ofBigEndian (a :: rest)
      some (if a < 0x80 then Int.ofNat n else Int.subNatNat n (Nat.pow 256 (rest.length + 1)))

/-- The whole number at the front; it has to lie in a given range. -/
def expectInteger (low high : Int) (bytes : List UInt8) : Option (Int × List UInt8) := do
  let (content, rest) ← expect integerTag bytes
  let n ← integer? content
  if low ≤ n ∧ n ≤ high then some (n, rest) else none

/-- The natural number at the front, of at most `size` bytes. -/
def expectNatural (size : Nat) (bytes : List UInt8) : Option (Nat × List UInt8) :=
  (expectInteger 0 (Int.ofNat (Nat.pow 256 size - 1)) bytes).map fun (n, rest) => (n.toNat, rest)

/-- The object identifier at the front. -/
def expectIdentifier (bytes : List UInt8) : Option (Identifier × List UInt8) := do
  let (content, rest) ← expect oidTag bytes
  if Identifier.isSound ⟨content⟩ then some (⟨content⟩, rest) else none

/-- An algorithm with its parameters. -/
structure Algorithm where
  id : Identifier
  parameters? : Option Element
  deriving Repr, DecidableEq

/-- The algorithm at the front. -/
def expectAlgorithm (bytes : List UInt8) : Option (Algorithm × List UInt8) := do
  let (content, rest) ← expect sequenceTag bytes
  let (id, parameters) ← expectIdentifier content
  match ← children parameters with
  | [] => return (⟨id, none⟩, rest)
  | [e] => return (⟨id, some e⟩, rest)
  | _ => none

end BrokerWiring.Asn1
