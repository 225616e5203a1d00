import BrokerWiring.Asn1.Der

/-!
# Elements read leniently

Certificates are read with less care than archives: a tag may take several bytes and only its number
is compared, a length may take more bytes than it needs, and what is left at the end of an element
is passed over. An indefinite length is refused, but for the whole number at the front that
`passNumber` passes over.
-/

namespace BrokerWiring.Asn1.Ber

/-- What stands in front of a content. -/
structure Header where
  /-- Whether the tag has a meaning of its own only in its context. -/
  isField : Bool
  /-- Whether the content is made of elements. -/
  isConstructed : Bool
  number : UInt32
  deriving Repr, DecidableEq

/-- A header with the content behind it. -/
structure Element where
  header : Header
  content : List UInt8
  deriving Repr, DecidableEq

/-! ## Tag numbers -/

/-- The number of a truth value. -/
def booleanNumber : UInt32 := 1

/-- The number of a whole number. -/
def integerNumber : UInt32 := 2

/-- The number of bits. -/
def bitStringNumber : UInt32 := 3

/-- The number of bytes. -/
def octetStringNumber : UInt32 := 4

/-- The number of an object identifier. -/
def oidNumber : UInt32 := 6

/-- The number of elements whose order counts. -/
def sequenceNumber : UInt32 := 16

/-- The number of elements whose order does not count. -/
def setNumber : UInt32 := 17

/-- The number of a point in time with a year of two digits. -/
def shortTimeNumber : UInt32 := 23

/-- The number of a point in time with a year of four digits. -/
def longTimeNumber : UInt32 := 24

/-! ## Reading -/

/-- The rest of a tag number that takes several bytes, seven bits each and all but the last one
marked; none if `room` bytes do not do. -/
def longNumber? (acc : UInt32) : Nat → List UInt8 → Option (UInt32 × List UInt8)
  | room + 1, b :: rest =>
    let acc := (acc <<< 7) ||| (b &&& 0x7F).toUInt32
    if b < 0x80 then some (acc, rest) else longNumber? acc room rest
  | _, _ => none

/-- The tag at the front; its number may take five bytes more. -/
def tag? : List UInt8 → Option (Header × List UInt8)
  | [] => none
  | b :: rest =>
    let header : Header := ⟨isField b, b &&& 0x20 ≠ 0, (b &&& 0x1F).toUInt32⟩
    if header.number < 31 then some (header, rest)
    else (longNumber? 0 5 rest).map fun (n, rest) => ({ header with number := n }, rest)

/-- The length at the front. It may have zeros in front of it, but goes into sixty-four bits. -/
def length? : List UInt8 → Option (Nat × List UInt8)
  | [] => none
  | b :: rest =>
    if b < 0x80 then some (b.toNat, rest)
    else
      let count := b.toNat - 0x80
      let digits := rest.take count
      let n := Crypto.ofBigEndian digits
      if count = 0 ∨ count = 127 ∨ digits.length < count then none
      else if 0x10000000000000000 ≤ n then none
      else some (n, rest.drop count)

/-- What stands in front of the content at the front. -/
def header (bytes : List UInt8) : Option ((Header × Nat) × List UInt8) := do
  let (header, rest) ← tag? bytes
  let (length, rest) ← length? rest
  return ((header, length), rest)

/-- The element at the front. -/
def element (bytes : List UInt8) : Option (Element × List UInt8) := do
  let ((header, length), rest) ← header bytes
  if rest.length < length then none
  else some (⟨header, rest.take length⟩, rest.drop length)

/-- The content of the element at the front, whose tag has to have a given number. -/
def expect (number : UInt32) (bytes : List UInt8) : Option (List UInt8 × List UInt8) :=
  match element bytes with
  | some (found, rest) =>
    if found.header.number = number then some (found.content, rest) else none
  | none => none

/-- The same for an element that is not made of elements. -/
def expectPlain (number : UInt32) (bytes : List UInt8) : Option (List UInt8 × List UInt8) :=
  match element bytes with
  | some (found, rest) =>
    if found.header.number = number ∧ !found.header.isConstructed then some (found.content, rest)
    else none
  | none => none

/-- Field `n` if it stands at the front; otherwise everything stays. None if what stands there is
no element. -/
def optionalField (n : UInt32) (bytes : List UInt8) : Option (Option (List UInt8) × List UInt8) :=
  if bytes.isEmpty then some (none, [])
  else
    match element bytes with
    | some (found, rest) =>
      if found.header.isField ∧ found.header.number = n then some (some found.content, rest)
      else some (none, bytes)
    | none => none

/-- The items that `next` takes off the front, one after another, until it finds none. The first
argument bounds their number. -/
def manyWithin {α : Type} (next : List UInt8 → Option (α × List UInt8)) :
    Nat → List UInt8 → List α × List UInt8
  | 0, bytes => ([], bytes)
  | fuel + 1, bytes =>
    match next bytes with
    | some (item, rest) =>
      let (items, rest) := manyWithin next fuel rest
      (item :: items, rest)
    | none => ([], bytes)

/-- The items that `next` takes off the front. -/
def many {α : Type} (next : List UInt8 → Option (α × List UInt8)) (bytes : List UInt8) :
    List α × List UInt8 := manyWithin next bytes.length bytes

/-! ## Values -/

/-- What follows the elements at the front and the mark of their end, an empty element of number
zero. The first argument bounds the number of elements. -/
def passToMark : Nat → List UInt8 → Option (List UInt8)
  | 0, _ => none
  | fuel + 1, bytes => do
    let (header, rest) ← tag? bytes
    match rest with
    | 0x80 :: inner =>
      if header.isConstructed then passToMark fuel (← passToMark fuel inner) else none
    | _ =>
      let (length, rest) ← length? rest
      if header.number = 0 ∧ length = 0 then some rest
      else if rest.length < length then none
      else passToMark fuel (rest.drop length)

/-- What follows a whole number at the front. It may be made of elements up to a mark. -/
def passNumber (bytes : List UInt8) : Option (List UInt8) := do
  let (header, rest) ← tag? bytes
  if header.number ≠ integerNumber then none
  else
    match rest with
    | 0x80 :: inner => if header.isConstructed then passToMark inner.length inner else none
    | _ => (element bytes).map (·.2)

/-- The object identifier at the front; any bytes will do. -/
def expectIdentifier (bytes : List UInt8) : Option (Identifier × List UInt8) :=
  (expectPlain oidNumber bytes).map fun (content, rest) => (⟨content⟩, rest)

/-- Whether a content is one of bits: the first byte says how many bits at the end do not count, and
those are zero. -/
def isBits : List UInt8 → Bool
  | [] => false
  | [unused] => unused = 0
  | unused :: rest =>
    unused ≤ 8 && (rest.getLastD 0).toNat % Nat.pow 2 unused.toNat = 0

/-- What follows bits at the front. -/
def passBits (bytes : List UInt8) : Option (List UInt8) :=
  match expectPlain bitStringNumber bytes with
  | some (content, rest) => if isBits content then some rest else none
  | none => none

/-- What follows an algorithm with its parameters, if it has any, at the front. -/
def passAlgorithm (bytes : List UInt8) : Option (List UInt8) := do
  let (content, rest) ← expect sequenceNumber bytes
  let (_, parameters) ← expectIdentifier content
  if parameters.isEmpty || (element parameters).isSome then some rest else none

end BrokerWiring.Asn1.Ber
