import BrokerWiring.Text.Hex

/-!
# Object identifiers

An object identifier is a path of numbers, kept as the bytes that encode it: the first byte holds
the first two numbers, and every other number is spelt in digits of seven bits, the last digit
without its highest bit. Two identifiers are the same when their bytes are, so a number with
needless zero digits makes another identifier.

`ofNumbers` encodes a path and `text` shows one. `isSound` is the stricter rule of archives, where
numbers have to stay below 2³².
-/

namespace BrokerWiring.Asn1

/-- An object identifier. -/
structure Identifier where
  bytes : List UInt8
  deriving Repr, DecidableEq

namespace Identifier

/-! ## Writing -/

/-- A number in digits of seven bits; `mark` is added to the last of them. -/
def digits (mark : Nat) (n : Nat) : List UInt8 :=
  if n < 128 then [(mark + n).toUInt8]
  else digits 128 (n / 128) ++ [(mark + n % 128).toUInt8]
termination_by n
decreasing_by omega

/-- The identifier of a path of at least two numbers, of which the first is at most two. -/
def ofNumbers : List Nat → Identifier
  | first :: second :: rest => ⟨digits 0 (40 * first + second) ++ rest.flatMap (digits 0)⟩
  | _ => ⟨[]⟩

/-! ## Reading -/

/-- Whether bytes are whole numbers below 2³². The first argument says how many digits of the
number at the front were there already. -/
def fits : Nat → List UInt8 → Bool
  | taken, [] => taken = 0
  | taken, b :: rest =>
    if b < 0x80 then (taken < 4 || b < 0x10) && fits 0 rest
    else taken < 4 && fits (taken + 1) rest

/-- Whether an identifier has three to thirty-nine bytes, a first byte that holds two numbers, and
whole numbers below 2³² behind it. -/
def isSound (id : Identifier) : Bool :=
  3 ≤ id.bytes.length && id.bytes.length ≤ 39 &&
    match id.bytes with
    | [] => false
    | first :: rest => first < 120 && fits 0 rest

/-- The numbers that bytes spell, modulo 2⁶⁴; `acc` holds the digits before. Digits at the end that
lack the last one of their number count for a number too. -/
def numbersFrom (acc : UInt64) (isOpen : Bool) : List UInt8 → List UInt64
  | [] => if isOpen then [acc] else []
  | b :: rest =>
    let acc := (acc <<< 7) + (b &&& 0x7F).toUInt64
    if b < 0x80 then acc :: numbersFrom 0 false rest else numbersFrom acc true rest

/-- The most digits that a whole number among bytes has; `taken` of the number at the front were
there already. -/
def mostDigits (taken : Nat) : List UInt8 → Nat
  | [] => 0
  | b :: rest =>
    if b < 0x80 then max (taken + 1) (mostDigits 0 rest) else mostDigits (taken + 1) rest

/-- An identifier with dots between its numbers; if one of them does not go into sixty-four bits,
its bytes in hexadecimal. A single zero byte is the number zero. -/
def text (id : Identifier) : String :=
  match id.bytes with
  | [] => ""
  | [0] => "0"
  | first :: rest =>
    if 9 < mostDigits 0 rest then
      " ".intercalate (id.bytes.map fun b => Text.hexBytes [b])
    else
      let numbers := (first / 40).toNat :: (first % 40).toNat ::
        (numbersFrom 0 false rest).map (·.toNat)
      ".".intercalate (numbers.map Nat.repr)

end Identifier

end BrokerWiring.Asn1
