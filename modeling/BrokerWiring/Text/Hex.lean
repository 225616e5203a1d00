/-!
# Hexadecimal digits

Numbers and bytes in lower-case hexadecimal, and the value of a digit of either case.
-/

namespace BrokerWiring.Text

/-- The lower-case digit for `n`, taken modulo sixteen. -/
def hexDigit (n : Nat) : Char :=
  let d := n % 16
  if d < 10 then Char.ofNat (48 + d) else Char.ofNat (87 + d)

/-- The number `n` in hexadecimal without leading zeros. -/
def hexNumber (n : Nat) : List Char :=
  if n < 16 then [hexDigit n] else hexNumber (n / 16) ++ [hexDigit n]
termination_by n
decreasing_by omega

/-- Exactly `width` digits: the lowest ones of `n`. -/
def hexPadded (n : Nat) : Nat → List Char
  | 0 => []
  | width + 1 => hexPadded (n / 16) width ++ [hexDigit n]

/-- Two digits for each byte. -/
def hexBytes (bytes : List UInt8) : String :=
  String.ofList (bytes.flatMap fun b => hexPadded b.toNat 2)

/-- The value of a hexadecimal digit of either case, given by its byte. -/
def hexValue? (b : UInt8) : Option Nat :=
  if 48 ≤ b ∧ b ≤ 57 then some (b.toNat - 48)
  else if 97 ≤ b ∧ b ≤ 102 then some (b.toNat - 87)
  else if 65 ≤ b ∧ b ≤ 70 then some (b.toNat - 55)
  else none

/-- The bytes that pairs of digits spell, up to the first pair that is none. -/
def ofHex : List Char → List UInt8
  | a :: b :: rest =>
    match hexValue? a.toNat.toUInt8, hexValue? b.toNat.toUInt8 with
    | some a, some b => (a * 16 + b).toUInt8 :: ofHex rest
    | _, _ => []
  | _ => []

end BrokerWiring.Text
