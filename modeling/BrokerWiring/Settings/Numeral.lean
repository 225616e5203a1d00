/-!
# Numerals of settings

An unsigned number is written as an optional plus sign and one or more decimal digits. A digit that
makes the number exceed its bound is reported before any fault behind it.
-/

namespace BrokerWiring.Settings

/-- Why a text is not the numeral of a bounded number. -/
inductive NumeralFault where
  | empty
  | notADigit
  | tooLarge
  deriving Repr, DecidableEq

/-- The wording of a fault. -/
def NumeralFault.message : NumeralFault → String
  | .empty => "cannot parse integer from empty string"
  | .notADigit => "invalid digit found in string"
  | .tooLarge => "number too large to fit in target type"

/-- The digits of a numeral behind those that make up `value`. -/
def digitsWithin (bound value : Nat) : List Char → Except NumeralFault Nat
  | [] => .ok value
  | c :: rest =>
    if '0' ≤ c ∧ c ≤ '9' then
      let value := value * 10 + (c.toNat - 48)
      if bound < value then .error .tooLarge else digitsWithin bound value rest
    else .error .notADigit

/-- The number that a text writes, if it is at most `bound`. A sign needs a digit behind it. -/
def numeralWithin (bound : Nat) : List Char → Except NumeralFault Nat
  | [] => .error .empty
  | ['+'] => .error .notADigit
  | '+' :: rest => digitsWithin bound 0 rest
  | cs => digitsWithin bound 0 cs

end BrokerWiring.Settings
