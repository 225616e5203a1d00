import BrokerWiring.Json.Basic
import BrokerWiring.Number.Shortest
import BrokerWiring.Text.Hex

/-!
# JSON text of a value

Compact text: no blanks, members in the order of the tree. Strings escape the quote, the backslash
and the controls below U+0020, these with their short form where there is one; everything else
stands as it is. Floating-point numbers have the fewest digits that read back.
-/

namespace BrokerWiring.Json

/-! ## Numbers -/

/-- How the digits of a floating-point number are laid out. -/
structure RealLayout where
  /-- The least power of ten of the first digit that is written without an exponent. -/
  leastPositional : Int
  /-- The first power of ten that is written with an exponent again. -/
  firstScientific : Int

/-- Numbers from `0.00001` up to sixteen integer digits are written out; the others have an
exponent, which always carries its sign. -/
def realLayout : RealLayout := ⟨-5, 16⟩

/-- The characters of decimal digits. -/
def digitChars (digits : List Nat) : List Char := digits.map fun d => Char.ofNat (48 + d)

/-- Digits written out, with at least one digit on either side of the point. -/
def positional (digits : List Nat) (exponent : Int) : List Char :=
  if exponent < 0 then
    '0' :: '.' :: digitChars (List.replicate (exponent.natAbs - 1) 0 ++ digits)
  else
    let count := exponent.natAbs + 1
    let whole := digits.take count ++ List.replicate (count - digits.length) 0
    let rest := digits.drop count
    digitChars whole ++ '.' :: digitChars (if rest.isEmpty then [0] else rest)

/-- Digits with an exponent behind them. -/
def scientific (digits : List Nat) (exponent : Int) : List Char :=
  let mantissa :=
    match digitChars digits with
    | [] => ['0']
    | [d] => [d]
    | d :: rest => d :: '.' :: rest
  mantissa ++ 'e' :: (if exponent < 0 then '-' else '+') ::
    (Nat.repr exponent.natAbs).toList

/-- The characters of a floating-point number. -/
def realChars (x : Number.Binary64) : List Char :=
  let shortest := x.shortest
  let digits := if shortest.digits.isEmpty then [0] else shortest.digits
  let body :=
    if realLayout.leastPositional ≤ shortest.exponent ∧
        shortest.exponent < realLayout.firstScientific then
      positional digits shortest.exponent
    else scientific digits shortest.exponent
  if x.negative then '-' :: body else body

/-- The characters of a number. -/
def Number.chars : Number → List Char
  | .natural n => (Nat.repr n).toList
  | .negative n => '-' :: (Nat.repr n).toList
  | .real x => realChars x

/-- The text of a number. -/
def Number.text (n : Number) : String := String.ofList n.chars

/-! ## Strings -/

/-- One character inside a string. -/
def escaped (c : Char) : List Char :=
  if c = '"' ∨ c = '\\' then ['\\', c]
  else if 0x20 ≤ c.toNat then [c]
  else if c = '\n' then ['\\', 'n']
  else if c = '\t' then ['\\', 't']
  else if c = '\r' then ['\\', 'r']
  else if c.toNat = 8 then ['\\', 'b']
  else if c.toNat = 12 then ['\\', 'f']
  else '\\' :: 'u' :: Text.hexPadded c.toNat 4

/-- A string between its quotes. -/
def stringChars (s : String) : List Char := '"' :: s.toList.flatMap escaped ++ ['"']

/-! ## Trees -/

mutual

/-- The characters of a tree. -/
def chars : Json → List Char
  | .null => ['n', 'u', 'l', 'l']
  | .bool true => ['t', 'r', 'u', 'e']
  | .bool false => ['f', 'a', 'l', 's', 'e']
  | .number n => n.chars
  | .string s => stringChars s
  | .array [] => ['[', ']']
  | .array (item :: rest) => '[' :: item.chars ++ itemsChars rest
  | .object [] => ['\x7b', '\x7d']
  | .object ((name, item) :: rest) =>
    '\x7b' :: stringChars name ++ ':' :: item.chars ++ membersChars rest

/-- The items behind the first one and the closing bracket. -/
def itemsChars : List Json → List Char
  | [] => [']']
  | item :: rest => ',' :: item.chars ++ itemsChars rest

/-- The members behind the first one and the closing brace. -/
def membersChars : List (String × Json) → List Char
  | [] => ['\x7d']
  | (name, item) :: rest => ',' :: stringChars name ++ ':' :: item.chars ++ membersChars rest

end

/-- The text of a tree. -/
def text (json : Json) : String := String.ofList json.chars

end BrokerWiring.Json
