/-!
# Patterns in log filters

A filter may ask for the value of a field by a regular expression. What it would match does not
matter here, as it can only be asked for of spans; but a filter with a broken expression is broken
as a whole. `isSound` reads an expression as far as that takes: groups have to be closed, a repetition
needs something to repeat, sets of characters have to end and their ranges to go upwards, and an
escape has to mean something.

Expressions stand between braces and commas in a filter, so that none can have a closing brace:
counted repetitions are never complete. Classes of Unicode characters are not provided, nor is the
boundary of words, which rests on them.
-/

namespace BrokerWiring.Log.Pattern

/-! ## Escapes -/

/-- Whether a character is a hexadecimal digit. -/
def isHex (c : Char) : Bool :=
  c.isDigit || ('a' ≤ c && c ≤ 'f') || ('A' ≤ c && c ≤ 'F')

/-- The value of a hexadecimal digit. -/
def hexValue (c : Char) : Nat :=
  if c.isDigit then c.toNat - 48 else if 'a' ≤ c then c.toNat - 87 else c.toNat - 55

/-- The character that a given number of hexadecimal digits at the front stand for. -/
def hexChar? (count : Nat) (text : List Char) : Option (Char × List Char) :=
  let digits := text.take count
  let n := digits.foldl (fun n c => n * 16 + hexValue c) 0
  if digits.length = count ∧ digits.all isHex ∧ n.isValidChar then
    some (Char.ofNat n, text.drop count)
  else none

/-- The character that an escape without its backslash stands for: punctuation for itself, some
letters for a control character, and a number in hexadecimal. -/
def escaped? : List Char → Option (Char × List Char)
  | [] => none
  | c :: rest =>
    if c.toNat < 128 ∧ !c.isAlphanum ∧ c ≠ '<' ∧ c ≠ '>' then some (c, rest)
    else
      match c with
      | 'a' => some ('\x07', rest)
      | 'f' => some ('\x0c', rest)
      | 't' => some ('\t', rest)
      | 'n' => some ('\n', rest)
      | 'r' => some ('\r', rest)
      | 'v' => some ('\x0b', rest)
      | 'x' => hexChar? 2 rest
      | 'u' => hexChar? 4 rest
      | 'U' => hexChar? 8 rest
      | _ => none

/-! ## Sets of characters -/

/-- The character at the front of the rest of a set. -/
def member? : List Char → Option (Char × List Char)
  | [] => none
  | '\\' :: rest => escaped? rest
  | c :: rest => some (c, rest)

/-- The names of the sets that are written between colons. -/
def setNames : List String :=
  ["alnum", "alpha", "ascii", "blank", "cntrl", "digit", "graph", "lower", "print", "punct",
    "space", "upper", "word", "xdigit"]

/-- What follows a named set, given without its first bracket. -/
def passNamedSet (text : List Char) : Option (List Char) := do
  let text ← match text with
    | ':' :: '^' :: text | ':' :: text => some text
    | _ => none
  let name ← setNames.find? fun name => (name.toList ++ [':', ']']).isPrefixOf text
  return text.drop (name.length + 2)

/-- What follows the beginning of a set without its bracket: perhaps a sign that turns it round,
then hyphens, and if there are none, a bracket that would close it. -/
def passSetBeginning (text : List Char) : List Char :=
  let text := match text with
    | '^' :: text => text
    | text => text
  match text with
  | ']' :: text => text
  | text => text.dropWhile (· == '-')

/-- What follows sets of which `depth` are open. The first argument bounds the number of
members. -/
def passSets : Nat → Nat → List Char → Option (List Char)
  | _, 0, text => some text
  | 0, _, _ => none
  | fuel + 1, depth + 1, text =>
    match text with
    | ']' :: rest => passSets fuel depth rest
    | '[' :: rest =>
      match passNamedSet rest with
      | some rest => passSets fuel (depth + 1) rest
      | none => passSets fuel (depth + 2) (passSetBeginning rest)
    | '&' :: '&' :: rest | '-' :: '-' :: rest | '~' :: '~' :: rest =>
      passSets fuel (depth + 1) rest
    | _ => do
      let (low, rest) ← member? text
      match rest with
      | '-' :: ']' :: _ | '-' :: '-' :: _ => passSets fuel (depth + 1) rest
      | '-' :: rest =>
        let (high, rest) ← member? rest
        if low ≤ high then passSets fuel (depth + 1) rest else none
      | _ => passSets fuel (depth + 1) rest

/-- What follows a set, given without its first bracket. -/
def passSet (text : List Char) : Option (List Char) :=
  passSets (text.length + 1) 1 (passSetBeginning text)

/-! ## Groups -/

/-- The name at the front of a group up to its closing bracket, and what follows. -/
def passName (text : List Char) : Option (List Char) :=
  let isNamed (c : Char) : Bool := c.isAlphanum || c == '_' || c == '.' || c == '[' || c == ']'
  let name := text.takeWhile isNamed
  match name, text.drop name.length with
  | c :: _, '>' :: rest => if c.isAlpha || c == '_' then some rest else none
  | _, _ => none

/-- Whether letters set flags, each at most once, and behind a hyphen at least one. -/
def areFlags (letters : List Char) : Bool :=
  letters.all (['s', 'm', 'U', 'u', 'x', 'R', '-'].contains ·) && letters.Nodup &&
    !letters.isEmpty && letters.getLast? ≠ some '-'

/-- What follows the beginning of a group without its bracket, and whether a group was begun at all:
flags may stand alone. -/
def passGroup (text : List Char) : Option (Bool × List Char) :=
  match text with
  | '?' :: ':' :: rest => some (true, rest)
  | '?' :: 'P' :: '<' :: rest | '?' :: '<' :: rest => (passName rest).map fun rest => (true, rest)
  | '?' :: rest =>
    let letters := rest.takeWhile fun c => c != ':' && c != ')'
    if areFlags letters then
      match rest.drop letters.length with
      | ':' :: rest => some (true, rest)
      | ')' :: rest => some (false, rest)
      | _ => none
    else none
  | rest => some (true, rest)

/-! ## Expressions -/

/-- What may follow a backslash: an escaped character, or the edge of the text. -/
def passEscape : List Char → Option (List Char)
  | 'A' :: rest | 'z' :: rest => some rest
  | text => (escaped? text).map (·.2)

/-- Whether the rest of an expression is sound, with `depth` groups open; `repeatable` says whether
something stands in front of it that may be repeated. The first argument bounds the length. -/
def isSoundFrom : Nat → Nat → Bool → List Char → Bool
  | _, depth, _, [] => depth = 0
  | 0, _, _, _ => false
  | fuel + 1, depth, repeatable, c :: rest =>
    let goOn (next? : Option (List Char)) : Bool :=
      match next? with
      | some rest => isSoundFrom fuel depth true rest
      | none => false
    match c with
    | '\\' => goOn (passEscape rest)
    | '[' => goOn (passSet rest)
    | '(' =>
      match passGroup rest with
      | some (isOpen, rest) => isSoundFrom fuel (if isOpen then depth + 1 else depth) false rest
      | none => false
    | ')' => 0 < depth && isSoundFrom fuel (depth - 1) true rest
    | '|' => isSoundFrom fuel depth false rest
    | '*' | '+' | '?' => repeatable && isSoundFrom fuel depth true rest
    | '\x7b' => false
    | _ => isSoundFrom fuel depth true rest

/-- Whether a text is a regular expression. -/
def isSound (text : List Char) : Bool := isSoundFrom text.length 0 false text

/-! ## Numbers -/

/-- The digits at the front counted, and what follows them. -/
def spanDigits (text : List Char) : Nat × List Char :=
  let digits := text.takeWhile Char.isDigit
  (digits.length, text.drop digits.length)

/-- Whether nothing or an exponent is left. -/
def isExponent (text : List Char) : Bool :=
  match text with
  | [] => true
  | c :: rest =>
    let rest := match rest with
      | '+' :: rest | '-' :: rest => rest
      | rest => rest
    (c == 'e' || c == 'E') && 0 < (spanDigits rest).1 && (spanDigits rest).2.isEmpty

/-- Whether a text is a number, which is compared and not matched. A sign alone is none. -/
def isNumber (text : List Char) : Bool :=
  let text := match text with
    | '+' :: rest | '-' :: rest => rest
    | rest => rest
  let word := String.ofList (text.map Char.toLower)
  if ["inf", "infinity", "nan"].contains word then true
  else
    let (whole, rest) := spanDigits text
    match rest with
    | '.' :: rest =>
      let (parts, rest) := spanDigits rest
      0 < whole + parts && isExponent rest
    | rest => 0 < whole && isExponent rest

/-- Whether a text can stand for the value of a field. -/
def isValue (text : List Char) : Bool := isNumber text || isSound text

end BrokerWiring.Log.Pattern
