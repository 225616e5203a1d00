import BrokerWiring.Json.Number
import BrokerWiring.Text.Utf8
import BrokerWiring.Text.Hex

/-!
# Reading JSON text

A reader takes bytes from the front of a text and gives back the rest. `written` reads a whole text
as it is written, members in their order and duplicates kept; `read` gives its value. Arrays and
objects nest at most `depthLimit` deep. Whatever is wrong is reported with the place of the first
byte that could not be taken.
-/

namespace BrokerWiring.Json

/-- How deep arrays and objects may nest. -/
def depthLimit : Nat := 127

/-- A byte that may stand between two tokens. -/
def isBlank (b : UInt8) : Bool := b == 0x20 || b == 0x0A || b == 0x09 || b == 0x0D

/-- The bytes from the first that is not a blank. -/
def skipBlanks (bytes : List UInt8) : List UInt8 := bytes.dropWhile isBlank

/-! ## Strings -/

/-- The byte that a one-letter escape stands for. -/
def shortEscape? (b : UInt8) : Option UInt8 :=
  if b = 0x22 ∨ b = 0x5C ∨ b = 0x2F then some b
  else if b = 0x62 then some 8
  else if b = 0x66 then some 12
  else if b = 0x6E then some 10
  else if b = 0x72 then some 13
  else if b = 0x74 then some 9
  else none

/-- Four hexadecimal digits. -/
def hexUnit : List UInt8 → Except Failure (Nat × List UInt8)
  | a :: b :: c :: d :: rest =>
    match Text.hexValue? a, Text.hexValue? b, Text.hexValue? c, Text.hexValue? d with
    | some a, some b, some c, some d => .ok (((a * 16 + b) * 16 + c) * 16 + d, rest)
    | _, _, _, _ => .error ⟨.badEscape, rest.length⟩
  | _ => .error ⟨.endInString, 0⟩

/-- Whether a unit is the first of a pair of surrogates. -/
def isLeading (n : Nat) : Bool := 0xD800 ≤ n && n ≤ 0xDBFF

/-- Whether a unit is the second of a pair of surrogates. -/
def isTrailing (n : Nat) : Bool := 0xDC00 ≤ n && n ≤ 0xDFFF

/-- Takes one given byte out of an escape. -/
def escapeByte (expected : UInt8) : List UInt8 → Except Failure (List UInt8)
  | [] => .error ⟨.endInString, 0⟩
  | b :: rest => if b = expected then .ok rest else .error ⟨.endOfHexEscape, rest.length⟩

/-- The character of a hexadecimal escape behind its letter; a character above U+FFFF is a pair of
such escapes. -/
def hexEscape (bytes : List UInt8) : Except Failure (Char × List UInt8) := do
  let (first, rest) ← hexUnit bytes
  if isTrailing first then .error ⟨.loneSurrogate, rest.length⟩
  else if !isLeading first then .ok (Char.ofNat first, rest)
  else
    let rest ← escapeByte 0x5C rest
    let rest ← escapeByte 0x75 rest
    let (second, rest) ← hexUnit rest
    if isTrailing second then
      .ok (Char.ofNat ((first - 0xD800) * 1024 + (second - 0xDC00) + 0x10000), rest)
    else .error ⟨.loneSurrogate, rest.length⟩

/-- The bytes of an escape behind its backslash. -/
def escape : List UInt8 → Except Failure (List UInt8 × List UInt8)
  | [] => .error ⟨.endInString, 0⟩
  | b :: rest =>
    match shortEscape? b with
    | some image => .ok ([image], rest)
    | none =>
      if b = 0x75 then (hexEscape rest).map fun (c, rest) => (Utf8.encodeChar c, rest)
      else .error ⟨.badEscape, rest.length⟩

/-- The bytes of a string up to its closing quote, and what follows. The first argument bounds the
number of steps; every step takes at least one byte. -/
def stringBytes : Nat → List UInt8 → Except Failure (List UInt8 × List UInt8)
  | 0, _ => .error ⟨.endInString, 0⟩
  | _, [] => .error ⟨.endInString, 0⟩
  | fuel + 1, b :: rest =>
    if b = 0x22 then .ok ([], rest)
    else if b = 0x5C then do
      let (image, rest) ← escape rest
      let (tail, rest) ← stringBytes fuel rest
      .ok (image ++ tail, rest)
    else if b < 0x20 then .error ⟨.controlInString, rest.length⟩
    else do
      let (tail, rest) ← stringBytes fuel rest
      .ok (b :: tail, rest)

/-- A string behind its opening quote. What is not UTF-8 is found once the closing quote is read;
its place lies as many bytes before the end of the string as there are from the first bad byte
on. -/
def stringText (bytes : List UInt8) : Except Failure (String × List UInt8) := do
  let (content, rest) ← stringBytes bytes.length bytes
  match Utf8.decodeText content with
  | .ok s => .ok (s, rest)
  | .error fault => .error ⟨.badCodePoint, rest.length + (content.length - fault.index)⟩

/-! ## Arrays and objects -/

/-- The letters of a word behind its first one. -/
def word : List UInt8 → List UInt8 → Except Failure (List UInt8)
  | [], rest => .ok rest
  | _ :: _, [] => .error ⟨.endInValue, 0⟩
  | expected :: letters, b :: rest =>
    if b = expected then word letters rest else .error ⟨.identExpected, rest.length⟩

/-- What follows an item of an array: the closing bracket, or a comma and the next item. -/
def itemsBehind (item : List UInt8 → Except Failure (Json × List UInt8)) :
    Nat → List UInt8 → Except Failure (List Json × List UInt8)
  | 0, _ => .error ⟨.endInList, 0⟩
  | fuel + 1, bytes =>
    match skipBlanks bytes with
    | [] => .error ⟨.endInList, 0⟩
    | b :: rest =>
      if b = 0x5D then .ok ([], rest)
      else if b = 0x2C then
        match skipBlanks rest with
        | [] => .error ⟨.endInValue, 0⟩
        | c :: behind =>
          if c = 0x5D then .error ⟨.trailingComma, behind.length⟩
          else do
            let (first, rest) ← item (c :: behind)
            let (others, rest) ← itemsBehind item fuel rest
            .ok (first :: others, rest)
      else .error ⟨.listCommaExpected, rest.length⟩

/-- An array behind its opening bracket. -/
def items (item : List UInt8 → Except Failure (Json × List UInt8)) (bytes : List UInt8) :
    Except Failure (List Json × List UInt8) :=
  match skipBlanks bytes with
  | [] => .error ⟨.endInList, 0⟩
  | b :: rest =>
    if b = 0x5D then .ok ([], rest)
    else do
      let (first, rest) ← item (b :: rest)
      let (others, rest) ← itemsBehind item (rest.length + 1) rest
      .ok (first :: others, rest)

/-- A member behind the opening quote of its name. -/
def member (item : List UInt8 → Except Failure (Json × List UInt8)) (bytes : List UInt8) :
    Except Failure ((String × Json) × List UInt8) := do
  let (name, rest) ← stringText bytes
  match skipBlanks rest with
  | [] => .error ⟨.endInObject, 0⟩
  | b :: rest =>
    if b = 0x3A then do
      let (child, rest) ← item rest
      .ok ((name, child), rest)
    else .error ⟨.colonExpected, rest.length⟩

/-- What follows a member of an object: the closing brace, or a comma and the next member. -/
def membersBehind (item : List UInt8 → Except Failure (Json × List UInt8)) :
    Nat → List UInt8 → Except Failure (List (String × Json) × List UInt8)
  | 0, _ => .error ⟨.endInObject, 0⟩
  | fuel + 1, bytes =>
    match skipBlanks bytes with
    | [] => .error ⟨.endInObject, 0⟩
    | b :: rest =>
      if b = 0x7D then .ok ([], rest)
      else if b = 0x2C then
        match skipBlanks rest with
        | [] => .error ⟨.endInValue, 0⟩
        | c :: behind =>
          if c = 0x22 then do
            let (first, rest) ← member item behind
            let (others, rest) ← membersBehind item fuel rest
            .ok (first :: others, rest)
          else if c = 0x7D then .error ⟨.trailingComma, behind.length⟩
          else .error ⟨.keyNotString, behind.length⟩
      else .error ⟨.objectCommaExpected, rest.length⟩

/-- An object behind its opening brace. -/
def members (item : List UInt8 → Except Failure (Json × List UInt8)) (bytes : List UInt8) :
    Except Failure (List (String × Json) × List UInt8) :=
  match skipBlanks bytes with
  | [] => .error ⟨.endInObject, 0⟩
  | b :: rest =>
    if b = 0x7D then .ok ([], rest)
    else if b = 0x22 then do
      let (first, rest) ← member item rest
      let (others, rest) ← membersBehind item (rest.length + 1) rest
      .ok (first :: others, rest)
    else .error ⟨.keyNotString, rest.length⟩

/-! ## Values -/

/-- A value that neither an array nor an object is, told by its first byte. -/
def scalar (b : UInt8) (rest : List UInt8) : Except Failure (Json × List UInt8) :=
  if b = 0x6E then (word [0x75, 0x6C, 0x6C] rest).map (.null, ·)
  else if b = 0x74 then (word [0x72, 0x75, 0x65] rest).map (.bool true, ·)
  else if b = 0x66 then (word [0x61, 0x6C, 0x73, 0x65] rest).map (.bool false, ·)
  else if b = 0x2D then (numberBehindSign true rest).map fun (n, rest) => (.number n, rest)
  else if (digit? b).isSome then
    (numberBehindSign false (b :: rest)).map fun (n, rest) => (.number n, rest)
  else if b = 0x22 then (stringText rest).map fun (s, rest) => (.string s, rest)
  else .error ⟨.valueExpected, rest.length⟩

/-- A value in which arrays and objects nest at most as deep as the first argument says. -/
def valueWithin : Nat → List UInt8 → Except Failure (Json × List UInt8)
  | depth, bytes =>
    match skipBlanks bytes with
    | [] => .error ⟨.endInValue, 0⟩
    | b :: rest =>
      if b = 0x5B ∨ b = 0x7B then
        match depth with
        | 0 => .error ⟨.nestedTooDeep, rest.length⟩
        | depth + 1 =>
          if b = 0x5B then
            (items (valueWithin depth) rest).map fun (found, rest) => (.array found, rest)
          else (members (valueWithin depth) rest).map fun (found, rest) => (.object found, rest)
      else scalar b rest

/-- A whole text as it is written: one value with nothing but blanks around it. -/
def written (bytes : List UInt8) : Except Fault Json :=
  let result : Except Failure Json := do
    let (json, rest) ← valueWithin depthLimit bytes
    match skipBlanks rest with
    | [] => .ok json
    | _ :: behind => .error ⟨.trailingCharacters, behind.length⟩
  result.mapError fun failure => .behind failure.flaw bytes (bytes.length - failure.left)

/-- The value of a whole text. -/
def read (bytes : List UInt8) : Except Fault Json := (written bytes).map value

end BrokerWiring.Json
