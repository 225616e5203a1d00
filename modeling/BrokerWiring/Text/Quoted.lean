import BrokerWiring.Text.Ranges
import BrokerWiring.Text.GraphicTable
import BrokerWiring.Text.Hex

/-!
# Quoted text

The form in which diagnostics show a text: between double quotes, with a backslash before a quote
or a backslash, the short forms for NUL, tab, line feed and carriage return, and the code point in
braces for whatever has no shape of its own.
-/

namespace BrokerWiring.Text

/-- Whether a character can be shown as it is. -/
def isGraphic (c : Char) : Bool :=
  if c.toNat < 0x7F then 0x20 ≤ c.toNat
  else !inRanges graphemeExtendRanges c && !inRanges shapelessRanges c

/-- One character inside the quotes. -/
def quotedChar (c : Char) : List Char :=
  if c = '"' ∨ c = '\\' then ['\\', c]
  else if c = '\t' then ['\\', 't']
  else if c = '\n' then ['\\', 'n']
  else if c = '\r' then ['\\', 'r']
  else if c.toNat = 0 then ['\\', '0']
  else if isGraphic c then [c]
  else ['\\', 'u', '\x7b'] ++ hexNumber c.toNat ++ ['\x7d']

/-- The text between double quotes. -/
def quoted (s : String) : String :=
  String.ofList ('"' :: s.toList.flatMap quotedChar ++ ['"'])

/-- A list of quoted texts between brackets. -/
def quotedList (items : List String) : String :=
  "[" ++ ", ".intercalate (items.map quoted) ++ "]"

/-- An optional item as diagnostics write it. -/
def optional (item? : Option String) : String :=
  match item? with
  | none => "None"
  | some item => "Some(" ++ item ++ ")"

end BrokerWiring.Text
