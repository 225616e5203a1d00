/-!
# White space and trimming

White space is the Unicode property `White_Space`: twenty-five characters, among them the line
separators and the no-break spaces, but neither U+180E nor the zero-width ones. Trimming drops the
longest run of it at either end and nothing else.
-/

namespace BrokerWiring.Text

/-- The property `White_Space`. -/
def isWhiteSpace (c : Char) : Bool :=
  let n := c.toNat
  (0x9 ≤ n && n ≤ 0xD) || n == 0x20 || n == 0x85 || n == 0xA0 || n == 0x1680 ||
    (0x2000 ≤ n && n ≤ 0x200A) || n == 0x2028 || n == 0x2029 || n == 0x202F || n == 0x205F ||
    n == 0x3000

/-- The characters from the first that is not white space. -/
def trimStart (cs : List Char) : List Char := cs.dropWhile isWhiteSpace

/-- The characters up to the last that is not white space. -/
def trimEnd (cs : List Char) : List Char := (cs.reverse.dropWhile isWhiteSpace).reverse

/-- A text without the white space around it. -/
def trim (s : String) : String := String.ofList (trimEnd (trimStart s.toList))

end BrokerWiring.Text
