import BrokerWiring.Text.Ranges
import BrokerWiring.Text.LowerCaseTable
import BrokerWiring.Text.CasingTable

/-!
# Lower case, of a character and of a text

A character is lowered on its own by `lowerChar`, which may give two characters. A whole text is
lowered character by character by `lowerEach`, and with the one rule that looks around by
`lowerText`: a capital sigma at the end of a word becomes the final form of the letter.
-/

namespace BrokerWiring.Text

/-! ## One character -/

/-- Whether the run covers code point `n`. -/
def CaseRun.covers (run : CaseRun) (n : Nat) : Bool :=
  run.first ≤ n && n ≤ run.last && (n - run.first) % run.step == 0

/-- The code point that the simple mapping gives for `n`. -/
def lowerCode (n : Nat) : Nat :=
  match risingRuns.find? (·.covers n) with
  | some run => n + run.distance
  | none =>
    match fallingRuns.find? (·.covers n) with
    | some run => n - run.distance
    | none => n

/-- The lower case of one character. Capital I with a dot above is the only one with two
characters: the letter i and the dot. -/
def lowerChar (c : Char) : List Char :=
  if c.toNat < 0x80 then
    [if 'A' ≤ c ∧ c ≤ 'Z' then Char.ofNat (c.toNat + 32) else c]
  else if c.toNat = 0x130 then ['i', Char.ofNat 0x307]
  else [Char.ofNat (lowerCode c.toNat)]

/-- The lower case of every character in turn, whatever stands around it. -/
def lowerEach (cs : List Char) : List Char := cs.flatMap lowerChar

/-! ## A whole text -/

/-- Whether the first character that is not case-ignorable is a cased one. -/
def meetsCased (cs : List Char) : Bool :=
  match cs.dropWhile (inRanges caseIgnorableRanges) with
  | [] => false
  | c :: _ => inRanges casedRanges c

/-- The lower case of `cs` behind the characters `before`, nearest first. A capital sigma is final
when a cased letter comes before it and none comes after. -/
def lowerBehind (before : List Char) : List Char → List Char
  | [] => []
  | c :: rest =>
    let image :=
      if c = 'Σ' then
        if meetsCased before && !meetsCased rest then ['ς'] else ['σ']
      else lowerChar c
    image ++ lowerBehind (c :: before) rest

/-- The lower case of a text, with the rule for a final sigma. -/
def lowerText (s : String) : String := String.ofList (lowerBehind [] s.toList)

end BrokerWiring.Text
