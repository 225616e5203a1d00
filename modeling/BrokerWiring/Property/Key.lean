import BrokerWiring.Text.LowerCase

/-!
# Property keys

A key is a text of segments with dots between them. Two spellings name the same property when they
agree in relaxed form: hyphens and underscores do not count and neither does the case of a letter.
`canonicalKey` is that form. It works character by character, so it turns a concatenation into a
concatenation and keeps every dot where it is.
-/

namespace BrokerWiring.Property

/-- What a character of a key counts for: nothing for a hyphen or an underscore. -/
def relaxedChar (c : Char) : List Char :=
  if c = '-' ∨ c = '_' then [] else Text.lowerChar c

/-- The relaxed form of the characters of a key. -/
def relaxed (cs : List Char) : List Char := cs.flatMap relaxedChar

theorem relaxed_append (a b : List Char) : relaxed (a ++ b) = relaxed a ++ relaxed b := by
  simp [relaxed]

/-- The relaxed form of a key. -/
def canonicalKey (key : String) : String := String.ofList (relaxed key.toList)

/-- The characters behind the first `n` dots, or behind the last one if there are fewer. -/
def behindDots : Nat → List Char → List Char
  | 0, cs => cs
  | n + 1, cs =>
    match cs.dropWhile (· != '.') with
    | [] => cs
    | _ :: rest => behindDots n rest

/-- A key below another one, or on its own at the root. -/
def joinKey (parent key : String) : String :=
  if parent.isEmpty then key else parent ++ "." ++ key

end BrokerWiring.Property
