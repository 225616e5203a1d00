import BrokerWiring.Text.WhiteSpace

/-!
# Property entries

An entry is `key=value` or `key:value`, split at whichever separator comes first. The key loses the
white space around it and must not be empty; the value is everything behind the separator.
-/

namespace BrokerWiring.Property

/-- The two characters that end the key of an entry. -/
def isSeparator (c : Char) : Bool := c == ':' || c == '='

/-- The key and the value of an entry. -/
def parseEntry (entry : String) : Option (String × String) :=
  match entry.toList.dropWhile (!isSeparator ·) with
  | [] => none
  | _ :: value =>
    let key := Text.trim (String.ofList (entry.toList.takeWhile (!isSeparator ·)))
    if key.isEmpty then none else some (key, String.ofList value)

end BrokerWiring.Property
