import BrokerWiring.Text.Ranges
import BrokerWiring.Text.AlphanumericTable

/-!
# Letters and numbers

A character is alphanumeric when it is a letter or a number of any script.
-/

namespace BrokerWiring.Text

/-- Whether `c` is a letter or a number of any script. -/
def isAlphanumeric (c : Char) : Bool := inRanges alphanumericRanges c

end BrokerWiring.Text
