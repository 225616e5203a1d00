import BrokerWiring.Text.LowerCase
import BrokerWiring.Text.WhiteSpace

/-!
# How deliveries are acknowledged

The three modes of a listener container, and the words for them. A word is read without the white
space around it and in any letter case.
-/

namespace BrokerWiring

/-- How a listener container acknowledges deliveries. -/
inductive AcknowledgeMode where
  /-- The broker counts a delivery as acknowledged as soon as it is sent. -/
  | none
  /-- The container acknowledges once the handler returns. -/
  | auto
  /-- The handler acknowledges. -/
  | manual
  deriving Repr, DecidableEq, Inhabited

namespace AcknowledgeMode

/-- The word for a mode. -/
def word : AcknowledgeMode → String
  | .none => "none"
  | .auto => "auto"
  | .manual => "manual"

/-- The name of a mode in diagnostics. -/
def label : AcknowledgeMode → String
  | .none => "None"
  | .auto => "Auto"
  | .manual => "Manual"

/-- The mode for a word, or why there is none. -/
def ofWord (text : String) : Except String AcknowledgeMode :=
  let word := Text.lowerText (Text.trim text)
  if word = "none" then .ok .none
  else if word = "auto" then .ok .auto
  else if word = "manual" then .ok .manual
  else .error s!"unknown acknowledge mode '{word}', expected none|auto|manual"

end AcknowledgeMode

end BrokerWiring
