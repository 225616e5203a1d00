import BrokerWiring.Broker.Error
import BrokerWiring.Json.Reader
import BrokerWiring.Json.Printer

/-!
# Messages and their converters

A message is a body of bytes with a content type. A converter turns a payload, which is a JSON
value, into a message and a message back into a payload. Two of them are given: `text` takes
strings alone and sends them as UTF-8, `json` takes everything. Neither looks at the content type
of what it receives.
-/

namespace BrokerWiring

/-- A body and what it is. -/
structure Message where
  body : List UInt8
  contentType : String
  deriving Repr, DecidableEq

/-- Both ways between payloads and messages. -/
structure MessageConverter where
  toMessage : Json → Except BrokerError Message
  ofMessage : Message → Except BrokerError Json

namespace MessageConverter

/-- The content type of a text. -/
def plainText : String := "text/plain"

/-- The content type of a JSON document. -/
def jsonDocument : String := "application/json"

/-- The message of a string; nothing else is a text. -/
def textMessage : Json → Except BrokerError Message
  | .string s => .ok ⟨Utf8.encodeText s, plainText⟩
  | other =>
    let found := other.text
    .error (.conversion s!"SimpleMessageConverter only handles strings, got {found}")

/-- The string that a body spells. -/
def textPayload (message : Message) : Except BrokerError Json :=
  match Utf8.decodeText message.body with
  | .ok s => .ok (.string s)
  | .error fault => .error (.conversion fault.message)

/-- Strings as they are. -/
def text : MessageConverter := ⟨textMessage, textPayload⟩

/-- The value that a body holds as JSON text. -/
def jsonPayload (message : Message) : Except BrokerError Json :=
  (Json.read message.body).mapError .malformedJson

/-- Every payload as JSON text. -/
def json : MessageConverter :=
  ⟨fun payload => .ok ⟨Utf8.encodeText payload.text, jsonDocument⟩, jsonPayload⟩

end MessageConverter

end BrokerWiring
