import BrokerWiring.Text.Diagnostic
import BrokerWiring.Text.Hex

/-!
# Listener endpoints

An endpoint is a consumer that an application declares: an id and the queues that it listens to.
Who gives no id gets a generated one.
-/

namespace BrokerWiring

/-- An id and the queues to listen to. -/
structure Endpoint where
  id : String
  queues : List String
  deriving Repr, DecidableEq, Inhabited

namespace Endpoint

/-- What generated ids start with. -/
def generatedLead : List Char := "endpoint-".toList

/-- The id that is generated from a random number: eight hexadecimal digits of it. -/
def generatedId (random : Nat) : String := String.ofList (generatedLead ++ Text.hexPadded random 8)

/-- An endpoint without an id of its own. -/
def anonymous (random : Nat) (queues : List String) : Endpoint := ⟨generatedId random, queues⟩

/-- The endpoint under another id. -/
def withId (endpoint : Endpoint) (id : String) : Endpoint := { endpoint with id }

/-- Whether an id has the form of a generated one. -/
def isGeneratedId (id : String) : Bool :=
  let digits := id.toList.drop generatedLead.length
  generatedLead.isPrefixOf id.toList && digits.length == 8 &&
    digits.all fun c => ('0' ≤ c ∧ c ≤ '9') ∨ ('a' ≤ c ∧ c ≤ 'f')

/-- An endpoint in diagnostics. -/
def diagnostic (endpoint : Endpoint) : String :=
  Text.record "ListenerEndpoint"
    [("id", Text.quoted endpoint.id), ("queues", Text.quotedList endpoint.queues)]

end Endpoint

end BrokerWiring
