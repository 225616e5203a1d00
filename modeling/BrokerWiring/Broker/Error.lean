import BrokerWiring.Json.Fault
import BrokerWiring.Text.LowerCase
import BrokerWiring.Text.Search

/-!
# Errors of a broker client

What can go wrong once components are in use. Some errors arise here, from a payload that cannot be
converted or a message that the broker turns down. The others come from the connection below, which
reports a failure in words alone; `BrokerError.ofFailure` files it by the first of a few words that
it mentions.
-/

namespace BrokerWiring

/-! ## Failures of a connection -/

/-- A condition under which a broker closes a channel (soft) or the connection (hard). -/
structure Condition where
  soft : Bool
  name : String
  deriving Repr, DecidableEq

/-- The condition of a reply code. -/
def Condition.ofCode? : Nat → Option Condition
  | 311 => some ⟨true, "CONTENT-TOO-LARGE"⟩
  | 312 => some ⟨true, "NO-ROUTE"⟩
  | 313 => some ⟨true, "NO-CONSUMERS"⟩
  | 403 => some ⟨true, "ACCESS-REFUSED"⟩
  | 404 => some ⟨true, "NOT-FOUND"⟩
  | 405 => some ⟨true, "RESOURCE-LOCKED"⟩
  | 406 => some ⟨true, "PRECONDITION-FAILED"⟩
  | 320 => some ⟨false, "CONNECTION-FORCED"⟩
  | 402 => some ⟨false, "INVALID-PATH"⟩
  | 501 => some ⟨false, "FRAME-ERROR"⟩
  | 502 => some ⟨false, "SYNTAX-ERROR"⟩
  | 503 => some ⟨false, "COMMAND-INVALID"⟩
  | 504 => some ⟨false, "CHANNEL-ERROR"⟩
  | 505 => some ⟨false, "UNEXPECTED-FRAME"⟩
  | 506 => some ⟨false, "RESOURCE-ERROR"⟩
  | 530 => some ⟨false, "NOT-ALLOWED"⟩
  | 540 => some ⟨false, "NOT-IMPLEMENTED"⟩
  | 541 => some ⟨false, "INTERNAL-ERROR"⟩
  | _ => none

/-- What a connection to a broker fails with. -/
inductive ConnectionFailure where
  /-- The broker closes, with a text of its own. -/
  | closedBy (condition : Condition) (text : String)
  | inputOutput (reason : String)
  | channelsExhausted
  | invalidChannel (number : Nat)
  | heartbeatMissed
  /-- A channel is not in the state that an operation needs. -/
  | channelState (state : String)
  /-- The connection is not in the state that an operation needs. -/
  | connectionState (state : String)
  deriving Repr, DecidableEq

/-- The wording of a failure. -/
def ConnectionFailure.message : ConnectionFailure → String
  | .closedBy condition text =>
    let severity := if condition.soft then "soft" else "hard"
    s!"protocol error: AMQP {severity} error: {condition.name}: {text}"
  | .inputOutput reason => s!"IO error: {reason}"
  | .channelsExhausted =>
    "the maximum number of channels for this connection has been reached"
  | .invalidChannel number => s!"invalid channel: {number}"
  | .heartbeatMissed => "no heartbeat received from server for too long"
  | .channelState state => s!"invalid channel state: {state}"
  | .connectionState state => s!"invalid connection state: {state}"

/-! ## Errors -/

/-- Why an operation of a broker client fails. -/
inductive BrokerError where
  | connection (reason : String)
  | channel (reason : String)
  /-- A body that should be JSON is not. -/
  | malformedJson (fault : Json.Fault)
  /-- A payload has no message or a message no payload. -/
  | conversion (reason : String)
  | publish (reason : String)
  | consume (reason : String)
  | acknowledge (reason : String)
  | timedOut (reason : String)
  | unknown (reason : String)
  deriving Repr, DecidableEq

namespace BrokerError

/-- The wording of an error. -/
def message : BrokerError → String
  | .connection reason => s!"RabbitMQ connection error: {reason}"
  | .channel reason => s!"RabbitMQ channel error: {reason}"
  | .malformedJson fault => s!"Message serialization error: {fault.message}"
  | .conversion reason => s!"Message conversion error: {reason}"
  | .publish reason => s!"RabbitMQ publish error: {reason}"
  | .consume reason => s!"RabbitMQ consume error: {reason}"
  | .acknowledge reason => s!"RabbitMQ acknowledge error: {reason}"
  | .timedOut reason => s!"Connection timeout: {reason}"
  | .unknown reason => s!"Unknown error: {reason}"

/-- The words that decide where a failure is filed, the first one that is mentioned counting. -/
def filing : List (String × (String → BrokerError)) :=
  [("connection", .connection), ("io error", .connection), ("channel", .channel),
    ("publish", .publish), ("consume", .consume), ("ack", .acknowledge)]

/-- Files a failure that is given in words, whatever their letter case. -/
def ofText (text : String) : BrokerError :=
  let lowered := Text.lowerText text
  match filing.find? fun rule => Text.mentions lowered rule.1 with
  | some (_, form) => form text
  | none => .unknown text

/-- The error that a failure of the connection amounts to. -/
def ofFailure (failure : ConnectionFailure) : BrokerError := ofText failure.message

/-- The error of a connection that did not come about in time. -/
def elapsed : BrokerError := .timedOut "Connection timed out"

end BrokerError

end BrokerWiring
