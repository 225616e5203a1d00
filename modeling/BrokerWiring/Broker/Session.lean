import BrokerWiring.Broker.Error
import BrokerWiring.Message.Converter
import BrokerWiring.Settings.AcknowledgeMode

/-!
# Sessions with a broker

What components ask of a broker, and what it makes of that. A broker is any function that answers
a request in view of the requests before it; a session is the list of these. So a statement about
all brokers covers every way in which requests may fail, and the number of times that a connection
was asked for can be read off the session.
-/

namespace BrokerWiring

/-! ## Requests -/

/-- What a broker says about a message that it was sent. -/
inductive Confirmation where
  | accepted
  | rejected
  /-- The channel does not confirm. -/
  | notRequested
  deriving Repr, DecidableEq

/-- What is asked of a broker. -/
inductive Request where
  /-- A connection, open already or to be opened. -/
  | connect
  /-- A channel on the open connection. -/
  | openChannel
  | closeChannel (reason : String)
  /-- That messages on the channel be confirmed. -/
  | confirm
  | publish (exchange routingKey : String) (message : Message)
  | declareExchange (name : String)
  | deleteExchange (name : String)
  | declareQueue (name : String)
  | deleteQueue (name : String)
  | bindQueue (name exchange routingKey : String)
  /-- A limit on the deliveries that a channel may have under way. -/
  | limitPrefetch (count : UInt16)
  | subscribe (queue : String) (mode : AcknowledgeMode)
  deriving Repr, DecidableEq

/-- What the answer to a request holds: a confirmation for a message, the number of messages for a
queue that is declared or deleted, nothing for the rest. -/
abbrev Request.Reply : Request → Type
  | .publish .. => Confirmation
  | .declareQueue _ | .deleteQueue _ => Nat
  | _ => Unit

/-- How a request fails. A connection factory says why there is no connection; everything else
fails as the connection does. -/
abbrev Request.Failure : Request → Type
  | .connect => BrokerError
  | _ => ConnectionFailure

/-! ## Brokers and sessions -/

/-- How requests are answered, in view of what was asked before. -/
abbrev Broker := List Request → (request : Request) → Except request.Failure request.Reply

/-- A broker to which no connection comes about. -/
def Broker.unreachable (error : BrokerError) : Broker := fun _ request =>
  match request with
  | .connect => .error error
  | .openChannel | .closeChannel _ | .confirm | .publish .. | .declareExchange _
  | .deleteExchange _ | .declareQueue _ | .deleteQueue _ | .bindQueue .. | .limitPrefetch _
  | .subscribe .. => .error (.connectionState "Closed")

/-- What was asked so far, last request first. -/
structure Session where
  asked : List Request
  deriving Repr, DecidableEq

namespace Session

/-- The session in which nothing was asked. -/
def start : Session := ⟨[]⟩

/-- How often a connection was asked for. -/
def connects (session : Session) : Nat := session.asked.count .connect

end Session

/-! ## Conversations -/

/-- A part of a session: it may fail, and what was asked stays asked. -/
abbrev Talk := ExceptT BrokerError (StateM Session)

namespace Talk

/-- What a part of a session comes to, and the session behind it. -/
def outcome {α : Type} (talk : Talk α) (session : Session) : Except BrokerError α × Session :=
  talk.run.run session

/-- Asks, and files a failure. -/
def ask (broker : Broker) (request : Request) (file : request.Failure → BrokerError) :
    Talk request.Reply := do
  let session ← get
  set (Session.mk (request :: session.asked))
  match broker session.asked request with
  | .ok reply => return reply
  | .error failure => throw (file failure)

/-- Asks for a connection. -/
def connect (broker : Broker) : Talk Unit := ask broker .connect id

/-- Asks for a channel. -/
def openChannel (broker : Broker) : Talk Unit :=
  ask broker .openChannel fun failure => .channel failure.message

/-- Gives a channel back. That it cannot be closed counts for nothing. -/
def closeChannel (broker : Broker) (reason : String) : Talk Unit :=
  tryCatch (ask broker (.closeChannel reason) .ofFailure) fun _ => return ()

/-- Works on a channel of its own, which is given back whatever the work comes to. -/
def onChannel {α : Type} (broker : Broker) (reason : String) (work : Talk α) : Talk α := do
  connect broker
  openChannel broker
  let result ← tryCatch (Except.ok <$> work) fun error => return .error error
  closeChannel broker reason
  match result with
  | .ok a => return a
  | .error error => throw error

end Talk

end BrokerWiring
