import BrokerWiring.Broker.Session
import BrokerWiring.Component.Shared
import BrokerWiring.Connection.Factory

/-!
# Templates

A template publishes payloads: its converter makes the message, its connection factory provides the
connection, and the broker has to confirm. A messaging template sends to destinations, which are
routing keys of the template below it.
-/

namespace BrokerWiring

/-- What a confirmation says about a message for an exchange and a routing key. -/
def Confirmation.check (exchange routingKey : String) : Confirmation → Except BrokerError Unit
  | .accepted => .ok ()
  | .rejected =>
    .error (.publish
      s!"Broker rejected message for exchange '{exchange}' with routing key '{routingKey}'")
  | .notRequested => .error (.publish "Publisher confirms are not enabled on the channel")

/-- Publishes payloads to an exchange. -/
structure Template where
  connectionFactory : Shared ConnectionFactory
  converter : Shared MessageConverter
  exchange : String := ""
  routingKey : String := ""

namespace Template

/-- Publishes a message on an open channel and waits for the broker to confirm it. -/
def publish (broker : Broker) (exchange routingKey : String) (message : Message) : Talk Unit := do
  Talk.ask broker .confirm fun failure =>
    .channel ("Failed to enable publisher confirms: " ++ failure.message)
  let confirmation ← Talk.ask broker (.publish exchange routingKey message) fun failure =>
    .publish failure.message
  confirmation.check exchange routingKey

/-- Publishes a message. -/
def send (broker : Broker) (exchange routingKey : String) (message : Message) : Talk Unit :=
  Talk.onChannel broker "Publish complete" (publish broker exchange routingKey message)

/-- Sends a payload to the exchange of the template. -/
def convertAndSend (template : Template) (broker : Broker) (routingKey : String)
    (payload : Json) : Talk Unit := do
  let message ← template.converter.value.toMessage payload
  send broker template.exchange routingKey message

/-- Sends a payload to the exchange and with the routing key of the template. -/
def convertAndSendDefault (template : Template) (broker : Broker) (payload : Json) : Talk Unit :=
  template.convertAndSend broker template.routingKey payload

end Template

/-- Sends payloads to destinations. -/
structure MessagingTemplate where
  template : Shared Template
  defaultDestination? : Option String := none

/-- Sends a payload to a destination, or to the default one if none is given. -/
def MessagingTemplate.convertAndSend (messaging : MessagingTemplate) (broker : Broker)
    (destination? : Option String) (payload : Json) : Talk Unit :=
  match destination?.or messaging.defaultDestination? with
  | none => throw (.publish "No destination specified")
  | some destination => messaging.template.value.convertAndSend broker destination payload

end BrokerWiring
