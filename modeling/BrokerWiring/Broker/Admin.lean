import BrokerWiring.Broker.Session
import BrokerWiring.Component.Shared
import BrokerWiring.Connection.Factory

/-!
# Topology

An admin declares and removes exchanges, queues and bindings, each on a channel of its own.
-/

namespace BrokerWiring

/-- Something that manages topology: the one given here, or one of the caller's own. -/
inductive Admin where
  | standard (connectionFactory : Shared ConnectionFactory)
  | custom

namespace Admin

/-- The reason that a failure gets. -/
def failedTo (action : String) (failure : ConnectionFailure) : BrokerError :=
  .channel s!"Failed to {action}: {failure.message}"

/-- Works on a channel. -/
def manage {α : Type} (broker : Broker) (work : Talk α) : Talk α :=
  Talk.onChannel broker "Admin operation complete" work

/-- Declares a durable exchange. -/
def declareExchange (broker : Broker) (name : String) : Talk Unit :=
  manage broker (Talk.ask broker (.declareExchange name) (failedTo "declare exchange"))

/-- Deletes an exchange. -/
def deleteExchange (broker : Broker) (name : String) : Talk Unit :=
  manage broker (Talk.ask broker (.deleteExchange name) (failedTo "delete exchange"))

/-- Declares a durable queue and gives the number of messages in it. -/
def declareQueue (broker : Broker) (name : String) : Talk Nat :=
  manage broker (Talk.ask broker (.declareQueue name) (failedTo "declare queue"))

/-- Deletes a queue and gives the number of messages that were in it. -/
def deleteQueue (broker : Broker) (name : String) : Talk Nat :=
  manage broker (Talk.ask broker (.deleteQueue name) (failedTo "delete queue"))

/-- Binds a queue to an exchange. -/
def bindQueue (broker : Broker) (name exchange routingKey : String) : Talk Unit :=
  manage broker (Talk.ask broker (.bindQueue name exchange routingKey) (failedTo "bind queue"))

end Admin

end BrokerWiring
