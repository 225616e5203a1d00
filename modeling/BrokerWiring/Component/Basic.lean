import BrokerWiring.Broker.Admin
import BrokerWiring.Listener.EndpointRegistry
import BrokerWiring.Message.Template

/-!
# Components

A component is an instance of one of the eight roles.
-/

namespace BrokerWiring

/-- An instance that fills a role. -/
inductive Component where
  | connectionFactory (c : Shared ConnectionFactory)
  | messageConverter (c : Shared MessageConverter)
  | template (c : Shared Template)
  | messagingTemplate (c : Shared MessagingTemplate)
  | admin (c : Shared Admin)
  | containerFactory (c : Shared ContainerFactory)
  | endpointProcessor (c : Shared EndpointProcessor)
  | endpointRegistry (c : Shared EndpointRegistry)

namespace Component

/-- The role that a component fills. -/
def role : Component → Role
  | connectionFactory _ => .connectionFactory
  | messageConverter _ => .messageConverter
  | template _ => .template
  | messagingTemplate _ => .messagingTemplate
  | admin _ => .admin
  | containerFactory _ => .containerFactory
  | endpointProcessor _ => .endpointProcessor
  | endpointRegistry _ => .endpointRegistry

/-- The identity of the instance. -/
def id : Component → Identity
  | connectionFactory c => c.id
  | messageConverter c => c.id
  | template c => c.id
  | messagingTemplate c => c.id
  | admin c => c.id
  | containerFactory c => c.id
  | endpointProcessor c => c.id
  | endpointRegistry c => c.id

/-! ## Instances of a role -/

/-- The connection factory, if it is one. -/
def connectionFactory? : Component → Option (Shared ConnectionFactory)
  | connectionFactory c => some c
  | _ => none

/-- The message converter, if it is one. -/
def messageConverter? : Component → Option (Shared MessageConverter)
  | messageConverter c => some c
  | _ => none

/-- The template, if it is one. -/
def template? : Component → Option (Shared Template)
  | template c => some c
  | _ => none

/-- The messaging template, if it is one. -/
def messagingTemplate? : Component → Option (Shared MessagingTemplate)
  | messagingTemplate c => some c
  | _ => none

/-- The admin, if it is one. -/
def admin? : Component → Option (Shared Admin)
  | admin c => some c
  | _ => none

/-- The container factory, if it is one. -/
def containerFactory? : Component → Option (Shared ContainerFactory)
  | containerFactory c => some c
  | _ => none

/-- The endpoint processor, if it is one. -/
def endpointProcessor? : Component → Option (Shared EndpointProcessor)
  | endpointProcessor c => some c
  | _ => none

/-- The endpoint registry, if it is one. -/
def endpointRegistry? : Component → Option (Shared EndpointRegistry)
  | endpointRegistry c => some c
  | _ => none

end Component

end BrokerWiring
