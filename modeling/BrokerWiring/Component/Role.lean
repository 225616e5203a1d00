/-!
# Roles of components

The fixed set of roles that a wiring can fill, in the order in which it fills them: what a
component depends on comes before it. Each role has the name under which its standard component is
registered and a name for people.
-/

namespace BrokerWiring

/-- What a component is for. -/
inductive Role where
  | connectionFactory
  | messageConverter
  | template
  | messagingTemplate
  | admin
  | containerFactory
  | endpointProcessor
  | endpointRegistry
  deriving Repr, DecidableEq, Inhabited

namespace Role

/-- All roles; dependencies come before their dependents. -/
def order : List Role :=
  [.connectionFactory, .messageConverter, .template, .messagingTemplate, .admin,
    .containerFactory, .endpointProcessor, .endpointRegistry]

/-- The name under which the standard component of a role is registered. -/
def conventionalName : Role → String
  | .connectionFactory => "rabbit_connection_factory"
  | .messageConverter => "rabbit_message_converter"
  | .template => "rabbit_template"
  | .messagingTemplate => "rabbit_messaging_template"
  | .admin => "amqp_admin"
  | .containerFactory => "rabbit_listener_container_factory"
  | .endpointProcessor => "rabbit_listener_annotation_processor"
  | .endpointRegistry => "rabbit_listener_endpoint_registry"

/-- The role with a conventional name. -/
def ofConventionalName? (name : String) : Option Role := order.find? (·.conventionalName == name)

/-- The name of a role in messages. -/
def title : Role → String
  | .connectionFactory => "connection factory"
  | .messageConverter => "message converter"
  | .template => "rabbit template"
  | .messagingTemplate => "messaging template"
  | .admin => "amqp admin"
  | .containerFactory => "listener container factory"
  | .endpointProcessor => "listener annotation processor"
  | .endpointRegistry => "listener endpoint registry"

/-- Whether a role is there for listeners alone. -/
def servesListeners : Role → Bool
  | .containerFactory | .endpointProcessor | .endpointRegistry => true
  | _ => false

/-- Every role has its place in the order. -/
theorem mem_order (role : Role) : role ∈ order := by cases role <;> decide

/-- No role comes twice. -/
theorem nodup_order : order.Nodup := by decide

/-- Two roles never share a conventional name. -/
theorem conventionalName_injective {a b : Role} (h : a.conventionalName = b.conventionalName) :
    a = b := by
  revert h
  cases a <;> cases b <;> decide

end Role

end BrokerWiring
