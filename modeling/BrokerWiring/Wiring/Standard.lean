import BrokerWiring.Component.Registry

/-!
# Standard components

What the wiring supplies where the caller declares nothing. A standard component is made from the
settings and stands on the first components of the roles that it needs, which are registered by
the time its turn comes.
-/

namespace BrokerWiring

/-- What standard components are made from. -/
structure Supplies where
  settings : BrokerSettings
  /-- Makes the transport for a connection. -/
  establish : ConnectionSettings → Except ConfigError Transport
  /-- The endpoints that the caller declares. -/
  endpoints : List Endpoint

namespace Supplies

/-- The converter of the standard template: the registered one, or one of its own for texts. -/
def converter (registry : Registry) : Shared MessageConverter :=
  match registry.messageConverter with
  | .ok converter => converter
  | .error _ => ⟨.companion .template, .text⟩

/-- The standard component of a role. -/
def component (supplies : Supplies) (registry : Registry) (role : Role) :
    Except ConfigError Component :=
  let id := Identity.standard role
  match role with
  | .connectionFactory => do
    let connection := supplies.settings.connection
    let transport ← supplies.establish connection
    return .connectionFactory ⟨id, .cachingFor connection transport⟩
  | .messageConverter => .error (.noSuchComponent s!"role '{role.title}'")
  | .template => do
    let connectionFactory ← registry.connectionFactory
    return .template ⟨id, { connectionFactory, converter := converter registry }⟩
  | .messagingTemplate => do
    let template ← registry.template
    return .messagingTemplate ⟨id, { template }⟩
  | .admin => do return .admin ⟨id, .standard (← registry.connectionFactory)⟩
  | .containerFactory => do
    let connectionFactory ← registry.connectionFactory
    return .containerFactory ⟨id, .standard connectionFactory supplies.settings.listener⟩
  | .endpointProcessor => return .endpointProcessor ⟨id, ⟨supplies.endpoints⟩⟩
  | .endpointRegistry => return .endpointRegistry ⟨id, {}⟩

end Supplies

end BrokerWiring
