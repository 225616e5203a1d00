import BrokerWiring.Property.Set
import BrokerWiring.Settings.Binding
import BrokerWiring.Wiring.Plan
import BrokerWiring.Wiring.Standard

/-!
# Resolution

`resolve` binds the settings, runs the plan step by step on a registry that grows, and in the end
hands the endpoints of the first processor over to the first endpoint registry. The first step that
fails ends it, and then there is no registry at all. What happens on the way is noted as events, so
that one can tell which constructors ran, in which order, and what each of them saw.
-/

namespace BrokerWiring

/-- What happens during a resolution. -/
inductive Event where
  /-- A constructor runs on the registry so far. -/
  | called (definition : Definition) (seen : Registry)
  /-- A declared component fits its role and is about to be registered. -/
  | accepted (name : String) (role : Role)
  /-- A standard component is about to be registered. -/
  | supplied (role : Role)
  /-- Declared admins are passed over. -/
  | withheld (count : Nat)

/-- What happened, and what came of it. -/
structure Resolution where
  events : List Event
  outcome : Except ConfigError Registry

namespace Resolution

/-- Events in front of a resolution. -/
def behind (events : List Event) (resolution : Resolution) : Resolution :=
  { resolution with events := events ++ resolution.events }

/-- One step: what happens, and the registry behind it. -/
def step (supplies : Supplies) (registry : Registry) : Step → Resolution
  | .declared definition =>
    let called := Event.called definition registry
    match definition.build registry with
    | .error e => ⟨[called], .error e⟩
    | .ok component =>
      ⟨[called, .accepted definition.name definition.role],
        registry.insert ⟨definition.name, component, .declared⟩⟩
  | .standard role =>
    match supplies.component registry role with
    | .error e => ⟨[], .error e⟩
    | .ok component =>
      ⟨[.supplied role], registry.insert ⟨role.conventionalName, component, .standard⟩⟩
  | .withhold count => ⟨[.withheld count], .ok registry⟩

/-- The steps of a plan up to the first that fails. -/
def run (supplies : Supplies) (registry : Registry) : List Step → Resolution
  | [] => ⟨[], .ok registry⟩
  | next :: rest =>
    let first := step supplies registry next
    match first.outcome with
    | .error e => ⟨first.events, .error e⟩
    | .ok registry => (run supplies registry rest).behind first.events

/-- The definitions whose constructors ran, in order, each with the registry that it saw. -/
def calls (resolution : Resolution) : List (Definition × Registry) :=
  resolution.events.filterMap fun event =>
    match event with
    | .called definition seen => some (definition, seen)
    | _ => none

end Resolution

namespace Registry

/-- Hands endpoints over to a component if it is the endpoint registry of the given identity. -/
def fill (processor : EndpointProcessor) (target : Identity) : Component → Component
  | .endpointRegistry c =>
    if c.id = target then .endpointRegistry ⟨c.id, processor.registerAll c.value⟩
    else .endpointRegistry c
  | other => other

/-- Hands the endpoints of the first processor over to the first endpoint registry, under whatever
names it is registered. Without either, nothing changes. -/
def handOver (registry : Registry) : Registry :=
  match registry.endpointProcessor, registry.endpointRegistry with
  | .ok processor, .ok target => registry.mapComponents (fill processor.value target.id)
  | _, _ => registry

end Registry

/-- Where settings come from, and how transports are made of them. -/
structure Configuration where
  properties : PropertySet
  /-- The scope of the properties that count. -/
  scope : String
  establish : ConnectionSettings → Except ConfigError Transport

/-- Wires a client: the components that the definitions and the properties ask for. -/
def Configuration.resolve (configuration : Configuration) (definitions : Definitions) :
    Resolution :=
  match BrokerSettings.bind configuration.properties configuration.scope with
  | .error e => ⟨[], .error e⟩
  | .ok settings =>
    let supplies := ⟨settings, configuration.establish, definitions.endpoints⟩
    let steps := Plan.steps settings.dynamic definitions
    let resolution := Resolution.run supplies Registry.empty steps
    { resolution with outcome := resolution.outcome.map Registry.handOver }

end BrokerWiring
