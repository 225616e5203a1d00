import BrokerWiring.Listener.Container

/-!
# Endpoint registries

A registry keeps the endpoints that were declared, the first one of each id, and the containers
that were made for them. `startAll` makes a container for every endpoint, starts those that are to
start on their own, and stops at the first failure; what was made before it is kept. An endpoint
processor hands its endpoints over to a registry.
-/

namespace BrokerWiring

/-- Declared endpoints and their containers. -/
structure EndpointRegistry where
  endpoints : List Endpoint := []
  containers : List Container := []
  deriving Repr, DecidableEq

/-- Endpoints that an application declares. -/
structure EndpointProcessor where
  endpoints : List Endpoint := []
  deriving Repr, DecidableEq

/-- What came of a start of several containers. -/
structure Launch where
  /-- The number of containers that were started, or why one could not be. -/
  outcome : Except BrokerError Nat
  /-- Every container that was made, in order; behind a failure, the last one is the one that
  failed. -/
  made : List Container
  session : Session

namespace Launch

/-- The launch with a container in front of it, which counts as started or not. -/
def behind (container : Container) (started : Nat) (launch : Launch) : Launch :=
  { launch with
    outcome := launch.outcome.map (started + ·)
    made := container :: launch.made }

/-- The containers that stay. -/
def kept (launch : Launch) : List Container :=
  match launch.outcome with
  | .ok _ => launch.made
  | .error _ => launch.made.dropLast

/-- Makes a container for each endpoint, and starts it if it is to start on its own. -/
def of (factory : ContainerFactory) (broker : Broker) : List Endpoint → Session → Launch
  | [], session => ⟨.ok 0, [], session⟩
  | endpoint :: rest, session =>
    let container := factory.create endpoint
    if container.settings.autoStartup then
      match container.start broker session with
      | (.ok _, container, session) => (of factory broker rest session).behind container 1
      | (.error e, container, session) => ⟨.error e, [container], session⟩
    else (of factory broker rest session).behind container 0

end Launch

namespace EndpointRegistry

/-- Keeps an endpoint unless there is one with its id. -/
def register (registry : EndpointRegistry) (endpoint : Endpoint) : EndpointRegistry :=
  if registry.endpoints.any (·.id == endpoint.id) then registry
  else { registry with endpoints := registry.endpoints ++ [endpoint] }

/-- Keeps endpoints one after another. -/
def registerEach (registry : EndpointRegistry) (endpoints : List Endpoint) : EndpointRegistry :=
  endpoints.foldl register registry

/-- Starts all endpoints. -/
def startAll (registry : EndpointRegistry) (factory : ContainerFactory) (broker : Broker)
    (session : Session) : Except BrokerError Nat × EndpointRegistry × Session :=
  let launch := Launch.of factory broker registry.endpoints session
  (launch.outcome, { registry with containers := registry.containers ++ launch.kept },
    launch.session)

/-- Stops all containers. -/
def stopAll (registry : EndpointRegistry) : EndpointRegistry :=
  { registry with containers := registry.containers.map Container.stop }

end EndpointRegistry

/-- Hands all endpoints over to a registry. -/
def EndpointProcessor.registerAll (processor : EndpointProcessor) (registry : EndpointRegistry) :
    EndpointRegistry :=
  registry.registerEach processor.endpoints

end BrokerWiring
