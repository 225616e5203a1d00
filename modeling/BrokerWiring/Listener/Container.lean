import BrokerWiring.Broker.Session
import BrokerWiring.Component.Shared
import BrokerWiring.Connection.Factory
import BrokerWiring.Listener.Endpoint

/-!
# Listener containers

A container runs the consumers of one endpoint: for each queue as many as its settings say. A
container factory makes containers; the standard one fills its listener settings up to container
settings, a caller's own decides for itself.
-/

namespace BrokerWiring

/-- The settings that a container works with. -/
structure ContainerSettings where
  autoStartup : Bool
  acknowledgeMode : AcknowledgeMode
  concurrentConsumers : UInt32
  maxConcurrentConsumers? : Option UInt32
  prefetchCount? : Option UInt16
  /-- The deliveries that are acknowledged together. -/
  txSize : UInt32
  deriving Repr, DecidableEq

/-- The settings of a container for listener settings: at least one consumer for each queue and at
least one delivery to a batch. -/
def ListenerSettings.container (settings : ListenerSettings) : ContainerSettings :=
  { autoStartup := settings.autoStartup
    acknowledgeMode := settings.acknowledgeMode
    concurrentConsumers := max (settings.concurrency?.getD 1) 1
    maxConcurrentConsumers? := settings.maxConcurrency?
    prefetchCount? := settings.prefetch?
    txSize := max (settings.transactionSize?.getD 1) 1 }

/-- The consumers of one endpoint. -/
structure Container where
  endpoint : Endpoint
  settings : ContainerSettings
  /-- The number of consumers that run. -/
  consumers : Nat
  deriving Repr, DecidableEq

/-- Makes containers. -/
inductive ContainerFactory where
  | standard (connectionFactory : Shared ConnectionFactory) (settings : ListenerSettings)
  | custom (make : Endpoint → Container)

/-- The container for an endpoint. The standard factory makes one without a consumer; a caller's own
may make any. -/
def ContainerFactory.create (factory : ContainerFactory) (endpoint : Endpoint) : Container :=
  match factory with
  | .standard _ settings => ⟨endpoint, settings.container, 0⟩
  | .custom make => make endpoint

/-! ## Diagnostics -/

/-- Container settings in diagnostics. -/
def ContainerSettings.diagnostic (settings : ContainerSettings) : String :=
  Text.record "ContainerSettings"
    [("auto_startup", Text.flag settings.autoStartup),
      ("acknowledge_mode", settings.acknowledgeMode.label),
      ("concurrent_consumers", Nat.repr settings.concurrentConsumers.toNat),
      ("max_concurrent_consumers",
        Text.optional (settings.maxConcurrentConsumers?.map fun n => Nat.repr n.toNat)),
      ("prefetch_count", Text.optional (settings.prefetchCount?.map fun n => Nat.repr n.toNat)),
      ("tx_size", Nat.repr settings.txSize.toNat)]

namespace Container

/-- A container in diagnostics. -/
def diagnostic (container : Container) : String :=
  Text.record "ListenerContainer"
    [("endpoint", container.endpoint.diagnostic), ("settings", container.settings.diagnostic),
      ("consumers", Nat.repr container.consumers)]

/-! ## Starting and stopping -/

/-- Whether a consumer runs. -/
def isRunning (container : Container) : Bool := 0 < container.consumers

/-- The queue of each consumer that is to run. -/
def slots (container : Container) : List String :=
  container.endpoint.queues.flatMap
    (List.replicate container.settings.concurrentConsumers.toNat)

/-- Sets up one consumer on a channel of its own. -/
def subscribe (broker : Broker) (settings : ContainerSettings) (queue : String) : Talk Unit := do
  Talk.openChannel broker
  match settings.prefetchCount? with
  | some count => Talk.ask broker (.limitPrefetch count) .ofFailure
  | none => return ()
  Talk.ask broker (.subscribe queue settings.acknowledgeMode) fun failure =>
    .consume failure.message

/-- Sets up consumers one after another and counts those that run. The first failure ends it. -/
def subscribeEach (broker : Broker) (settings : ContainerSettings) :
    List String → Session → Except BrokerError Unit × Nat × Session
  | [], session => (.ok (), 0, session)
  | queue :: rest, session =>
    match (subscribe broker settings queue).outcome session with
    | (.error e, session) => (.error e, 0, session)
    | (.ok _, session) =>
      let (outcome, count, session) := subscribeEach broker settings rest session
      (outcome, count + 1, session)

/-- Starts a container unless it runs: gets a connection and sets up every consumer. Consumers that
were set up before a failure go on. -/
def start (container : Container) (broker : Broker) (session : Session) :
    Except BrokerError Unit × Container × Session :=
  if container.isRunning then (.ok (), container, session)
  else
    match (Talk.connect broker).outcome session with
    | (.error e, session) => (.error e, container, session)
    | (.ok _, session) =>
      let (outcome, count, session) :=
        subscribeEach broker container.settings container.slots session
      (outcome, { container with consumers := container.consumers + count }, session)

/-- Stops all consumers. -/
def stop (container : Container) : Container := { container with consumers := 0 }

end Container

end BrokerWiring
