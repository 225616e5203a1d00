import BrokerWiring.CommandLine.Log
import BrokerWiring.Source.Layers
import BrokerWiring.Text.Diagnostic
import BrokerWiring.Transport.Stores
import BrokerWiring.Wiring.Resolution

/-!
# What is logged

The records of each stage of a run, in the order of the stage: where properties come from, how they
are bound, what the stores hold, and which components are registered. A stage that fails has the
records of what went well before it failed.
-/

namespace BrokerWiring.CommandLine

open Log

/-! ## Targets -/

/-- The target of the program itself. -/
def programTarget : String := "rabbit_autoconfig"

/-- The target of the sources of properties. -/
def sourceTarget : String := "rabbit_autoconfig::config"

/-- The target of binding. -/
def bindingTarget : String := "rabbit_autoconfig::binder"

/-- The target of transports and their stores. -/
def transportTarget : String := "rabbit_autoconfig::transport"

/-- The target of resolution. -/
def resolutionTarget : String := "rabbit_autoconfig::autoconfig::resolver"

/-! ## Properties -/

/-- The records of the configuration file. -/
def fileNotes (world : Source.World) : List Record :=
  match Source.configFile? world with
  | none => []
  | some candidate =>
    let place := candidate.place
    let path := candidate.path
    ⟨.debug, sourceTarget, s!"Found config file in {place}: {path}", []⟩ ::
      match Source.ofFile world.files path with
      | .ok _ => [⟨.info, sourceTarget, "Loaded configuration file", [("path", path)]⟩]
      | .error _ => []

/-- The records of the environment. -/
def environmentNotes (scope : String) (world : Source.World) : List Record :=
  (Property.variablesBelow scope (Source.fullEnvironment world)).map fun mapped =>
    ⟨.debug, sourceTarget, "Mapped environment variable",
      [("variable", mapped.name), ("key", mapped.key)]⟩

/-- The records of loading properties; without a usable file the environment is not looked at. -/
def loadNotes (scope : String) (world : Source.World) : List Record :=
  fileNotes world ++
    match Source.fileLayer world with
    | .ok _ => environmentNotes scope world
    | .error _ => []

/-- The records of binding. -/
def bindingNotes (properties : PropertySet) (scope : String) : List Record :=
  (Settings.unknownKeys properties scope).map
      (fun key => ⟨.debug, bindingTarget, "Ignoring unknown property", [("key", key)]⟩) ++
    match BrokerSettings.bind properties scope with
    | .error _ => []
    | .ok settings =>
      [⟨.debug, bindingTarget, "Bound RabbitMQ properties",
        [("host", settings.connection.host),
          ("port", Nat.repr settings.connection.port.toNat),
          ("virtual_host", settings.connection.virtualHost),
          ("ssl", Text.flag settings.connection.useSsl),
          ("dynamic", Text.flag settings.dynamic)]⟩]

/-! ## Transport -/

/-- The record of a key store. -/
def keyNote (path : String) (opened : Store.OpenedKey) : Record :=
  ⟨.debug, transportTarget, "Loaded key store",
    [("key_store", path), ("alias", opened.label), ("subject", opened.identity.subject)]⟩

/-- The record of a trust store. -/
def trustNote (path : String) (opened : Store.OpenedTrust) : Record :=
  ⟨.debug, transportTarget, "Loaded trust store",
    [("trust_store", path), ("roots", Nat.repr opened.anchors)]⟩

/-- The record of a secure transport. -/
def secureNote (transport : SecureTransport) : Record :=
  ⟨.info, transportTarget, "Using TLS socket factory",
    [("trust_store", Text.optional (transport.trustStore?.map Text.quoted)),
      ("key_store", Text.optional (transport.keyStore?.map Text.quoted)),
      ("trusted_certificates", Nat.repr transport.trustedCertificates)]⟩

/-- The records of a store that may be configured. -/
def storeNotes {α : Type} (path? : Option String) (opened : String → Except ConfigError α)
    (note : String → α → Record) : List Record :=
  match path? with
  | none => []
  | some path =>
    match opened path with
    | .ok store => [note path store]
    | .error _ => []

/-- The records of making a transport. The trust store is opened only behind the key store. -/
def transportNotes (formats : StoreFormats) (files : Files) (settings : ConnectionSettings) :
    List Record :=
  if settings.useSsl then
    let openKey (path : String) := Store.openKey formats files path settings.keyStorePassword?
    let openTrust := Store.openTrust formats files
    storeNotes settings.keyStore? openKey keyNote ++
      match Store.openIf settings.keyStore? openKey with
      | .error _ => []
      | .ok _ =>
        storeNotes settings.trustStore? openTrust trustNote ++
          match Transport.establish formats files settings with
          | .ok (.secure transport) => [secureNote transport]
          | _ => []
  else []

/-! ## Components -/

/-- The record of an event, with what is noted while the connection factory is made. -/
def eventNotes (connecting : List Record) : Event → List Record
  | .called _ _ => []
  | .accepted name role =>
    [⟨.debug, resolutionTarget, "Using declared component",
      [("role", role.title), ("name", name)]⟩]
  | .supplied role =>
    (if role = .connectionFactory then connecting else []) ++
      [⟨.debug, resolutionTarget, "Registering default",
        [("role", role.title), ("name", Text.quoted role.conventionalName)]⟩]
  | .withheld count =>
    [⟨.debug, resolutionTarget, "dynamic is off, no admin registered",
      [("skipped", Nat.repr count)]⟩]

/-- The records of a resolution whose settings are bound. -/
def resolutionNotes (connecting : List Record) (settings : BrokerSettings)
    (definitions : Definitions) (resolution : Resolution) : List Record :=
  let start : Record :=
    ⟨.debug, resolutionTarget, "Resolving RabbitMQ components",
      [("listener_support", definitions.listenerSupport.label),
        ("dynamic", Text.flag settings.dynamic)]⟩
  let rest :=
    match resolution.outcome with
    | .ok registry =>
      [⟨.info, resolutionTarget, "RabbitMQ auto-configuration complete",
        [("components", Nat.repr registry.size)]⟩]
    | .error _ => if resolution.events.isEmpty then connecting else []
  start :: resolution.events.flatMap (eventNotes connecting) ++ rest

/-- The record of a component. -/
def componentNote (entry : Entry) : Record :=
  ⟨.info, programTarget, "Registered component",
    [("name", Text.quoted entry.name), ("role", entry.component.role.title),
      ("origin", entry.origin.label)]⟩

end BrokerWiring.CommandLine
