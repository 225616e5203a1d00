import BrokerWiring.Json.Printer
import BrokerWiring.Settings.AcknowledgeMode

/-!
# Settings of connections and listeners

What the properties of a broker client come down to once they are bound: how to reach the broker,
how listeners consume, and whether the broker's topology may be changed. `json` is the public form
of each record; it holds no password.
-/

namespace BrokerWiring

/-- Everything needed to open a connection to a broker. -/
structure ConnectionSettings where
  host : String := "localhost"
  port : UInt16 := 5672
  username : String := "guest"
  password : String := "guest"
  virtualHost : String := "/"
  useSsl : Bool := false
  keyStore? : Option String := none
  keyStorePassword? : Option String := none
  trustStore? : Option String := none
  trustStorePassword? : Option String := none
  /-- In seconds; zero leaves the choice to client and broker. -/
  heartbeat : UInt16 := 0
  deriving Repr, DecidableEq, Inhabited

/-- How a listener container consumes; what is absent is left to the container. -/
structure ListenerSettings where
  autoStartup : Bool := true
  acknowledgeMode : AcknowledgeMode := .auto
  concurrency? : Option UInt32 := none
  maxConcurrency? : Option UInt32 := none
  prefetch? : Option UInt16 := none
  transactionSize? : Option UInt32 := none
  deriving Repr, DecidableEq, Inhabited

/-- The settings of a broker client. -/
structure BrokerSettings where
  connection : ConnectionSettings := {}
  listener : ListenerSettings := {}
  /-- Whether a component may declare topology while the client runs. -/
  dynamic : Bool := true
  deriving Repr, DecidableEq, Inhabited

/-- The virtual host that is meant: the default one if none or the empty one is given. -/
def normalizeVirtualHost (virtualHost? : Option String) : String :=
  match virtualHost? with
  | none => "/"
  | some name => if name.isEmpty then "/" else name

/-! ## Public form -/

namespace Json

/-- A natural number as JSON. -/
def ofNat (n : Nat) : Json := .number (.natural n)

/-- What is there as JSON, else null. -/
def ofOption {α : Type} (form : α → Json) (value? : Option α) : Json :=
  match value? with
  | none => .null
  | some value => form value

end Json

/-- The settings of a connection without its passwords. -/
def ConnectionSettings.json (settings : ConnectionSettings) : Json :=
  .object
    [("host", .string settings.host), ("port", .ofNat settings.port.toNat),
      ("username", .string settings.username), ("virtual_host", .string settings.virtualHost),
      ("use_ssl", .bool settings.useSsl), ("key_store", .ofOption .string settings.keyStore?),
      ("trust_store", .ofOption .string settings.trustStore?),
      ("requested_heartbeat", .ofNat settings.heartbeat.toNat)]

/-- The settings of listeners. -/
def ListenerSettings.json (settings : ListenerSettings) : Json :=
  .object
    [("auto_startup", .bool settings.autoStartup),
      ("acknowledge_mode", .string settings.acknowledgeMode.word),
      ("concurrency", .ofOption (fun n => .ofNat n.toNat) settings.concurrency?),
      ("max_concurrency", .ofOption (fun n => .ofNat n.toNat) settings.maxConcurrency?),
      ("prefetch", .ofOption (fun n => .ofNat n.toNat) settings.prefetch?),
      ("transaction_size", .ofOption (fun n => .ofNat n.toNat) settings.transactionSize?)]

/-- All settings without the passwords. -/
def BrokerSettings.json (settings : BrokerSettings) : Json :=
  .object
    [("connection", settings.connection.json), ("listener", settings.listener.json),
      ("dynamic", .bool settings.dynamic)]

end BrokerWiring
