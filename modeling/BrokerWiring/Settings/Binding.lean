import BrokerWiring.Property.Set
import BrokerWiring.Settings.Basic
import BrokerWiring.Settings.Numeral

/-!
# Binding properties to settings

`BrokerSettings.bind` reads the eighteen known keys below a scope. A key that is not set leaves the
default. Texts and paths are taken as they are; numbers, flags and the acknowledge mode are read
without the white space around them. The first value that does not fit stops the binding, with the
key as it was spelled and the value as it was written; `bind` visits the keys in the order of the
fields, connection before listener before the rest.
-/

namespace BrokerWiring

namespace Settings

/-- The keys that are bound, below the scope. -/
def knownKeys : List String :=
  ["host", "port", "username", "password", "virtual_host", "dynamic", "requested_heartbeat",
    "ssl.enabled", "ssl.key_store", "ssl.key_store_password", "ssl.trust_store",
    "ssl.trust_store_password", "listener.auto_startup", "listener.acknowledge_mode",
    "listener.concurrency", "listener.max_concurrency", "listener.prefetch",
    "listener.transaction_size"]

/-- The properties below a scope, with the scope as it was asked for. -/
structure Scoped where
  scope : String
  properties : PropertySet
  deriving DecidableEq

/-- The properties of a set below a scope. -/
def below (set : PropertySet) (scope : String) : Scoped := ⟨scope, set.subset scope⟩

/-- A key with the scope in front of it. -/
def fullKey (scope key : String) : String := if scope.isEmpty then key else scope ++ "." ++ key

namespace Scoped

/-- The value at a key. -/
def raw? (source : Scoped) (key : String) : Option String := source.properties.get? key

/-- The error that the value at a key does not fit: the key is given as it was spelled. -/
def misfit (source : Scoped) (key value reason : String) : ConfigError :=
  .invalidValue (fullKey source.scope ((source.properties.sourceKey? key).getD key)) value reason

/-- The value at a key as `form` reads it; none if the key is not set. -/
def read {α : Type} (source : Scoped) (form : String → Except String α) (key : String) :
    Except ConfigError (Option α) :=
  match source.raw? key with
  | none => .ok none
  | some value =>
    match form value with
    | .ok result => .ok (some result)
    | .error reason => .error (source.misfit key value reason)

end Scoped

/-! ## Forms of values -/

/-- A number of at most `bound`. -/
def natForm (bound : Nat) (value : String) : Except String Nat :=
  (numeralWithin bound (Text.trim value).toList).mapError (·.message)

/-- A number of sixteen bits. -/
def shortForm (value : String) : Except String UInt16 :=
  (natForm (UInt16.size - 1) value).map (·.toUInt16)

/-- A number of thirty-two bits. -/
def longForm (value : String) : Except String UInt32 :=
  (natForm (UInt32.size - 1) value).map (·.toUInt32)

/-- A flag. -/
def flagForm (value : String) : Except String Bool :=
  let word := Text.lowerText (Text.trim value)
  if word = "true" then .ok true
  else if word = "false" then .ok false
  else .error "expected true or false"

/-- An acknowledge mode. -/
def modeForm (value : String) : Except String AcknowledgeMode :=
  AcknowledgeMode.ofWord (Text.trim value)

/-! ## Records -/

/-- The settings of a connection. -/
def connectionOf (source : Scoped) : Except ConfigError ConnectionSettings := do
  let port? ← source.read shortForm "port"
  let useSsl? ← source.read flagForm "ssl.enabled"
  let heartbeat? ← source.read shortForm "requested_heartbeat"
  let default : ConnectionSettings := {}
  return {
    host := (source.raw? "host").getD default.host
    port := port?.getD default.port
    username := (source.raw? "username").getD default.username
    password := (source.raw? "password").getD default.password
    virtualHost := normalizeVirtualHost (source.raw? "virtual_host")
    useSsl := useSsl?.getD default.useSsl
    keyStore? := source.raw? "ssl.key_store"
    keyStorePassword? := source.raw? "ssl.key_store_password"
    trustStore? := source.raw? "ssl.trust_store"
    trustStorePassword? := source.raw? "ssl.trust_store_password"
    heartbeat := heartbeat?.getD default.heartbeat }

/-- The settings of listeners. -/
def listenerOf (source : Scoped) : Except ConfigError ListenerSettings := do
  let autoStartup? ← source.read flagForm "listener.auto_startup"
  let acknowledgeMode? ← source.read modeForm "listener.acknowledge_mode"
  let concurrency? ← source.read longForm "listener.concurrency"
  let maxConcurrency? ← source.read longForm "listener.max_concurrency"
  let prefetch? ← source.read shortForm "listener.prefetch"
  let transactionSize? ← source.read longForm "listener.transaction_size"
  let default : ListenerSettings := {}
  return {
    autoStartup := autoStartup?.getD default.autoStartup
    acknowledgeMode := acknowledgeMode?.getD default.acknowledgeMode
    concurrency?, maxConcurrency?, prefetch?, transactionSize? }

/-- The keys below a scope that are not bound, in full. -/
def unknownKeys (set : PropertySet) (scope : String) : List String :=
  let source := below set scope
  let known := knownKeys.map Property.canonicalKey
  source.properties.toList.filterMap fun property =>
    let canonical := Property.canonicalKey property.key
    if known.contains canonical then none
    else some (fullKey scope ((source.properties.sourceKey? property.key).getD property.key))

end Settings

/-- The settings that the properties below a scope give. -/
def BrokerSettings.bind (set : PropertySet) (scope : String) :
    Except ConfigError BrokerSettings := do
  let source := Settings.below set scope
  let connection ← Settings.connectionOf source
  let listener ← Settings.listenerOf source
  let dynamic? ← source.read Settings.flagForm "dynamic"
  return { connection, listener, dynamic := dynamic?.getD true }

end BrokerWiring
