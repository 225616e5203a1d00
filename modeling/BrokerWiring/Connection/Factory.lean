import BrokerWiring.Settings.Basic
import BrokerWiring.Transport.Basic

/-!
# Connection factories

A connection factory knows a broker and how to reach it. The caching one keeps a single connection
for everybody; a caller may bring one of its own, of which only the settings are known.
-/

namespace BrokerWiring

/-- A source of connections to one broker. -/
structure ConnectionFactory where
  settings : ConnectionSettings
  transport : Transport
  /-- Whether it is the caching factory, not one of the caller's own. -/
  caching : Bool
  deriving Repr, DecidableEq

/-- The address of a broker with everything that a connection names up front. -/
structure BrokerAddress where
  scheme : String
  host : String
  port : UInt16
  username : String
  password : String
  virtualHost : String
  heartbeat? : Option UInt16
  deriving Repr, DecidableEq

namespace ConnectionFactory

/-- The caching factory for settings and a transport. -/
def cachingFor (settings : ConnectionSettings) (transport : Transport) : ConnectionFactory :=
  ⟨settings, transport, true⟩

/-- The plain caching factory for a host and a port, with everything else left at its default. -/
def cachingAt (host : String) (port : UInt16) : ConnectionFactory :=
  cachingFor { host, port } .plain

/-- The address that a factory connects to. A heartbeat of zero is not asked for. -/
def address (factory : ConnectionFactory) : BrokerAddress :=
  let settings := factory.settings
  { scheme := factory.transport.scheme
    host := settings.host
    port := settings.port
    username := settings.username
    password := settings.password
    virtualHost := settings.virtualHost
    heartbeat? := if settings.heartbeat = 0 then none else some settings.heartbeat }

/-- A caching factory in diagnostics. -/
def diagnostic (factory : ConnectionFactory) : String :=
  Text.guardedRecord "CachingConnectionFactory"
    [("host", Text.quoted factory.settings.host),
      ("port", Nat.repr factory.settings.port.toNat),
      ("virtual_host", Text.quoted factory.settings.virtualHost),
      ("socket_factory", factory.transport.diagnostic)]

/-- Whether two factories reach the same place in the same way. -/
def looksLike (a b : ConnectionFactory) : Bool :=
  a.settings.host == b.settings.host && a.settings.port == b.settings.port &&
    a.settings.virtualHost == b.settings.virtualHost && a.transport == b.transport

end ConnectionFactory

end BrokerWiring
