import BrokerWiring.Text.Diagnostic

/-!
# Transports

How a connection factory opens its sockets: plain, or secured with what the key and trust stores
hold.
-/

namespace BrokerWiring

/-- What a client shows of itself: an archive with a private key, the password that opens it, and
the subject of the certificate that goes with the key. -/
structure ClientIdentity where
  archive : List UInt8
  password : String
  subject : String
  deriving Repr, DecidableEq

/-- A transport with encryption. What is absent was not configured. -/
structure SecureTransport where
  /-- The text of the trust store. -/
  certificates? : Option String
  /-- The number of certificates in it. -/
  trustedCertificates : Nat
  identity? : Option ClientIdentity
  trustStore? : Option String
  keyStore? : Option String
  deriving Repr, DecidableEq

/-- A client identity as the connection takes it. -/
structure TlsIdentity where
  archive : List UInt8
  password : String
  deriving Repr, DecidableEq

/-- What a connection is handed to encrypt with. -/
structure TlsConfig where
  identity? : Option TlsIdentity
  /-- The text of the trust store. -/
  certificates? : Option String
  deriving Repr, DecidableEq

/-- What a connection is handed of a secure transport. -/
def SecureTransport.tlsConfig (transport : SecureTransport) : TlsConfig where
  identity? := transport.identity?.map fun identity => ⟨identity.archive, identity.password⟩
  certificates? := transport.certificates?

/-- How sockets are opened. -/
inductive Transport where
  | plain
  | secure (transport : SecureTransport)
  deriving Repr, DecidableEq

/-- The identity in diagnostics; the archive and its password stay out. -/
def ClientIdentity.diagnostic (identity : ClientIdentity) : String :=
  Text.guardedRecord "ClientIdentity"
    [("subject", Text.quoted identity.subject),
      ("der_len", Nat.repr identity.archive.length)]

/-- A secure transport in diagnostics. -/
def SecureTransport.diagnostic (transport : SecureTransport) : String :=
  Text.record "TlsSocketFactory"
    [("cert_chain", Text.optional (transport.certificates?.map Text.quoted)),
      ("trusted_certificates", Nat.repr transport.trustedCertificates),
      ("identity", Text.optional (transport.identity?.map (·.diagnostic))),
      ("trust_store", Text.optional (transport.trustStore?.map Text.quoted)),
      ("key_store", Text.optional (transport.keyStore?.map Text.quoted))]

namespace Transport

/-- Whether traffic is encrypted. -/
def isSecure : Transport → Bool
  | .plain => false
  | .secure _ => true

/-- The scheme of addresses that are reached this way. -/
def scheme : Transport → String
  | .plain => "amqp"
  | .secure _ => "amqps"

/-- The secure transport, if it is one. -/
def secure? : Transport → Option SecureTransport
  | .plain => none
  | .secure transport => some transport

/-- A transport in diagnostics. -/
def diagnostic : Transport → String
  | .plain => "Plain(PlainSocketFactory)"
  | .secure transport => "Tls(" ++ transport.diagnostic ++ ")"

end Transport

end BrokerWiring
