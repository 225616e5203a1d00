import BrokerWiring.Asn1.Anchor
import BrokerWiring.Error
import BrokerWiring.Pem.Bundle
import BrokerWiring.Settings.Basic
import BrokerWiring.Source.Files
import BrokerWiring.Transport.Archive
import BrokerWiring.Transport.Basic

/-!
# Key and trust stores

`Transport.establish` makes the transport that connection settings ask for. Without encryption
this is the plain one, and no file is read. With encryption every store that is configured has to
exist and to open: the key store first, as an archive with a private key, then the trust store, as
a bundle of certificates that can all serve as trust anchors. There is no way from a store that
does not open to a transport.

How archives, bundles and anchors are encoded is a parameter, so that what is said about stores
does not hang on the encodings; `StoreFormats.standard` has the usual ones.
-/

namespace BrokerWiring

/-- How stores are read. -/
structure StoreFormats where
  /-- The key of an archive under a password. -/
  openArchive : List UInt8 → String → Except String (Option KeyEntry)
  /-- The certificates of a bundle. -/
  readBundle : List UInt8 → Except String (List (List UInt8))
  /-- Whether a certificate may serve as a trust anchor. -/
  checkAnchor : List UInt8 → Except String Unit

/-- Archives of PKCS#12, bundles of PEM, certificates of X.509. -/
def StoreFormats.standard : StoreFormats where
  openArchive := fun bytes password => (Archive.key? bytes password).mapError (·.message)
  readBundle := fun bytes => (Pem.certificates bytes).mapError (·.message)
  checkAnchor := fun bytes => (Asn1.Anchor.check bytes).mapError (·.message)

namespace Store

/-- The bytes of a store. -/
def readBytes (files : Files) (path : String) : Except ConfigError (List UInt8) :=
  match files.readBytes path with
  | .ok bytes => .ok bytes
  | .error .notFound => .error (.storeUnusable path "does not exist")
  | .error failure => .error (.storeUnusable path s!"could not be opened: {failure.message}")

/-- A key store that was opened. -/
structure OpenedKey where
  label : String
  identity : ClientIdentity
  deriving Repr, DecidableEq

/-- Opens a key store; without a password, with the empty one. -/
def openKey (formats : StoreFormats) (files : Files) (path : String)
    (password? : Option String) : Except ConfigError OpenedKey :=
  let password := password?.getD ""
  match readBytes files path with
  | .error e => .error e
  | .ok archive =>
    match formats.openArchive archive password with
    | .error reason =>
      .error (.storeUnusable path
        s!"could not be opened as PKCS#12 with the given password: {reason}")
    | .ok none => .error (.storeUnusable path "contains no private key")
    | .ok (some ⟨label, none⟩) =>
      .error (.storeUnusable path s!"has no certificate for key '{label}'")
    | .ok (some ⟨label, some subject⟩) => .ok ⟨label, ⟨archive, password, subject⟩⟩

/-- A trust store that was opened. -/
structure OpenedTrust where
  anchors : Nat
  text : String
  deriving Repr, DecidableEq

/-- The number of certificates, all of which have to be anchors; or why one is none. -/
def countAnchors (formats : StoreFormats) : List (List UInt8) → Except String Nat
  | [] => .ok 0
  | certificate :: rest =>
    match formats.checkAnchor certificate with
    | .error reason => .error reason
    | .ok _ => (countAnchors formats rest).map (· + 1)

/-- Opens a trust store. -/
def openTrust (formats : StoreFormats) (files : Files) (path : String) :
    Except ConfigError OpenedTrust :=
  let unusable {α : Type} (reason : String) : Except ConfigError α :=
    .error (.storeUnusable path reason)
  match readBytes files path with
  | .error e => .error e
  | .ok bytes =>
    match formats.readBundle bytes with
    | .error reason => unusable s!"is not a valid PEM bundle: {reason}"
    | .ok [] => unusable "contains no certificates"
    | .ok certificates =>
      match countAnchors formats certificates with
      | .error reason => unusable s!"contains an unusable certificate: {reason}"
      | .ok anchors =>
        match Utf8.decodeText bytes with
        | .error fault => unusable s!"is not UTF-8: {fault.message}"
        | .ok text => .ok ⟨anchors, text⟩

/-- Opens what is configured; nothing if it is not. -/
def openIf {α : Type} (path? : Option String) (opened : String → Except ConfigError α) :
    Except ConfigError (Option α) :=
  match path? with
  | none => .ok none
  | some path => (opened path).map some

end Store

/-- The transport that connection settings ask for. -/
def Transport.establish (formats : StoreFormats) (files : Files) (settings : ConnectionSettings) :
    Except ConfigError Transport :=
  if settings.useSsl then do
    let key? ← Store.openIf settings.keyStore? fun path =>
      Store.openKey formats files path settings.keyStorePassword?
    let trust? ← Store.openIf settings.trustStore? (Store.openTrust formats files)
    return .secure
      { certificates? := trust?.map (·.text)
        trustedCertificates := (trust?.map (·.anchors)).getD 0
        identity? := key?.map (·.identity)
        trustStore? := settings.trustStore?
        keyStore? := settings.keyStore? }
  else .ok .plain

end BrokerWiring
