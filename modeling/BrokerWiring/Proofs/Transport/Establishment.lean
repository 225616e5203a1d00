import BrokerWiring.Proofs.Transport.Opening

/-!
# No encryption is given up in silence

Who asks for encryption gets a secure transport or an error, never the plain transport. A secure
transport is established just if every configured store holds what it has to, and then it hands on
what was found in the stores. Else the error is about the key store if something is wrong with it,
and about the trust store if not (`guarded_establish`).
-/

namespace BrokerWiring

open Outcome

/-- An error is about a store. -/
inductive ConfigError.OfStore : ConfigError → Prop
  | storeUnusable (path reason : String) : OfStore (.storeUnusable path reason)

namespace Transport

variable (formats : StoreFormats) (files : Files) (settings : ConnectionSettings)

/-! ## What a transport is established on -/

/-- The key store, if there is to be one, holds an identity. Without a password it has to open with
the empty one. -/
def KeyReady : Prop :=
  ∀ path ∈ settings.keyStore?, ∃ identity,
    Store.HoldsKey formats files path (settings.keyStorePassword?.getD "") identity

/-- The trust store, if there is to be one, holds anchors. -/
def AnchorsReady : Prop :=
  ∀ path ∈ settings.trustStore?, ∃ opened, Store.HoldsAnchors formats files path opened

/-- A secure transport hands on what the configured stores hold, and nothing else. -/
structure Carries (transport : SecureTransport) : Prop where
  keyStore : transport.keyStore? = settings.keyStore?
  trustStore : transport.trustStore? = settings.trustStore?
  /-- The identity that is shown in diagnostics is that of the key store. -/
  identity : Option.Rel
    (fun path => Store.HoldsKey formats files path (settings.keyStorePassword?.getD ""))
    settings.keyStore? transport.identity?
  /-- The connection gets the bytes of the key store and the password that opens it. -/
  archive : Option.Rel
    (fun path (identity : TlsIdentity) => files.readBytes path = .ok identity.archive ∧
      identity.password = settings.keyStorePassword?.getD "")
    settings.keyStore? transport.tlsConfig.identity?
  /-- The connection gets the text of the trust store. -/
  certificates : Option.Rel
    (fun path text => files.readBytes path = .ok (Utf8.encodeText text))
    settings.trustStore? transport.tlsConfig.certificates?
  /-- All certificates of the bundle are counted. -/
  trusted : ∀ path ∈ settings.trustStore?, ∃ bytes certificates,
    files.readBytes path = .ok bytes ∧ formats.readBundle bytes = .ok certificates ∧
      transport.trustedCertificates = certificates.length
  untrusting : settings.trustStore? = none → transport.trustedCertificates = 0

/-- The first store that is at fault, and why. The trust store comes after the key store. -/
inductive Fault : ConfigError → Prop
  | key {path reason : String} (configured : settings.keyStore? = some path)
      (h : Store.KeyFault formats files path (settings.keyStorePassword?.getD "") reason) :
      Fault (.storeUnusable path reason)
  | anchors {path reason : String} (ready : KeyReady formats files settings)
      (configured : settings.trustStore? = some path)
      (h : Store.AnchorFault formats files path reason) :
      Fault (.storeUnusable path reason)

/-- Encryption is never given up: what comes of the settings, whatever the files are. -/
structure Guarded (outcome : Files → Except ConfigError Transport) : Prop where
  /-- The transport is plain just if no encryption is asked for. -/
  plain_iff (files : Files) : outcome files = .ok .plain ↔ settings.useSsl = false
  /-- Who asks for encryption gets it or an error. -/
  secured (h : settings.useSsl = true) (files : Files) :
    (∃ error, outcome files = .error error) ∨
      ∃ transport, outcome files = .ok (.secure transport)
  /-- Without encryption no file has a part in the outcome. -/
  unread (h : settings.useSsl = false) (files other : Files) : outcome files = outcome other
  /-- In any case none but the configured stores has. -/
  confined (files other : Files)
    (same : ∀ path, settings.keyStore? = some path ∨ settings.trustStore? = some path →
      files.readBytes path = other.readBytes path) : outcome files = outcome other
  /-- With encryption there is a secure transport just if every configured store can be used. -/
  secure_iff (h : settings.useSsl = true) (files : Files) :
    (∃ transport, outcome files = .ok (.secure transport)) ↔
      KeyReady formats files settings ∧ AnchorsReady formats files settings
  carries (files : Files) {transport : SecureTransport}
    (h : outcome files = .ok (.secure transport)) : Carries formats files settings transport
  /-- Else the error is about the first store that cannot. -/
  error_iff (h : settings.useSsl = true) (files : Files) (error : ConfigError) :
    outcome files = .error error ↔ Fault formats files settings error

variable {formats files settings}

theorem keyReady_iff : KeyReady formats files settings ↔
    ∃ key?, Store.openIf settings.keyStore? (fun path =>
      Store.openKey formats files path settings.keyStorePassword?) = .ok key? := by
  rw [Store.exists_openIf_eq_ok_iff]
  refine forall₂_congr fun path _ => ?_
  constructor
  · rintro ⟨identity, h⟩
    obtain ⟨label, hopen⟩ := Store.openKey_eq_ok_iff.mpr h
    exact ⟨_, hopen⟩
  · rintro ⟨⟨label, identity⟩, hopen⟩
    exact ⟨identity, Store.openKey_eq_ok_iff.mp ⟨label, hopen⟩⟩

theorem anchorsReady_iff : AnchorsReady formats files settings ↔
    ∃ trust?, Store.openIf settings.trustStore? (Store.openTrust formats files) = .ok trust? := by
  rw [Store.exists_openIf_eq_ok_iff]
  exact forall₂_congr fun path _ => exists_congr fun opened => Store.openTrust_eq_ok_iff.symm

/-! ## What establishing comes to -/

theorem establish_of_plain (h : settings.useSsl = false) :
    establish formats files settings = .ok .plain := by
  rw [establish, if_neg (Bool.eq_false_iff.mp h)]

theorem establish_eq_ok_iff (h : settings.useSsl = true) {transport : Transport} :
    establish formats files settings = .ok transport ↔
      ∃ key? trust?, Store.openIf settings.keyStore? (fun path =>
          Store.openKey formats files path settings.keyStorePassword?) = .ok key? ∧
        Store.openIf settings.trustStore? (Store.openTrust formats files) = .ok trust? ∧
        transport = .secure
          { certificates? := trust?.map (·.text)
            trustedCertificates := (trust?.map (·.anchors)).getD 0
            identity? := key?.map (·.identity)
            trustStore? := settings.trustStore?
            keyStore? := settings.keyStore? } := by
  rw [establish, if_pos h, bind_eq_ok_iff]
  refine exists_congr fun key? => ?_
  rw [bind_eq_ok_iff]
  constructor
  · rintro ⟨hkey, trust?, htrust, hmade⟩
    exact ⟨trust?, hkey, htrust, (Except.ok.inj hmade).symm⟩
  · rintro ⟨trust?, hkey, htrust, rfl⟩
    exact ⟨hkey, trust?, htrust, rfl⟩

theorem establish_eq_error_iff (h : settings.useSsl = true) {error : ConfigError} :
    establish formats files settings = .error error ↔
      Store.openIf settings.keyStore? (fun path =>
          Store.openKey formats files path settings.keyStorePassword?) = .error error ∨
        KeyReady formats files settings ∧
          Store.openIf settings.trustStore? (Store.openTrust formats files) = .error error := by
  rw [establish, if_pos h, bind_eq_error_iff, keyReady_iff, ← exists_and_right]
  refine or_congr_right (exists_congr fun key? => and_congr_right fun _ => ?_)
  rw [bind_eq_error_iff]
  constructor
  · rintro (htrust | ⟨trust?, -, hmade⟩)
    · exact htrust
    · cases hmade
  · exact .inl

theorem error_iff_fault (h : settings.useSsl = true) (error : ConfigError) :
    establish formats files settings = .error error ↔ Fault formats files settings error := by
  rw [establish_eq_error_iff h, Store.openIf_eq_error_iff, Store.openIf_eq_error_iff]
  simp only [Store.openKey_eq_error_iff, Store.openTrust_eq_error_iff]
  constructor
  · rintro (⟨path, configured, reason, fault, rfl⟩ | ⟨ready, path, configured, reason, fault, rfl⟩)
    · exact .key configured fault
    · exact .anchors ready configured fault
  · intro fault
    cases fault with
    | key configured fault => exact .inl ⟨_, configured, _, fault, rfl⟩
    | anchors ready configured fault => exact .inr ⟨ready, _, configured, _, fault, rfl⟩

/-- A secure transport is made of what the stores were opened to. -/
theorem carries_of_establish (h : settings.useSsl = true) {transport : SecureTransport}
    (established : establish formats files settings = .ok (.secure transport)) :
    Carries formats files settings transport := by
  obtain ⟨key?, trust?, hkey, htrust, hmade⟩ := (establish_eq_ok_iff h).mp established
  cases hmade
  have holdsKey (path : String) (opened : Store.OpenedKey)
      (hopen : Store.openKey formats files path settings.keyStorePassword? = .ok opened) :
      Store.HoldsKey formats files path (settings.keyStorePassword?.getD "") opened.identity :=
    Store.openKey_eq_ok_iff.mp ⟨opened.label, hopen⟩
  constructor
  case keyStore => rfl
  case trustStore => rfl
  case identity => exact Store.rel_of_openIf hkey holdsKey
  case archive =>
    dsimp only [SecureTransport.tlsConfig]
    rw [Option.map_map]
    refine Store.rel_of_openIf hkey fun path opened hopen => ?_
    cases opened with
    | mk label identity =>
      cases holdsKey path _ hopen with
      | intro hread hopen => exact ⟨hread, rfl⟩
  case certificates =>
    refine Store.rel_of_openIf htrust fun path opened hopen => ?_
    cases Store.openTrust_eq_ok_iff.mp hopen with
    | intro hread => exact hread
  case trusted =>
    intro path configured
    rw [configured] at htrust
    cases Store.openIf_eq_ok_iff.mp htrust with
    | some hopen =>
      cases Store.openTrust_eq_ok_iff.mp hopen with
      | @intro text certificates hread hbundle => exact ⟨_, certificates, hread, hbundle, rfl⟩
  case untrusting =>
    intro unconfigured
    rw [unconfigured] at htrust
    cases htrust
    rfl

theorem exists_secure_iff (h : settings.useSsl = true) :
    (∃ transport, establish formats files settings = .ok (.secure transport)) ↔
      KeyReady formats files settings ∧ AnchorsReady formats files settings := by
  rw [keyReady_iff, anchorsReady_iff]
  constructor
  · rintro ⟨transport, established⟩
    obtain ⟨key?, trust?, hkey, htrust, -⟩ := (establish_eq_ok_iff h).mp established
    exact ⟨⟨key?, hkey⟩, ⟨trust?, htrust⟩⟩
  · rintro ⟨⟨key?, hkey⟩, ⟨trust?, htrust⟩⟩
    exact ⟨_, (establish_eq_ok_iff h).mpr ⟨key?, trust?, hkey, htrust, rfl⟩⟩

/-- A transport fails only with encryption, and only over a store. -/
theorem establish_failsOnly (formats : StoreFormats) (files : Files)
    (settings : ConnectionSettings) :
    FailsOnly (fun error => settings.useSsl = true ∧ error.OfStore)
      (establish formats files settings) := by
  intro error failed
  cases secured : settings.useSsl with
  | false =>
    rw [establish_of_plain secured] at failed
    cases failed
  | true =>
    cases (error_iff_fault secured error).mp failed with
    | key => exact ⟨rfl, .storeUnusable ..⟩
    | anchors => exact ⟨rfl, .storeUnusable ..⟩

/-- The stores that are configured are all that is read. -/
theorem establish_congr {other : Files}
    (same : ∀ path, settings.keyStore? = some path ∨ settings.trustStore? = some path →
      files.readBytes path = other.readBytes path) :
    establish formats files settings = establish formats other settings := by
  have keys : ∀ path ∈ settings.keyStore?,
      Store.openKey formats files path settings.keyStorePassword? =
        Store.openKey formats other path settings.keyStorePassword? :=
    fun path configured => Store.openKey_congr (same path (.inl configured)) _
  have anchors : ∀ path ∈ settings.trustStore?,
      Store.openTrust formats files path = Store.openTrust formats other path :=
    fun path configured => Store.openTrust_congr (same path (.inr configured))
  rw [establish, establish, Store.openIf_congr keys, Store.openIf_congr anchors]

/-- Encryption is never given up, whatever the formats of the stores and the settings are. -/
theorem guarded_establish (formats : StoreFormats) (settings : ConnectionSettings) :
    Guarded formats settings fun files => establish formats files settings := by
  constructor
  case plain_iff =>
    intro files
    constructor
    · intro plain
      cases secured : settings.useSsl with
      | false => rfl
      | true =>
        obtain ⟨key?, trust?, -, -, hmade⟩ := (establish_eq_ok_iff secured).mp plain
        cases hmade
    · exact establish_of_plain
  case secured =>
    intro secured files
    cases result : establish formats files settings with
    | error error => exact .inl ⟨error, rfl⟩
    | ok transport =>
      obtain ⟨key?, trust?, -, -, rfl⟩ := (establish_eq_ok_iff secured).mp result
      exact .inr ⟨_, rfl⟩
  case unread =>
    intro h files other
    exact (establish_of_plain h).trans (establish_of_plain h).symm
  case confined => exact fun files other same => establish_congr same
  case secure_iff => exact fun h files => exists_secure_iff h
  case carries =>
    intro files transport established
    cases secured : settings.useSsl with
    | false =>
      rw [establish_of_plain secured] at established
      cases established
    | true => exact carries_of_establish secured established
  case error_iff => exact fun h files => error_iff_fault h

end Transport

end BrokerWiring
