import BrokerWiring.Proofs.Settings.Secrecy
import BrokerWiring.Proofs.Wiring.Faults
import BrokerWiring.Proofs.Wiring.Primary

/-!
# Passwords stay out of what is wired

A wiring without declarations fails just where its transport does, and else it has the standard
components and a connection factory for the settings and the transport
(`Configuration.agree_establish`). So the passwords have a part in it only through the transport,
and there the one of the key store alone, which has to open it
(`Transport.establish_of_redacted`). Unless one is opened, configurations that agree but for the
passwords come to the same error or to registries that look alike (`looksAlike_of_agreesOpenly`).
-/

namespace BrokerWiring

open Outcome
open Property (canonicalKey)

/-! ## Transports -/

/-- Without a key store to open, a transport does not hang on the passwords. -/
theorem Transport.establish_of_redacted {formats : StoreFormats} {files : Files}
    {settings other : ConnectionSettings} (same : settings.redacted = other.redacted)
    (unlocked : settings.useSsl = false ∨ settings.keyStore? = none) :
    establish formats files settings = establish formats files other := by
  have useSsl : settings.useSsl = other.useSsl := congrArg (·.useSsl) same
  have keyStore : settings.keyStore? = other.keyStore? := congrArg (·.keyStore?) same
  have trustStore : settings.trustStore? = other.trustStore? := congrArg (·.trustStore?) same
  unfold establish
  rw [← useSsl, ← keyStore, ← trustStore]
  -- Either no store is opened at all, or only the trust store, which has no password here.
  rcases unlocked with plain | keyless
  · rw [plain]
    rfl
  · rw [keyless]
    rfl

/-- A connection factory in diagnostics shows no password of its settings. -/
theorem ConnectionFactory.diagnostic_of_redacted {settings other : ConnectionSettings}
    (same : settings.redacted = other.redacted) (transport : Transport) :
    (cachingFor settings transport).diagnostic = (cachingFor other transport).diagnostic := by
  have host : settings.host = other.host := congrArg (·.host) same
  have port : settings.port = other.port := congrArg (·.port) same
  have virtualHost : settings.virtualHost = other.virtualHost := congrArg (·.virtualHost) same
  unfold diagnostic cachingFor
  dsimp only
  rw [host, port, virtualHost]

/-! ## Wirings without declarations -/

/-- An entry as it is listed: its name, its role and its origin. -/
def Entry.listed (entry : Entry) : String × Role × Origin :=
  (entry.name, entry.component.role, entry.origin)

/-- What a registry lists, in order. -/
def Registry.listing (registry : Registry) : List (String × Role × Origin) :=
  registry.entries.map Entry.listed

/-- The roles that are filled if nothing is declared: all but that of converters, and that of admins
only with dynamic topology. -/
def Role.standards (dynamic : Bool) : List Role :=
  order.filter fun role => role ≠ .messageConverter ∧ ¬Roster.Withheld dynamic role

/-- Without declarations the standard components of these roles are due. -/
theorem Roster.all_nil (dynamic : Bool) :
    all dynamic [] = (Role.standards dynamic).map .standard := by
  cases dynamic <;> rfl

namespace Registry

/-- What persists is listed as before. -/
theorem listed_of_persists {before after : List Entry}
    (h : List.Forall₂ Entry.Persists before after) :
    after.map Entry.listed = before.map Entry.listed := by
  induction h with
  | nil => rfl
  | @cons old new _ _ hentry _ ih =>
    have same : new.listed = old.listed := by
      unfold Entry.listed
      rw [hentry.name, hentry.component.role_eq, hentry.origin]
    rw [List.map_cons, List.map_cons, ih, same]

/-- Standard components are listed under the conventional names of their roles. -/
theorem listed_of_fulfilled {calls : List (Definition × Registry)} {roles : List Role}
    {entries : List Entry}
    (h : List.Forall₂ (Due.Fulfilled calls) (roles.map .standard) entries) :
    entries.map Entry.listed =
      roles.map fun role => (role.conventionalName, role, Origin.standard) := by
  induction roles generalizing entries with
  | nil =>
    cases h
    rfl
  | cons role rest ih =>
    cases h with
    | cons hentry hrest =>
      cases hentry with
      | standard hrole => rw [List.map_cons, List.map_cons, ih hrest, Entry.listed, hrole]

/-- A registry is the standard one for settings and a transport. -/
structure StandardFor (settings : BrokerSettings) (transport : Transport) (registry : Registry) :
    Prop where
  listing_eq : registry.listing =
    (Role.standards settings.dynamic).map fun role => (role.conventionalName, role, .standard)
  connectionFactory_eq : registry.connectionFactory =
    .ok ⟨.standard .connectionFactory, .cachingFor settings.connection transport⟩

end Registry

namespace Configuration

variable {configuration : Configuration} {settings : BrokerSettings} {transport : Transport}

/-- Without declarations no constructor runs. -/
theorem calls_resolve_nil
    (bound : BrokerSettings.bind configuration.properties configuration.scope = .ok settings) :
    (configuration.resolve (.ofDeclarations [])).calls = [] := by
  obtain ⟨outcome, course, -⟩ := course_resolve [] bound
  have ran := course.map_fst_calls_prefix
  rw [Roster.filterMap_definition?_all] at ran
  have none_callable : Roster.callable settings.dynamic [] = [] := by
    cases settings.dynamic <;> rfl
  rw [none_callable, List.prefix_nil, List.map_eq_nil_iff] at ran
  exact ran

/-- With a transport, a wiring without declarations comes to the standard registry. -/
theorem standardFor_of_establish
    (bound : BrokerSettings.bind configuration.properties configuration.scope = .ok settings)
    (established : configuration.establish settings.connection = .ok transport) :
    ∃ registry, (configuration.resolve (.ofDeclarations [])).outcome = .ok registry ∧
      registry.StandardFor settings transport := by
  have distinct : ((Roster.all settings.dynamic []).map Due.name).Nodup := by
    cases settings.dynamic <;> decide
  obtain ⟨registry, resolved⟩ := (exists_outcome_iff_nodup bound
    (fun _ => ⟨transport, established⟩) (by simp [calls_resolve_nil bound])).mpr distinct
  refine ⟨registry, resolved, ?_⟩
  obtain ⟨settings', last, bound', course, rfl⟩ := exists_course_of_resolve resolved
  cases bound.symm.trans bound'
  constructor
  case listing_eq =>
    have fulfilled := course.entries_fulfilled
    rw [Roster.all_nil] at fulfilled
    exact (Registry.listed_of_persists last.persists_handOver).trans
      (Registry.listed_of_fulfilled fulfilled)
  case connectionFactory_eq =>
    have due : Roster.forRole settings.dynamic [] .connectionFactory =
        [.standard .connectionFactory] := rfl
    obtain ⟨seen, made, hmade, hfirst⟩ := course.exists_standard due
    -- Whatever it saw, the connection factory was made of the settings and the transport.
    obtain ⟨transport', htransport, hmade⟩ := bind_eq_ok_iff.mp hmade
    have htransport : configuration.establish settings.connection = .ok transport' := htransport
    cases established.symm.trans htransport
    cases hmade
    have kept : last.handOver.first? .connectionFactory = last.first? .connectionFactory :=
      last.first?_handOver (by decide)
    unfold Registry.connectionFactory Registry.lookup
    rw [kept, hfirst]
    rfl

/-- A wiring without declarations fails just if its transport does, and with the same error. -/
theorem agree_establish
    (bound : BrokerSettings.bind configuration.properties configuration.scope = .ok settings) :
    Agree (fun transport registry => registry.StandardFor settings transport)
      (configuration.establish settings.connection)
      (configuration.resolve (.ofDeclarations [])).outcome := by
  cases established : configuration.establish settings.connection with
  | error error =>
    have undeclared : Roster.definitionsFor [] .connectionFactory = [] := rfl
    rw [(resolve_of_unready bound undeclared established).2]
    exact .error error
  | ok transport =>
    obtain ⟨registry, resolved, standard⟩ := standardFor_of_establish bound established
    rw [resolved]
    exact .ok standard

end Configuration

/-! ## Two configurations -/

/-- Two registries show the same: they list the same, and their connection factories are the same in
diagnostics. -/
structure Registry.LooksLike (registry other : Registry) : Prop where
  listing_eq : registry.listing = other.listing
  diagnostic_eq : ∃ factory counterpart, registry.connectionFactory = .ok factory ∧
    other.connectionFactory = .ok counterpart ∧
    factory.value.diagnostic = counterpart.value.diagnostic

/-- Standard registries for settings that differ in passwords alone look alike. -/
theorem Registry.StandardFor.looksLike {settings settings' : BrokerSettings}
    {transport : Transport} {registry other : Registry}
    (h : registry.StandardFor settings transport)
    (hother : other.StandardFor settings' transport)
    (same : settings.redacted = settings'.redacted) : registry.LooksLike other where
  listing_eq := by
    have dynamic : settings.dynamic = settings'.dynamic := congrArg (·.dynamic) same
    rw [h.listing_eq, hother.listing_eq, dynamic]
  diagnostic_eq := ⟨_, _, h.connectionFactory_eq, hother.connectionFactory_eq,
    ConnectionFactory.diagnostic_of_redacted (congrArg (·.connection) same) transport⟩

/-- Two configurations whose settings agree up to the passwords, and which make the same transports
of them, come to the same error or to registries that look alike. -/
theorem Configuration.agree_resolve {configuration counterpart : Configuration}
    (agree : Agree (fun a b => a.redacted = b.redacted)
      (BrokerSettings.bind configuration.properties configuration.scope)
      (BrokerSettings.bind counterpart.properties counterpart.scope))
    (transports : ∀ a b : BrokerSettings, a.redacted = b.redacted →
      BrokerSettings.bind configuration.properties configuration.scope = .ok a →
        configuration.establish a.connection = counterpart.establish b.connection) :
    Agree Registry.LooksLike (configuration.resolve (.ofDeclarations [])).outcome
      (counterpart.resolve (.ofDeclarations [])).outcome := by
  generalize bound :
    BrokerSettings.bind configuration.properties configuration.scope = outcome at agree
  generalize bound' :
    BrokerSettings.bind counterpart.properties counterpart.scope = outcome' at agree
  cases agree with
  | error error =>
    rw [resolve_of_unbound _ bound, resolve_of_unbound _ bound']
    exact .error error
  | @ok settings settings' same =>
    -- Both wirings agree with the one transport, so they agree with each other.
    have first := (agree_establish bound).symm
    have second := agree_establish bound'
    rw [transports settings settings' same bound] at first
    exact first.trans second fun _ _ _ h hother => h.looksLike hother same

/-- The passwords of a scope stay out of what is shown. Two property sets that agree at all other
keys bind to the same error, or to settings that have the same public form and differ in passwords
alone. And unless a key store is opened, wirings without declarations come to the same error, or to
registries that look alike. -/
theorem looksAlike_of_agreesOpenly {scope : String} (hscope : canonicalKey scope ≠ "")
    {set other : PropertySet} (h : set.AgreesOpenly scope other) (formats : StoreFormats)
    (files : Files) :
    Agree (fun a b => a.redacted = b.redacted ∧ a.json.text = b.json.text)
        (BrokerSettings.bind set scope) (BrokerSettings.bind other scope) ∧
      ((∀ settings, BrokerSettings.bind set scope = .ok settings →
          settings.connection.useSsl = false ∨ settings.connection.keyStore? = none) →
        Agree Registry.LooksLike
          ((Configuration.ofStores set scope formats files).resolve (.ofDeclarations [])).outcome
          ((Configuration.ofStores other scope formats files).resolve
            (.ofDeclarations [])).outcome) := by
  have agree := BrokerSettings.bind_agree hscope h
  constructor
  · refine agree.imp fun a b same => ⟨same, ?_⟩
    rw [← a.json_redacted, same, b.json_redacted]
  · intro unlocked
    refine Configuration.agree_resolve agree ?_
    intro a b same bound
    exact Transport.establish_of_redacted (congrArg (·.connection) same) (unlocked a bound)

namespace Sample

/-- Properties of a scope, with two passwords. The last one is spelled in another way. -/
def guarded (password trustPassword : String) : PropertySet :=
  (((PropertySet.empty.insert "mq.host" "rabbit").insert "mq.ssl.enabled" "true").insert
    "mq.password" password).insert "MQ.ssl.trust-storePassword" trustPassword

end Sample

/-- Two sets with different passwords are both wired, and the registries look alike. -/
theorem looksAlike_sample :
    canonicalKey "mq" ≠ "" ∧
      (Sample.guarded "one" "1").AgreesOpenly "mq" (Sample.guarded "two" "2") ∧
      Agree (fun a b => a.redacted = b.redacted ∧ a.json.text = b.json.text)
        (BrokerSettings.bind (Sample.guarded "one" "1") "mq")
        (BrokerSettings.bind (Sample.guarded "two" "2") "mq") ∧
      ∃ registry other,
        ((Configuration.ofStores (Sample.guarded "one" "1") "mq" .standard ⟨[], []⟩).resolve
          (.ofDeclarations [])).outcome = .ok registry ∧
        ((Configuration.ofStores (Sample.guarded "two" "2") "mq" .standard ⟨[], []⟩).resolve
          (.ofDeclarations [])).outcome = .ok other ∧
        registry.LooksLike other := by
  have hscope : canonicalKey "mq" ≠ "" := by decide +kernel
  have agree : (Sample.guarded "one" "1").AgreesOpenly "mq" (Sample.guarded "two" "2") := by
    refine .insert (.insert (.refl "mq" _) ⟨"password", ?_, ?_⟩ _ _)
      ⟨"ssl.trust_store_password", ?_, ?_⟩ _ _ <;> decide +kernel
  obtain ⟨bound, wired⟩ := looksAlike_of_agreesOpenly hscope agree .standard ⟨[], []⟩
  have keyless : ∀ settings, BrokerSettings.bind (Sample.guarded "one" "1") "mq" = .ok settings →
      settings.connection.useSsl = false ∨ settings.connection.keyStore? = none := by
    intro settings hsettings
    have computed : BrokerSettings.bind (Sample.guarded "one" "1") "mq" = .ok _ := rfl
    cases computed.symm.trans hsettings
    exact .inr rfl
  have resolved : ((Configuration.ofStores (Sample.guarded "one" "1") "mq" .standard
    ⟨[], []⟩).resolve (.ofDeclarations [])).outcome = .ok _ := rfl
  have resolved' : ((Configuration.ofStores (Sample.guarded "two" "2") "mq" .standard
    ⟨[], []⟩).resolve (.ofDeclarations [])).outcome = .ok _ := rfl
  have wired := wired keyless
  rw [resolved, resolved'] at wired
  refine ⟨hscope, agree, bound, _, _, resolved, resolved', ?_⟩
  cases wired with
  | ok looksLike => exact looksLike

end BrokerWiring
