import BrokerWiring.Proofs.Property.Log
import BrokerWiring.Proofs.Settings.Forms

/-!
# Binding undoes rendering

Settings are rendered as properties by writing the text of every field that is set at the key of the
field (`BrokerSettings.Renders`), and all settings can be (`renders_rendering`). The order does not
count, nor how a key is spelled, nor what is written at other keys; binding gives the settings back
(`bind_of_renders`).
-/

namespace BrokerWiring

open Property (canonicalKey)
open Settings (Scoped fullKey)

/-! ## Fields -/

/-- What is written for a field. -/
inductive FieldValue where
  | text (value : String)
  | number (n : Nat)
  | flag (b : Bool)
  deriving Repr, DecidableEq

/-- How a value is written: a text as it is, a number in decimal digits, a flag in any mixture of
letter cases. -/
def FieldValue.WrittenAs : FieldValue → String → Prop
  | .text value, written => written = value
  | .number n, written => written = Nat.repr n
  | .flag b, written => Text.IsWord written (if b then "true" else "false")

instance (value : FieldValue) (written : String) : Decidable (value.WrittenAs written) :=
  match value with
  | .text value => inferInstanceAs (Decidable (written = value))
  | .number n => inferInstanceAs (Decidable (written = Nat.repr n))
  | .flag b => inferInstanceAs (Decidable (Text.IsWord written (if b then "true" else "false")))

/-- The fields by their keys; one that is optional may have no value. -/
def BrokerSettings.fields (settings : BrokerSettings) : List (String × Option FieldValue) :=
  let connection := settings.connection
  let listener := settings.listener
  [("host", some (.text connection.host)),
    ("port", some (.number connection.port.toNat)),
    ("username", some (.text connection.username)),
    ("password", some (.text connection.password)),
    ("virtual_host", some (.text connection.virtualHost)),
    ("dynamic", some (.flag settings.dynamic)),
    ("requested_heartbeat", some (.number connection.heartbeat.toNat)),
    ("ssl.enabled", some (.flag connection.useSsl)),
    ("ssl.key_store", connection.keyStore?.map .text),
    ("ssl.key_store_password", connection.keyStorePassword?.map .text),
    ("ssl.trust_store", connection.trustStore?.map .text),
    ("ssl.trust_store_password", connection.trustStorePassword?.map .text),
    ("listener.auto_startup", some (.flag listener.autoStartup)),
    ("listener.acknowledge_mode", some (.text listener.acknowledgeMode.word)),
    ("listener.concurrency", listener.concurrency?.map fun n => .number n.toNat),
    ("listener.max_concurrency", listener.maxConcurrency?.map fun n => .number n.toNat),
    ("listener.prefetch", listener.prefetch?.map fun n => .number n.toNat),
    ("listener.transaction_size", listener.transactionSize?.map fun n => .number n.toNat)]

/-- Every known key has its field. -/
theorem BrokerSettings.map_fst_fields (settings : BrokerSettings) :
    settings.fields.map (·.1) = Settings.knownKeys := rfl

/-- A log of insertions renders settings below a scope. -/
structure BrokerSettings.Renders (settings : BrokerSettings) (scope : String)
    (log : List (String × String)) : Prop where
  /-- Every field that is set is written, under some spelling of its key. -/
  complete : ∀ field ∈ settings.fields, field.2.isSome →
    ∃ pair ∈ log, canonicalKey pair.1 = canonicalKey (fullKey scope field.1)
  /-- What is written at the key of a field is the value of the field. -/
  sound : ∀ field ∈ settings.fields, ∀ pair ∈ log,
    canonicalKey pair.1 = canonicalKey (fullKey scope field.1) →
      ∃ value ∈ field.2, value.WrittenAs pair.2

/-! ## Every settings can be rendered -/

/-- The plain way to write a value. -/
def FieldValue.plain : FieldValue → String
  | .text value => value
  | .number n => Nat.repr n
  | .flag b => if b then "true" else "false"

theorem FieldValue.writtenAs_plain (value : FieldValue) : value.WrittenAs value.plain := by
  cases value with
  | text value => rfl
  | number n => rfl
  | flag b => exact List.forall₂_same.mpr fun _ _ => .inl rfl

/-- The fields that are set, written plainly at their keys. -/
def BrokerSettings.rendering (settings : BrokerSettings) (scope : String) :
    List (String × String) :=
  settings.fields.filterMap fun field =>
    field.2.map fun value => (fullKey scope field.1, value.plain)

/-- A scope that is not empty in relaxed form stands in front of its keys. -/
theorem Settings.fullKey_of_filled {scope : String} (h : canonicalKey scope ≠ "") (key : String) :
    fullKey scope key = scope ++ "." ++ key := by
  have filled : ¬scope.isEmpty = true := by
    intro empty
    rw [String.isEmpty_iff] at empty
    exact h (by rw [empty]; rfl)
  rw [fullKey, if_neg filled]

/-- A scope in front of keys tells no more of them apart and no fewer. -/
theorem Settings.canonicalKey_fullKey_inj {scope key other : String}
    (h : canonicalKey (fullKey scope key) = canonicalKey (fullKey scope other)) :
    canonicalKey key = canonicalKey other := by
  rw [fullKey, fullKey] at h
  split at h
  · exact h
  · have h := congrArg String.toList h
    rw [Property.toList_canonicalKey_below, Property.toList_canonicalKey_below] at h
    exact String.toList_inj.mp ((List.cons_inj_right _).mp (List.append_cancel_left h))

/-- No two known keys are spellings of each other. -/
theorem Settings.nodup_canonicalKey_knownKeys :
    (Settings.knownKeys.map canonicalKey).Nodup := by
  decide +kernel

/-- No two fields have the same key up to spelling. -/
theorem BrokerSettings.eq_of_canonicalKey {settings : BrokerSettings} {scope : String}
    {field other : String × Option FieldValue} (hfield : field ∈ settings.fields)
    (hother : other ∈ settings.fields)
    (h : canonicalKey (fullKey scope field.1) = canonicalKey (fullKey scope other.1)) :
    field = other := by
  have distinct := Settings.nodup_canonicalKey_knownKeys
  rw [← settings.map_fst_fields, List.map_map] at distinct
  exact List.inj_on_of_nodup_map distinct hfield hother (Settings.canonicalKey_fullKey_inj h)

theorem BrokerSettings.renders_rendering (settings : BrokerSettings) (scope : String) :
    settings.Renders scope (settings.rendering scope) := by
  constructor
  case complete =>
    rintro ⟨key, value?⟩ hfield hset
    obtain ⟨value, rfl⟩ := Option.isSome_iff_exists.mp hset
    exact ⟨_, List.mem_filterMap.mpr ⟨_, hfield, rfl⟩, rfl⟩
  case sound =>
    intro field hfield pair hpair hkey
    obtain ⟨other, hother, hwritten⟩ := List.mem_filterMap.mp hpair
    obtain ⟨value, hvalue, rfl⟩ := Option.map_eq_some_iff.mp hwritten
    obtain rfl := eq_of_canonicalKey hother hfield hkey
    exact ⟨value, hvalue, value.writtenAs_plain⟩

namespace Settings

/-- The properties of a scope show settings: at the key of each field there is its value, and
nothing if it has none. -/
def Scoped.Shows (source : Scoped) (settings : BrokerSettings) : Prop :=
  ∀ field ∈ settings.fields, Option.Rel FieldValue.WrittenAs field.2 (source.raw? field.1)

variable {source : Scoped} {key : String}

/-! ## Reading below a scope -/

/-- The value below a scope is that of the full key. -/
theorem raw?_below (set : PropertySet) {scope : String}
    (hscope : scope = "" ∨ canonicalKey scope ≠ "") (key : String) :
    (below set scope).raw? key = set.get? (fullKey scope key) := by
  rw [Scoped.raw?, below]
  rcases hscope with rfl | hscope
  · rw [PropertySet.subset_of_empty rfl]
    rfl
  · rw [PropertySet.get?_subset set hscope, fullKey_of_filled hscope]

/-- A rendering shows what it renders, since the latest pair of a key is one of its pairs. -/
theorem shows_of_renders {settings : BrokerSettings} {scope : String}
    {log : List (String × String)} (hscope : scope = "" ∨ canonicalKey scope ≠ "")
    (h : settings.Renders scope log) :
    (below (PropertySet.empty.insertAll log) scope).Shows settings := by
  intro field hfield
  rw [raw?_below _ hscope, PropertySet.get?_insertAll]
  cases hlatest : PropertySet.latest? log (fullKey scope field.1) with
  | some pair =>
    obtain ⟨value, hvalue, hwritten⟩ := h.sound field hfield pair
      (PropertySet.mem_of_latest? hlatest) (PropertySet.canonicalKey_of_latest? hlatest)
    rw [Option.mem_def.mp hvalue]
    exact .some hwritten
  | none =>
    -- If the field had a value, some pair would be there for its key.
    cases hvalue : field.2 with
    | none => exact .none
    | some value =>
      obtain ⟨pair, hpair, hkey⟩ := h.complete field hfield (by rw [hvalue]; rfl)
      obtain ⟨latest, hfound⟩ := PropertySet.exists_latest? hpair hkey
      rw [hfound] at hlatest
      cases hlatest

/-- A text is there as it was written. -/
theorem Scoped.raw?_of_rel {value? : Option String}
    (h : Option.Rel FieldValue.WrittenAs (value?.map .text) (source.raw? key)) :
    source.raw? key = value? := by
  generalize source.raw? key = found at h ⊢
  cases value? with
  | none =>
    cases h
    rfl
  | some value =>
    cases h with
    | some hwritten => exact congrArg some hwritten

/-- A value is read back if its form reads every text that it may be written as. -/
theorem Scoped.read_of_rel {α : Type} {form : String → Except String α} {value : α → FieldValue}
    (hform : ∀ a written, (value a).WrittenAs written → form written = .ok a) {a? : Option α}
    (h : Option.Rel FieldValue.WrittenAs (a?.map value) (source.raw? key)) :
    source.read form key = .ok a? := by
  rw [read]
  generalize source.raw? key = found at h ⊢
  cases a? with
  | none =>
    cases h
    rfl
  | some a =>
    cases h with
    | some hwritten => simp [hform a _ hwritten]

theorem Scoped.read_short {n? : Option UInt16}
    (h : Option.Rel FieldValue.WrittenAs (n?.map fun n => .number n.toNat) (source.raw? key)) :
    source.read shortForm key = .ok n? :=
  read_of_rel (fun n _ hwritten => hwritten ▸ shortForm_repr n) h

theorem Scoped.read_long {n? : Option UInt32}
    (h : Option.Rel FieldValue.WrittenAs (n?.map fun n => .number n.toNat) (source.raw? key)) :
    source.read longForm key = .ok n? :=
  read_of_rel (fun n _ hwritten => hwritten ▸ longForm_repr n) h

theorem Scoped.read_flag {b? : Option Bool}
    (h : Option.Rel FieldValue.WrittenAs (b?.map .flag) (source.raw? key)) :
    source.read flagForm key = .ok b? := by
  refine read_of_rel (fun b written hwritten => ?_) h
  exact flagForm_of_isWord hwritten

theorem Scoped.read_mode {mode? : Option AcknowledgeMode}
    (h : Option.Rel FieldValue.WrittenAs (mode?.map fun mode => .text mode.word)
      (source.raw? key)) : source.read modeForm key = .ok mode? :=
  read_of_rel (fun mode _ hwritten => hwritten ▸ modeForm_word mode) h

theorem normalizeVirtualHost_of_ne {name : String} (h : name ≠ "") :
    normalizeVirtualHost (some name) = name := by
  rw [normalizeVirtualHost, if_neg (by rwa [String.isEmpty_iff])]

/-- From properties that show settings the settings of the connection are read. -/
theorem connectionOf_of_shows {settings : BrokerSettings} (h : source.Shows settings)
    (hhost : settings.connection.virtualHost ≠ "") :
    connectionOf source = .ok settings.connection := by
  simp only [Scoped.Shows, BrokerSettings.fields, List.forall_mem_cons] at h
  obtain ⟨host, port, username, password, virtualHost, -, heartbeat, useSsl, keyStore,
    keyStorePassword, trustStore, trustStorePassword, -⟩ := h
  have host : source.raw? "host" = some settings.connection.host := Scoped.raw?_of_rel host
  have username : source.raw? "username" = some settings.connection.username :=
    Scoped.raw?_of_rel username
  have password : source.raw? "password" = some settings.connection.password :=
    Scoped.raw?_of_rel password
  have virtualHost : source.raw? "virtual_host" = some settings.connection.virtualHost :=
    Scoped.raw?_of_rel virtualHost
  have port : source.read shortForm "port" = .ok (some settings.connection.port) :=
    Scoped.read_short port
  have useSsl : source.read flagForm "ssl.enabled" = .ok (some settings.connection.useSsl) :=
    Scoped.read_flag useSsl
  have heartbeat :
      source.read shortForm "requested_heartbeat" = .ok (some settings.connection.heartbeat) :=
    Scoped.read_short heartbeat
  rw [connectionOf, port, useSsl, heartbeat, host, username, password, virtualHost,
    Scoped.raw?_of_rel keyStore, Scoped.raw?_of_rel keyStorePassword,
    Scoped.raw?_of_rel trustStore, Scoped.raw?_of_rel trustStorePassword,
    normalizeVirtualHost_of_ne hhost]
  rfl

/-- The settings of listeners are read from them too. -/
theorem listenerOf_of_shows {settings : BrokerSettings} (h : source.Shows settings) :
    listenerOf source = .ok settings.listener := by
  simp only [Scoped.Shows, BrokerSettings.fields, List.forall_mem_cons] at h
  obtain ⟨-, -, -, -, -, -, -, -, -, -, -, -, autoStartup, acknowledgeMode, concurrency,
    maxConcurrency, prefetch, transactionSize, -⟩ := h
  have autoStartup :
      source.read flagForm "listener.auto_startup" = .ok (some settings.listener.autoStartup) :=
    Scoped.read_flag autoStartup
  have acknowledgeMode : source.read modeForm "listener.acknowledge_mode" =
      .ok (some settings.listener.acknowledgeMode) := Scoped.read_mode acknowledgeMode
  rw [listenerOf, autoStartup, acknowledgeMode, Scoped.read_long concurrency,
    Scoped.read_long maxConcurrency, Scoped.read_short prefetch,
    Scoped.read_long transactionSize]
  rfl

theorem read_dynamic_of_shows {settings : BrokerSettings} (h : source.Shows settings) :
    source.read flagForm "dynamic" = .ok (some settings.dynamic) := by
  refine Scoped.read_flag (h ("dynamic", some (.flag settings.dynamic)) ?_)
  simp [BrokerSettings.fields]

end Settings

/-- Binding undoes rendering: whatever is written at other keys, in any order and spelling. -/
theorem BrokerSettings.bind_of_renders {settings : BrokerSettings} {scope : String}
    {log : List (String × String)} (hhost : settings.connection.virtualHost ≠ "")
    (hscope : scope = "" ∨ canonicalKey scope ≠ "") (h : settings.Renders scope log) :
    BrokerSettings.bind (PropertySet.empty.insertAll log) scope = .ok settings := by
  have shown := Settings.shows_of_renders hscope h
  rw [bind, Settings.connectionOf_of_shows shown hhost, Settings.listenerOf_of_shows shown]
  simp only [Settings.read_dynamic_of_shows shown]
  rfl

namespace Sample

/-- Settings with some of the optional fields. -/
def settings : BrokerSettings where
  connection :=
    { host := "rabbit", port := 65535, virtualHost := "/orders", useSsl := true
      keyStore? := some " key.p12", heartbeat := 60 }
  listener := { autoStartup := false, acknowledgeMode := .manual, concurrency? := some 4294967295 }
  dynamic := false

/-- The settings below a scope, in mixed order and spelling, with a property that is not known. -/
def rendering : List (String × String) :=
  [("m-q.listener.autoStartup", "False"), ("mq.dynamic", "FALSE"), ("MQ.VIRTUAL-HOST", "/orders"),
    ("mq.port", "65535"), ("mq.user_name", "guest"), ("mq.password", "guest"),
    ("mq.ssl.keyStore", " key.p12"), ("mq.ssl.enabled", "tRuE"), ("mq.requestedHeartbeat", "60"),
    ("mq.host", "rabbit"), ("mq.vhost", "/other"), ("mq.listener.acknowledgemode", "manual"),
    ("mq.listener.concurrency", "4294967295")]

end Sample

theorem bind_renders_sample :
    Sample.settings.connection.virtualHost ≠ "" ∧ canonicalKey "mq" ≠ "" ∧
      Sample.settings.Renders "mq" Sample.rendering ∧
        BrokerSettings.bind (PropertySet.empty.insertAll Sample.rendering) "mq" =
          .ok Sample.settings := by
  have hhost : Sample.settings.connection.virtualHost ≠ "" := by decide
  have hscope : canonicalKey "mq" ≠ "" := by decide +kernel
  have h : Sample.settings.Renders "mq" Sample.rendering :=
    ⟨by decide +kernel, by decide +kernel⟩
  exact ⟨hhost, hscope, h, BrokerSettings.bind_of_renders hhost (.inr hscope) h⟩

end BrokerWiring
