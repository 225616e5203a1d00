import BrokerWiring.Proofs.Outcome
import BrokerWiring.Proofs.Settings.Rendering

/-!
# Passwords stay out of what is shown

Three of the known keys hold passwords. Two property sets that agree at all other keys
(`PropertySet.AgreesOpenly`) bind alike: they fail with the same error, which quotes no password, or
give settings that differ in the passwords alone (`bind_agree`). That holds however the passwords
are spelled, for no spelling of an open key is one of a secret key (`not_isSecret`). The public form
of settings is that of the settings without passwords (`json_redacted`).
-/

namespace BrokerWiring

open Outcome
open Property (canonicalKey)

/-! ## Redacted settings -/

/-- The settings of a connection with the passwords blotted out. -/
def ConnectionSettings.redacted (settings : ConnectionSettings) : ConnectionSettings :=
  { settings with password := "", keyStorePassword? := none, trustStorePassword? := none }

/-- All settings with the passwords blotted out. -/
def BrokerSettings.redacted (settings : BrokerSettings) : BrokerSettings :=
  { settings with connection := settings.connection.redacted }

/-- The public form shows nothing that is blotted out. -/
theorem BrokerSettings.json_redacted (settings : BrokerSettings) :
    settings.redacted.json = settings.json := rfl

/-! ## Secret and open keys -/

namespace Settings

/-- The keys that hold passwords, below the scope. -/
def secretKeys : List String :=
  ["password", "ssl.key_store_password", "ssl.trust_store_password"]

/-- The known keys that hold none. -/
def openKeys : List String := knownKeys.filter (· ∉ secretKeys)

/-- A key addresses a password of the scope. -/
def IsSecret (scope key : String) : Prop :=
  ∃ secret ∈ secretKeys, canonicalKey key = canonicalKey (fullKey scope secret)

/-- No open key is a secret one in another spelling. -/
theorem not_isSecret (scope : String) {key : String} (h : key ∈ openKeys) :
    ¬IsSecret scope (fullKey scope key) := by
  rintro ⟨secret, hsecret, same⟩
  obtain ⟨hknown, hopen⟩ := List.mem_filter.mp h
  have secrets_known : ∀ secret ∈ secretKeys, secret ∈ knownKeys := by decide
  obtain rfl : key = secret := List.inj_on_of_nodup_map nodup_canonicalKey_knownKeys hknown
    (secrets_known secret hsecret) (canonicalKey_fullKey_inj same)
  exact of_decide_eq_true hopen hsecret

end Settings

/-- Two property sets have the same property at every key that addresses no password of a scope,
with the same spelling and the same value. -/
def PropertySet.AgreesOpenly (scope : String) (set other : PropertySet) : Prop :=
  ∀ key, ¬Settings.IsSecret scope key → set.find? key = other.find? key

namespace PropertySet.AgreesOpenly

open Settings

variable {scope : String} {set other : PropertySet}

theorem refl (scope : String) (set : PropertySet) : set.AgreesOpenly scope set := fun _ _ => rfl

/-- Setting a password keeps the agreement, whatever it is set to. -/
theorem insert (h : set.AgreesOpenly scope other) {key : String} (secret : IsSecret scope key)
    (value value' : String) :
    (set.insert key value).AgreesOpenly scope (other.insert key value') := by
  intro asked shown
  have apart : canonicalKey asked ≠ canonicalKey key := by
    intro same
    obtain ⟨password, hpassword, hkey⟩ := secret
    exact shown ⟨password, hpassword, same.trans hkey⟩
  rw [find?_insert, find?_insert, if_neg apart, if_neg apart]
  exact h asked shown

end PropertySet.AgreesOpenly

/-! ## Reading open keys -/

namespace Settings

/-- Two scopes have the same properties at the open keys. -/
structure Scoped.Alike (source other : Scoped) : Prop where
  scope_eq : source.scope = other.scope
  find?_eq : ∀ key ∈ openKeys, source.properties.find? key = other.properties.find? key

namespace Scoped.Alike

variable {source other : Scoped}

theorem raw?_eq (h : source.Alike other) (key : String) (hkey : key ∈ openKeys) :
    source.raw? key = other.raw? key := by
  unfold raw? PropertySet.get?
  rw [h.find?_eq key hkey]

/-- What is read is the same, and so is the error that quotes the key and the value. -/
theorem read_eq (h : source.Alike other) {α : Type} (form : String → Except String α)
    (key : String) (hkey : key ∈ openKeys) : source.read form key = other.read form key := by
  have spelled : source.properties.sourceKey? key = other.properties.sourceKey? key := by
    unfold PropertySet.sourceKey?
    rw [h.find?_eq key hkey]
  unfold read misfit
  rw [h.raw?_eq key hkey, h.scope_eq, spelled]

end Scoped.Alike

/-- Sets that agree openly are alike below the scope. -/
theorem alike_below {scope : String} (hscope : canonicalKey scope ≠ "") {set other : PropertySet}
    (h : set.AgreesOpenly scope other) : (below set scope).Alike (below other scope) where
  scope_eq := rfl
  find?_eq := by
    intro key hkey
    have agree := h (fullKey scope key) (not_isSecret scope hkey)
    rw [fullKey_of_filled hscope] at agree
    show (set.subset scope).find? key = (other.subset scope).find? key
    rw [PropertySet.find?_subset set hscope, PropertySet.find?_subset other hscope, agree]

variable {source other : Scoped}

/-- The settings of a connection agree up to the passwords. -/
theorem connectionOf_agree (h : source.Alike other) :
    Agree (fun a b => a.redacted = b.redacted) (connectionOf source) (connectionOf other) := by
  unfold connectionOf
  refine (Agree.of_eq (h.read_eq shortForm "port" (by decide))).bind ?_
  rintro port? _ rfl
  refine (Agree.of_eq (h.read_eq flagForm "ssl.enabled" (by decide))).bind ?_
  rintro useSsl? _ rfl
  refine (Agree.of_eq (h.read_eq shortForm "requested_heartbeat" (by decide))).bind ?_
  rintro heartbeat? _ rfl
  -- What is left are the texts. The redaction takes the passwords out, and the others are open.
  refine .ok ?_
  rw [h.raw?_eq "host" (by decide), h.raw?_eq "username" (by decide),
    h.raw?_eq "virtual_host" (by decide), h.raw?_eq "ssl.key_store" (by decide),
    h.raw?_eq "ssl.trust_store" (by decide)]
  rfl

/-- The settings of listeners are the same. -/
theorem listenerOf_eq (h : source.Alike other) : listenerOf source = listenerOf other := by
  unfold listenerOf
  rw [h.read_eq flagForm "listener.auto_startup" (by decide),
    h.read_eq modeForm "listener.acknowledge_mode" (by decide),
    h.read_eq longForm "listener.concurrency" (by decide),
    h.read_eq longForm "listener.max_concurrency" (by decide),
    h.read_eq shortForm "listener.prefetch" (by decide),
    h.read_eq longForm "listener.transaction_size" (by decide)]

end Settings

/-- Sets that agree openly bind alike: with the same error, or up to the passwords. -/
theorem BrokerSettings.bind_agree {scope : String} (hscope : canonicalKey scope ≠ "")
    {set other : PropertySet} (h : set.AgreesOpenly scope other) :
    Agree (fun a b => a.redacted = b.redacted) (bind set scope) (bind other scope) := by
  have alike := Settings.alike_below hscope h
  unfold bind
  refine (Settings.connectionOf_agree alike).bind fun connection connection' hconnection => ?_
  refine (Agree.of_eq (Settings.listenerOf_eq alike)).bind ?_
  rintro listener _ rfl
  refine (Agree.of_eq (alike.read_eq Settings.flagForm "dynamic" (by decide))).bind ?_
  rintro dynamic? _ rfl
  exact .ok (congrArg (fun c => BrokerSettings.mk c listener (dynamic?.getD true)) hconnection)

end BrokerWiring
