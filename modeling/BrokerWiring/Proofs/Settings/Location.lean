import BrokerWiring.Proofs.Property.Selection
import BrokerWiring.Proofs.Settings.Grammar
import BrokerWiring.Proofs.Settings.Rendering

/-!
# Where a binding error points

An error names the key of the rejected value by the scope, as it was asked for, and the spelling
that the key has below it. Looked up in the whole set this key finds the rejected value, just for
the scopes that are empty or not empty in relaxed form (`locatesErrors_iff`). A scope of nothing but
hyphens and underscores selects from the root, and yet it is put in front of the key
(`unlocated_behind_hyphen`).
-/

namespace BrokerWiring

open Property (canonicalKey)
open Settings (addressed fullKey below)

/-- The key that a binding error names finds, in the whole set, the value that it rejects. -/
def PropertySet.LocatesErrors (set : PropertySet) (scope : String) : Prop :=
  ∀ key value reason, BrokerSettings.bind set scope = .error (.invalidValue key value reason) →
    set.get? key = some value

namespace Settings

variable {set : PropertySet} {scope : String}

/-- The scope in front of a key addresses what is below it, unless the scope is spelled and yet
empty in relaxed form. -/
theorem fullKey_eq_addressed (hscope : scope = "" ∨ canonicalKey scope ≠ "") (key : String) :
    fullKey scope key = addressed scope key := by
  rcases hscope with rfl | hscope
  · rfl
  · rw [fullKey_of_filled hscope, addressed, if_neg hscope]

/-- What has a value has a spelling. -/
theorem exists_spelling {key value : String} (h : set.get? key = some value) :
    ∃ spelling, set.sourceKey? key = some spelling := by
  obtain ⟨property, hfind, -⟩ := Option.map_eq_some_iff.mp h
  exact ⟨property.key, by rw [PropertySet.sourceKey?, hfind, Option.map_some]⟩

/-- The spelling of a key finds what the key finds. -/
theorem get?_spelling (h : set.Consistent) {key spelling value : String}
    (hvalue : set.get? key = some value) (hspelling : set.sourceKey? key = some spelling) :
    set.get? spelling = some value := by
  obtain ⟨property, hfind, rfl⟩ := Option.map_eq_some_iff.mp hspelling
  rw [PropertySet.get?, PropertySet.find?, PropertySet.canonicalKey_of_find? h hfind]
  exact hvalue

/-- An error is about a value that is set below the scope, and names it by the spelling there. -/
theorem exists_spelling_of_bind (h : set.Consistent) {key value reason : String}
    (hbind : BrokerSettings.bind set scope = .error (.invalidValue key value reason)) :
    ∃ spelling, key = fullKey scope spelling ∧
      set.get? (addressed scope spelling) = some value := by
  rcases (visits_bind set scope).fits_or_stops with ⟨-, settings, bound⟩ |
    ⟨_, typed, _, _, found, _, -, -, hfound, -, stopped⟩
  · rw [bound] at hbind
    cases hbind
  · simp only [Scoped.raw?, below] at hfound
    obtain ⟨spelling, hspelling⟩ := exists_spelling hfound
    simp only [stopped, Scoped.misfit, below, hspelling, Option.getD_some] at hbind
    obtain ⟨rfl, rfl, -⟩ := ConfigError.invalidValue.inj (Except.error.inj hbind)
    have hget := get?_spelling (h.subset scope) hfound hspelling
    refine ⟨spelling, rfl, ?_⟩
    rw [← raw?_addressed]
    simpa only [Scoped.raw?, below] using hget

/-- A port that is no number. -/
def Sample.noNumber : PropertySet := PropertySet.empty.insert "port" "x"

/-- The key of the port is reported behind a scope that selects from the root. -/
theorem bind_noNumber (root : canonicalKey scope = "") :
    BrokerSettings.bind Sample.noNumber scope =
      .error (.invalidValue (fullKey scope "port") "x" "invalid digit found in string") := by
  rw [BrokerSettings.bind, below, PropertySet.subset_of_empty root]
  rfl

/-- Nothing is found where a scope stands that counts for nothing, and yet is there. -/
theorem not_locatesErrors (spelled : scope ≠ "") (root : canonicalKey scope = "") :
    ¬Sample.noNumber.LocatesErrors scope := by
  intro locates
  have hget := locates _ _ _ (bind_noNumber root)
  have hkey : (canonicalKey (fullKey scope "port")).toList =
      '.' :: (canonicalKey "port").toList := by
    have behind : ¬scope.isEmpty = true := by rwa [String.isEmpty_iff]
    rw [fullKey, if_neg behind, Property.toList_canonicalKey_below, root]
    rfl
  have other : canonicalKey (fullKey scope "port") ≠ canonicalKey "port" := by
    intro same
    rw [same] at hkey
    exact absurd hkey List.ne_cons_self
  rw [PropertySet.get?, Sample.noNumber, PropertySet.find?_insert, if_neg other] at hget
  cases hget

end Settings

/-- A scope makes every error of every binding point at the rejected value just if it is empty or
not empty in relaxed form. Whatever the scope is, the error names it and a spelling below it at
which the whole set has the value. -/
theorem PropertySet.locatesErrors_iff (scope : String) :
    ((∀ set, Reachable set → set.LocatesErrors scope) ↔
        (scope = "" ∨ canonicalKey scope ≠ "")) ∧
      ∀ set, Reachable set → ∀ key value reason,
        BrokerSettings.bind set scope = .error (.invalidValue key value reason) →
          ∃ spelling, key = fullKey scope spelling ∧
            set.get? (addressed scope spelling) = some value := by
  refine ⟨⟨fun locates => ?_, fun hscope set reachable key value reason hbind => ?_⟩,
    fun set reachable _ _ _ hbind => Settings.exists_spelling_of_bind reachable.consistent hbind⟩
  · by_contra unlocated
    rw [not_or, not_not] at unlocated
    obtain ⟨spelled, root⟩ := unlocated
    exact Settings.not_locatesErrors spelled root (locates _ (Reachable.empty.insert _ _))
  · obtain ⟨spelling, rfl, found⟩ := Settings.exists_spelling_of_bind reachable.consistent hbind
    rw [Settings.fullKey_eq_addressed hscope]
    exact found

/-- The port of a scope with a hyphen is found by the key that is reported, as it was spelled. -/
theorem PropertySet.located_below_hyphen :
    BrokerSettings.bind (empty.insert "rabbit_mq.Port" "x") "Rabbit-MQ" =
        .error (.invalidValue "Rabbit-MQ.Port" "x" "invalid digit found in string") ∧
      (empty.insert "rabbit_mq.Port" "x").get? "Rabbit-MQ.Port" = some "x" := by
  have bound : BrokerSettings.bind (empty.insert "rabbit_mq.Port" "x") "Rabbit-MQ" =
      .error (.invalidValue "Rabbit-MQ.Port" "x" "invalid digit found in string") := by
    decide +kernel
  have filled : canonicalKey "Rabbit-MQ" ≠ "" := by decide +kernel
  exact ⟨bound, (locatesErrors_iff "Rabbit-MQ").1.mpr (.inr filled) _
    (Reachable.empty.insert _ _) _ _ _ bound⟩

/-- The port of a scope that is a hyphen is not found by the key that is reported. -/
theorem PropertySet.unlocated_behind_hyphen :
    Reachable (empty.insert "port" "x") ∧
      BrokerSettings.bind (empty.insert "port" "x") "-" =
        .error (.invalidValue "-.port" "x" "invalid digit found in string") ∧
      (empty.insert "port" "x").get? "-.port" = none ∧
      ¬(empty.insert "port" "x").LocatesErrors "-" := by
  have bound : BrokerSettings.bind (empty.insert "port" "x") "-" =
      .error (.invalidValue "-.port" "x" "invalid digit found in string") := by
    decide +kernel
  have lost : (empty.insert "port" "x").get? "-.port" = none := by decide +kernel
  refine ⟨Reachable.empty.insert _ _, bound, lost, fun locates => ?_⟩
  have found := locates _ _ _ bound
  rw [lost] at found
  cases found

end BrokerWiring
