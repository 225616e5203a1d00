import BrokerWiring.Proofs.Property.Log
import BrokerWiring.Settings.Binding

/-!
# What an environment sets below a scope

Variables are filtered by a scope before their properties are set, and properties are selected
below a scope afterwards. Each of the two has a condition of its own. For a scope that is not empty
in relaxed form they agree: the filter leaves out nothing that the selection would find. At the root
they do not: the selection takes everything there, and the filter only what begins with a dot, so
properties at the top are not read from variables at all (`selectsAll_iff`, `unread_at_root`).
-/

namespace BrokerWiring

namespace Property

/-- The key and the value that a variable sets, wherever the key lies. -/
def assignmentOf? (pair : String × String) : Option (String × String) :=
  if hasDoubleUnderscore pair.1.toList then some (variableKey pair.1, pair.2) else none

/-- What the variables of an environment set, in order. -/
def assignments (environment : List (String × String)) : List (String × String) :=
  environment.filterMap assignmentOf?

/-- Whether a canonical key lies below a scope. -/
def liesBelow (scope canonical : String) : Bool :=
  ((canonicalKey scope).toList ++ ['.']).isPrefixOf canonical.toList

theorem liesBelow_joined (scope key : String) :
    liesBelow scope (canonicalKey (scope ++ "." ++ key)) = true := by
  rw [liesBelow, toList_canonicalKey_below, List.isPrefixOf_iff_prefix]
  exact ⟨(canonicalKey key).toList, by simp⟩

/-- The filter of a scope keeps those assignments whose keys lie below it. -/
theorem map_variablesBelow (scope : String) (environment : List (String × String)) :
    ((variablesBelow scope environment).map fun v => (v.key, v.value)) =
      (assignments environment).filter fun pair => liesBelow scope (canonicalKey pair.1) := by
  rw [variablesBelow, assignments, List.map_filterMap, List.filter_filterMap]
  refine List.filterMap_congr fun pair _ => ?_
  unfold settingOf? assignmentOf?
  by_cases named : hasDoubleUnderscore pair.1.toList = true
  · rw [if_pos named, if_pos named, Option.filter_some]
    show Option.map _ (if liesBelow scope (canonicalKey (variableKey pair.1)) then _ else _) = _
    split
    · rfl
    · rfl
  · rw [if_neg named, if_neg named]
    rfl

end Property

namespace PropertySet

open Property (canonicalKey assignments liesBelow)

variable {scope : String}

/-- The properties that the variables of an environment set, in whatever scope they lie. -/
def ofVariables (environment : List (String × String)) : PropertySet :=
  empty.insertAll (assignments environment)

/-- An environment that is read for a scope answers to the keys below it as the whole one does, and
to no others. -/
theorem find?_ofEnvironment (scope : String) (environment : List (String × String))
    (key : String) :
    (ofEnvironment scope environment).find? key =
      if liesBelow scope (canonicalKey key) then (ofVariables environment).find? key else none := by
  rw [ofEnvironment, Property.map_variablesBelow, ofVariables, find?_insertAll, latest?_filter,
    find?_insertAll]
  split
  · rfl
  · rfl

/-- Below a scope that is not empty in relaxed form, the filter on variables loses nothing. -/
theorem subset_ofEnvironment (h : canonicalKey scope ≠ "")
    (environment : List (String × String)) :
    (ofEnvironment scope environment).subset scope = (ofVariables environment).subset scope := by
  have filtered : (ofEnvironment scope environment).Consistent := Consistent.empty.insertAll _
  have whole : (ofVariables environment).Consistent := Consistent.empty.insertAll _
  refine Consistent.ext (filtered.subset scope) (whole.subset scope) fun key => ?_
  rw [find?_subset _ h, find?_subset _ h, find?_ofEnvironment,
    if_pos (Property.liesBelow_joined scope key)]

/-- A scope that is empty in relaxed form has below it what begins with a dot. -/
theorem liesBelow_of_empty (h : canonicalKey scope = "") (canonical : String) :
    liesBelow scope canonical = true ↔ ['.'] <+: canonical.toList := by
  rw [liesBelow, h, List.isPrefixOf_iff_prefix]
  rfl

/-- At the root nothing is lost just if every variable sets a key that begins with a dot. -/
theorem ofEnvironment_eq_iff (h : canonicalKey scope = "")
    (environment : List (String × String)) :
    ofEnvironment scope environment = ofVariables environment ↔
      ∀ pair ∈ assignments environment, ['.'] <+: (canonicalKey pair.1).toList := by
  simp only [← liesBelow_of_empty h]
  constructor
  · intro same pair hpair
    -- The whole environment has the key of the pair, so the filter must have let it pass.
    obtain ⟨latest, hlatest⟩ := exists_latest? hpair rfl
    have found := find?_ofEnvironment scope environment pair.1
    rw [same, ofVariables, find?_insertAll, hlatest] at found
    by_contra outside
    rw [if_neg outside] at found
    cases found
  · intro all
    rw [ofEnvironment, Property.map_variablesBelow, List.filter_eq_self.mpr all, ofVariables]

/-- Reading an environment for a scope selects below it what the whole environment has there, just
if the scope is not empty in relaxed form or all keys begin with a dot; then the settings are those
of the whole environment too. -/
theorem selectsAll_iff (scope : String) (environment : List (String × String)) :
    ((ofEnvironment scope environment).subset scope = (ofVariables environment).subset scope ↔
      (canonicalKey scope = "" →
        ∀ pair ∈ assignments environment, ['.'] <+: (canonicalKey pair.1).toList)) ∧
    ((ofEnvironment scope environment).subset scope = (ofVariables environment).subset scope →
      BrokerSettings.bind (ofEnvironment scope environment) scope =
        BrokerSettings.bind (ofVariables environment) scope) := by
  constructor
  · by_cases root : canonicalKey scope = ""
    · rw [subset_of_empty root, subset_of_empty root, ofEnvironment_eq_iff root]
      exact ⟨fun all _ => all, fun all => all root⟩
    · exact ⟨fun _ empty => absurd empty root, fun _ => subset_ofEnvironment root environment⟩
  · intro same
    rw [BrokerSettings.bind, BrokerSettings.bind, Settings.below, Settings.below, same]

/-- At the root a variable that asks for encryption is not read, although selecting from the whole
environment there finds it. -/
theorem unread_at_root :
    let environment := [("SSL__ENABLED", "true")]
    (ofEnvironment "" environment).subset "" ≠ (ofVariables environment).subset "" ∧
      BrokerSettings.bind (ofEnvironment "" environment) "" = .ok {} ∧
      BrokerSettings.bind (ofVariables environment) "" =
        .ok { connection := { useSsl := true } } := by
  decide +kernel

end PropertySet

end BrokerWiring
