import BrokerWiring.Proofs.Property.Environment

/-!
# The names of variables in relaxed form

The name of a variable spells a key with double underscores for its dots. The key is lowered as a
text before it is relaxed, and a text is lowered with one rule that relaxing does not have: a
capital sigma at the end of a word becomes the final form of the letter. That is the only difference
between the key that is set and the key that the name spells (`canonicalKey_variableKey_iff`). An
environment is therefore read in relaxed form, down to every part of it, just if no name below the
scope has such a sigma (`readsRelaxed_iff`); a variable whose name ends a word in sigma does not
answer to its own spelling (`final_sigma_unread`).
-/

namespace BrokerWiring

namespace Property

open Text (meetsCased lowerBehind)

/-! ## Relaxing a lowered text -/

/-- Somewhere in `cs`, which follow the characters `before` (nearest first), a capital sigma ends a
word: a cased letter comes before it and none comes behind. -/
def EndsInSigma (before cs : List Char) : Prop :=
  ∃ front behind, cs = front ++ 'Σ' :: behind ∧ meetsCased (front.reverse ++ before) = true ∧
    meetsCased behind = false

theorem endsInSigma_cons {before rest : List Char} {c : Char} :
    EndsInSigma before (c :: rest) ↔
      (c = 'Σ' ∧ meetsCased before = true ∧ meetsCased rest = false) ∨
        EndsInSigma (c :: before) rest := by
  constructor
  · rintro ⟨front, behind, hcs, hbefore, hbehind⟩
    cases front with
    | nil =>
      obtain ⟨rfl, rfl⟩ := List.cons.inj hcs
      exact .inl ⟨rfl, hbefore, hbehind⟩
    | cons d front =>
      obtain ⟨rfl, rfl⟩ := List.cons.inj hcs
      rw [List.reverse_cons, List.append_assoc] at hbefore
      exact .inr ⟨front, behind, rfl, hbefore, hbehind⟩
  · rintro (⟨rfl, hbefore, hbehind⟩ | ⟨front, behind, rfl, hbefore, hbehind⟩)
    · exact ⟨[], rest, rfl, hbefore, hbehind⟩
    · refine ⟨c :: front, behind, rfl, ?_, hbehind⟩
      rw [List.reverse_cons, List.append_assoc]
      exact hbefore

/-- A text that was lowered is relaxed to what it was relaxed to before, just if no sigma ends a
word in it. -/
theorem relaxed_lowerBehind_iff (before cs : List Char) :
    relaxed (lowerBehind before cs) = relaxed cs ↔ ¬EndsInSigma before cs := by
  induction cs generalizing before with
  | nil =>
    refine ⟨fun _ ⟨front, behind, hcs, _⟩ => ?_, fun _ => rfl⟩
    simp at hcs
  | cons c rest ih =>
    rw [lowerBehind, relaxed_append, relaxed_cons, endsInSigma_cons, not_or, ← ih]
    by_cases sigma : c = 'Σ'
    · subst sigma
      have small : relaxedChar 'Σ' = ['σ'] := by decide +kernel
      by_cases final : meetsCased before = true ∧ meetsCased rest = false
      · -- The final letter stands where the other one is asked for.
        have image : relaxed ['ς'] = ['ς'] := by decide +kernel
        rw [if_pos rfl, if_pos (by simp [final]), image, small]
        simp [final]
      · have image : relaxed ['σ'] = ['σ'] := by decide +kernel
        rw [if_pos rfl, if_neg (by simpa using final), image, small, List.append_cancel_left_eq]
        exact ⟨fun same => ⟨fun h => final h.2, same⟩, fun h => h.2⟩
    · rw [if_neg sigma, relaxed_lowerChar, List.append_cancel_left_eq]
      exact ⟨fun same => ⟨fun h => sigma h.1, same⟩, fun h => h.2⟩

/-! ## What a name spells -/

/-- The key that the name of a variable spells, in the letter cases of the name. -/
def spelledKey (name : String) : String := String.ofList (dotted name.toList)

/-- The key of a variable is the one that its name spells, just if no sigma ends a word in it. -/
theorem canonicalKey_variableKey_iff (name : String) :
    canonicalKey (variableKey name) = canonicalKey (spelledKey name) ↔
      ¬EndsInSigma [] (dotted name.toList) := by
  rw [← relaxed_lowerBehind_iff, ← String.toList_inj, toList_canonicalKey, toList_canonicalKey,
    variableKey, Text.lowerText, spelledKey, String.toList_ofList, String.toList_ofList]

/-- The key that a variable spells, and its value. -/
def spellingOf? (pair : String × String) : Option (String × String) :=
  if hasDoubleUnderscore pair.1.toList then some (spelledKey pair.1, pair.2) else none

/-- What the variables of an environment spell, in order. -/
def spellings (environment : List (String × String)) : List (String × String) :=
  environment.filterMap spellingOf?

/-- If a sigma ends a word in the name of a variable, neither the key that the name spells nor the
one that is set lies below the scope. -/
def ReadsAsSpelled (scope : String) (pair : String × String) : Prop :=
  hasDoubleUnderscore pair.1.toList = true → EndsInSigma [] (dotted pair.1.toList) →
    liesBelow scope (canonicalKey (spelledKey pair.1)) = false ∧
      liesBelow scope (canonicalKey (variableKey pair.1)) = false

/-- Below the scope the two keys of such a variable answer to the same keys. -/
theorem ReadsAsSpelled.canonicalKey_eq_iff {scope key : String} {pair : String × String}
    (h : ReadsAsSpelled scope pair) (named : hasDoubleUnderscore pair.1.toList = true)
    (below : liesBelow scope (canonicalKey key) = true) :
    canonicalKey key = canonicalKey (variableKey pair.1) ↔
      canonicalKey key = canonicalKey (spelledKey pair.1) := by
  by_cases sigma : EndsInSigma [] (dotted pair.1.toList)
  · -- Both keys lie outside, so the key in question is neither.
    obtain ⟨outside, outside'⟩ := h named sigma
    constructor
    · intro same
      rw [same, outside'] at below
      cases below
    · intro same
      rw [same, outside] at below
      cases below
  · rw [(canonicalKey_variableKey_iff pair.1).mpr sigma]

end Property

namespace PropertySet

open Property (canonicalKey assignments assignmentOf? spellings spellingOf? spelledKey variableKey
  liesBelow dotted hasDoubleUnderscore EndsInSigma ReadsAsSpelled)

variable {scope : String} {environment : List (String × String)}

/-! ## Environments -/

/-- The names of variables are matched in relaxed form. -/
structure ReadsRelaxed (scope : String) (environment : List (String × String)) : Prop where
  /-- A key below the scope has the value of the last variable whose name spells it. -/
  value : ∀ key, liesBelow scope (canonicalKey key) = true →
    (ofEnvironment scope environment).get? key = (latest? (spellings environment) key).map (·.2)
  /-- No other key is there. -/
  confined : ∀ key, liesBelow scope (canonicalKey key) = false →
    (ofEnvironment scope environment).contains key = false

/-- A key below the scope has the value of the last variable that sets it, and no other key has
any. -/
theorem get?_ofEnvironment (scope : String) (environment : List (String × String)) (key : String) :
    (ofEnvironment scope environment).get? key =
      if liesBelow scope (canonicalKey key) then
        (latest? (assignments environment) key).map (·.2)
      else none := by
  rw [get?, find?_ofEnvironment, ofVariables, find?_insertAll]
  split
  · rw [Option.map_map]
    rfl
  · rfl

/-- Where variables are read as they spell their keys, the last one that sets a key is the last one
that spells it. -/
theorem latest?_assignments (h : ∀ pair ∈ environment, ReadsAsSpelled scope pair) {key : String}
    (below : liesBelow scope (canonicalKey key) = true) :
    (latest? (assignments environment) key).map (·.2) =
      (latest? (spellings environment) key).map (·.2) := by
  induction environment using List.reverseRecOn with
  | nil => rw [assignments, spellings, List.filterMap_nil, List.filterMap_nil]
  | append_singleton front pair ih =>
    have hfront := ih fun other hother => h other (List.mem_append_left _ hother)
    rw [assignments, spellings, List.filterMap_append, List.filterMap_append, ← assignments,
      ← spellings]
    by_cases named : hasDoubleUnderscore pair.1.toList = true
    · have same := (h pair (by simp)).canonicalKey_eq_iff named below
      simp only [List.filterMap_cons, List.filterMap_nil, assignmentOf?, spellingOf?, if_pos named]
      rw [latest?_concat, latest?_concat]
      simp only [same]
      split
      · simp only [Option.map_some]
      · exact hfront
    · simp only [List.filterMap_cons, List.filterMap_nil, assignmentOf?, spellingOf?, if_neg named,
        List.append_nil]
      exact hfront

theorem readsRelaxed_of_readsAsSpelled (h : ∀ pair ∈ environment, ReadsAsSpelled scope pair) :
    ReadsRelaxed scope environment where
  value key below := by
    rw [get?_ofEnvironment, if_pos below]
    exact latest?_assignments h below
  confined key outside := by
    rw [contains, find?_ofEnvironment, if_neg (by simp [outside])]
    rfl

/-- A variable that is read in relaxed form on its own is read as it spells its key. -/
theorem ReadsRelaxed.readsAsSpelled {pair : String × String} (h : ReadsRelaxed scope [pair]) :
    ReadsAsSpelled scope pair := by
  intro named sigma
  have differ : canonicalKey (variableKey pair.1) ≠ canonicalKey (spelledKey pair.1) := fun same =>
    (Property.canonicalKey_variableKey_iff pair.1).mp same sigma
  have set : assignments [pair] = [(variableKey pair.1, pair.2)] := by
    simp [assignments, assignmentOf?, named]
  have spelled : spellings [pair] = [(spelledKey pair.1, pair.2)] := by
    simp [spellings, spellingOf?, named]
  have value (key : String) (below : liesBelow scope (canonicalKey key) = true) :
      (latest? [(variableKey pair.1, pair.2)] key).map (·.2) =
        (latest? [(spelledKey pair.1, pair.2)] key).map (·.2) := by
    have h := h.value key below
    rwa [get?_ofEnvironment, if_pos below, set, spelled] at h
  constructor
  · by_contra below
    have := value (spelledKey pair.1) (by simpa using below)
    simp [latest?, differ] at this
  · by_contra below
    have := value (variableKey pair.1) (by simpa using below)
    simp [latest?, differ.symm] at this

/-- For every environment the last variable that sets a key below the scope counts. Down to every
part of it the last one whose name spells the key does, just if no name below the scope ends a word
in sigma. -/
theorem readsRelaxed_iff (scope : String) (environment : List (String × String)) :
    (∀ key, (ofEnvironment scope environment).get? key =
      if liesBelow scope (canonicalKey key) then
        (latest? (assignments environment) key).map (·.2)
      else none) ∧
    ((∀ part, part.Sublist environment → ReadsRelaxed scope part) ↔
      ∀ pair ∈ environment, ReadsAsSpelled scope pair) := by
  refine ⟨get?_ofEnvironment scope environment, ?_, ?_⟩
  · intro parts pair hpair
    exact (parts [pair] (List.singleton_sublist.mpr hpair)).readsAsSpelled
  · intro h part hpart
    exact readsRelaxed_of_readsAsSpelled fun pair hpair => h pair (hpart.subset hpair)

/-- A variable whose name ends a word in sigma is there under another key than its name spells, and
an entry with that spelling is found. -/
theorem final_sigma_unread :
    let environment := [("RABBITMQ__ΟΔΟΣ", "1")]
    ¬ReadsRelaxed "rabbitmq" environment ∧
      (ofEnvironment "rabbitmq" environment).get? "rabbitmq.ΟΔΟΣ" = none ∧
      (latest? (spellings environment) "rabbitmq.ΟΔΟΣ").map (·.2) = some "1" ∧
      (ofEntries ["rabbitmq.ΟΔΟΣ=1"]).map (·.get? "rabbitmq.οδοΣ") = .ok (some "1") := by
  have unread : (ofEnvironment "rabbitmq" [("RABBITMQ__ΟΔΟΣ", "1")]).get? "rabbitmq.ΟΔΟΣ" =
      none := by decide +kernel
  have spelled : (latest? (spellings [("RABBITMQ__ΟΔΟΣ", "1")]) "rabbitmq.ΟΔΟΣ").map (·.2) =
      some "1" := by decide +kernel
  refine ⟨fun relaxed => ?_, unread, spelled, by decide +kernel⟩
  have read := relaxed.value "rabbitmq.ΟΔΟΣ" (by decide +kernel)
  rw [unread, spelled] at read
  cases read

end PropertySet

end BrokerWiring
