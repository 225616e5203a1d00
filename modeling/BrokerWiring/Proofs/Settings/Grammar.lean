import BrokerWiring.Proofs.Outcome
import BrokerWiring.Proofs.Property.Set
import BrokerWiring.Proofs.Settings.Forms

/-!
# Which values can be bound

Ten of the known keys are typed. Each has one of three grammars for its values (`Grammar.Admits`):
numerals up to a bound, flags and acknowledge modes, with white space around them. A binding visits
the typed keys one after another and stops at the first whose value is not admitted
(`visits_bind`). So it succeeds just if all their values are admitted or not set, and else it
reports the first one that is not, as it was written (`bindsExactly`). No other property makes it
fail.
-/

namespace BrokerWiring

namespace Settings

/-! ## Grammars -/

/-- How the values of a typed key are written. -/
inductive Grammar where
  /-- A number of at most `bound`. -/
  | number (bound : Nat)
  | flag
  | mode
  deriving Repr, DecidableEq

/-- Decimal digits, at least one, that denote a number of at most `bound`. A plus sign may come in
front of them. -/
def IsNumeral (bound : Nat) (cs : List Char) : Prop :=
  ∃ digits, (cs = digits ∨ cs = '+' :: digits) ∧ digits ≠ [] ∧
    (∀ c ∈ digits, c.isDigit = true) ∧ Nat.ofDigitChars 10 digits 0 ≤ bound

/-- A value is well formed, white space around it apart. -/
def Grammar.Admits : Grammar → String → Prop
  | .number bound, value => IsNumeral bound (Text.trim value).toList
  | .flag, value => Text.lowerText (Text.trim value) ∈ ["true", "false"]
  | .mode, value => Text.lowerText (Text.trim value) ∈ ["none", "auto", "manual"]

/-- The typed keys in the order in which a binding visits them. -/
def typedKeys : List (String × Grammar) :=
  [("port", .number 65535), ("ssl.enabled", .flag), ("requested_heartbeat", .number 65535),
    ("listener.auto_startup", .flag), ("listener.acknowledge_mode", .mode),
    ("listener.concurrency", .number 4294967295), ("listener.max_concurrency", .number 4294967295),
    ("listener.prefetch", .number 65535), ("listener.transaction_size", .number 4294967295),
    ("dynamic", .flag)]

/-! ## Forms read what grammars admit -/

theorem digitsWithin_eq_ok {bound value n : Nat} {cs : List Char} (hvalue : value ≤ bound)
    (h : digitsWithin bound value cs = .ok n) :
    (∀ c ∈ cs, c.isDigit = true) ∧ Nat.ofDigitChars 10 cs value ≤ bound := by
  induction cs generalizing value with
  | nil => exact ⟨nofun, hvalue⟩
  | cons c rest ih =>
    rw [digitsWithin] at h
    split at h
    · rename_i digit
      have isDigit : c.isDigit = true := Char.isDigit_iff_toNat.mpr digit
      have next : 10 * value + (c.toNat - '0'.toNat) = value * 10 + (c.toNat - 48) := by
        rw [Nat.mul_comm]
        rfl
      dsimp only at h
      split at h
      · cases h
      · rename_i fits
        obtain ⟨others, within⟩ := ih (Nat.le_of_not_lt fits) h
        rw [Nat.ofDigitChars_cons, next]
        exact ⟨List.forall_mem_cons.mpr ⟨isDigit, others⟩, within⟩
    · cases h

theorem exists_digitsWithin_iff {bound : Nat} {cs : List Char} :
    (∃ n, digitsWithin bound 0 cs = .ok n) ↔
      (∀ c ∈ cs, c.isDigit = true) ∧ Nat.ofDigitChars 10 cs 0 ≤ bound := by
  constructor
  · rintro ⟨n, h⟩
    exact digitsWithin_eq_ok (Nat.zero_le bound) h
  · rintro ⟨digits, within⟩
    exact ⟨_, digitsWithin_of_le digits within⟩

theorem not_isDigit_of_plus {rest : List Char} : ¬∀ c ∈ '+' :: rest, c.isDigit = true := by
  intro digits
  exact absurd (digits '+' List.mem_cons_self) (by decide)

theorem isNumeral_signed_iff {bound : Nat} {rest : List Char} :
    IsNumeral bound ('+' :: rest) ↔ rest ≠ [] ∧ (∀ c ∈ rest, c.isDigit = true) ∧
      Nat.ofDigitChars 10 rest 0 ≤ bound := by
  constructor
  · rintro ⟨digits, rfl | hcs, filled, hdigits, within⟩
    · exact absurd hdigits not_isDigit_of_plus
    · obtain ⟨-, rfl⟩ := List.cons.inj hcs
      exact ⟨filled, hdigits, within⟩
  · rintro ⟨filled, hdigits, within⟩
    exact ⟨rest, .inr rfl, filled, hdigits, within⟩

theorem isNumeral_unsigned_iff {bound : Nat} {c : Char} {rest : List Char} (unsigned : c ≠ '+') :
    IsNumeral bound (c :: rest) ↔ (∀ d ∈ c :: rest, d.isDigit = true) ∧
      Nat.ofDigitChars 10 (c :: rest) 0 ≤ bound := by
  constructor
  · rintro ⟨digits, rfl | hcs, -, hdigits, within⟩
    · exact ⟨hdigits, within⟩
    · exact absurd (List.cons.inj hcs).1 unsigned
  · rintro ⟨hdigits, within⟩
    exact ⟨c :: rest, .inl rfl, List.cons_ne_nil c rest, hdigits, within⟩

/-- The numerals up to a bound are what is read as a number. -/
theorem exists_numeralWithin_iff {bound : Nat} {cs : List Char} :
    (∃ n, numeralWithin bound cs = .ok n) ↔ IsNumeral bound cs := by
  unfold numeralWithin
  split
  · simp [IsNumeral]
  · simp [isNumeral_signed_iff]
  · rename_i rest alone
    rw [exists_digitsWithin_iff, isNumeral_signed_iff]
    exact ⟨fun h => ⟨alone, h⟩, fun h => h.2⟩
  · rename_i filled _ unsigned
    cases cs with
    | nil => exact absurd rfl filled
    | cons c rest =>
      have hc : c ≠ '+' := fun plus => unsigned rest (plus ▸ rfl)
      rw [exists_digitsWithin_iff, isNumeral_unsigned_iff hc]

/-- A form gives a result for just the values that a grammar admits. -/
def Reads {α : Type} (form : String → Except String α) (grammar : Grammar) : Prop :=
  ∀ value, (∃ a, form value = .ok a) ↔ grammar.Admits value

theorem exists_map_iff {ε α β : Type} {outcome : Except ε α} {change : α → β} :
    (∃ b, outcome.map change = .ok b) ↔ ∃ a, outcome = .ok a := by
  cases outcome with
  | error error => simp [Except.map]
  | ok a => simp [Except.map]

theorem exists_natForm_iff {bound : Nat} {value : String} :
    (∃ n, natForm bound value = .ok n) ↔ (Grammar.number bound).Admits value := by
  show _ ↔ IsNumeral bound (Text.trim value).toList
  rw [natForm, ← exists_numeralWithin_iff]
  cases numeralWithin bound (Text.trim value).toList with
  | error fault => simp [Except.mapError]
  | ok n => simp [Except.mapError]

theorem reads_shortForm : Reads shortForm (.number 65535) := by
  intro value
  rw [shortForm, exists_map_iff]
  exact exists_natForm_iff

theorem reads_longForm : Reads longForm (.number 4294967295) := by
  intro value
  rw [longForm, exists_map_iff]
  exact exists_natForm_iff

theorem reads_flagForm : Reads flagForm .flag := by
  intro value
  simp only [Grammar.Admits, List.mem_cons, List.not_mem_nil, or_false, flagForm]
  split
  · simp_all
  · split
    · simp_all
    · simp_all

theorem reads_modeForm : Reads modeForm .mode := by
  intro value
  simp only [Grammar.Admits, List.mem_cons, List.not_mem_nil, or_false, modeForm,
    AcknowledgeMode.ofWord, Text.trim_trim]
  split
  · simp_all
  · split
    · simp_all
    · split
      · simp_all
      · simp_all

/-! ## The visit -/

variable {α β : Type} {source : Scoped}

/-- The value of a typed key is not set, or admitted by its grammar. -/
def Scoped.Fits (source : Scoped) (typed : String × Grammar) : Prop :=
  ∀ value, source.raw? typed.1 = some value → typed.2.Admits value

/-- What comes of visiting typed keys in a row: a result if all of them fit, else the error over the
first one that does not. -/
inductive Visits (source : Scoped) : List (String × Grammar) → Except ConfigError α → Prop
  | done (a : α) : Visits source [] (.ok a)
  | pass {typed : String × Grammar} {rest : List (String × Grammar)}
      {outcome : Except ConfigError α} :
      source.Fits typed → Visits source rest outcome → Visits source (typed :: rest) outcome
  | stop {key value reason : String} {grammar : Grammar} {rest : List (String × Grammar)} :
      source.raw? key = some value → ¬grammar.Admits value →
      Visits source ((key, grammar) :: rest) (.error (source.misfit key value reason))

namespace Visits

variable {first second : List (String × Grammar)} {outcome : Except ConfigError α}

/-- One visit goes on where another one is done. -/
theorem bind {next : α → Except ConfigError β} (h : Visits source first outcome)
    (hnext : ∀ a, Visits source second (next a)) :
    Visits source (first ++ second) (outcome >>= next) := by
  induction h with
  | done a => exact hnext a
  | pass fits _ ih => exact .pass fits ih
  | stop set refused => exact .stop set refused

/-- Reading a key is a visit of it. -/
theorem read {form : String → Except String α} {grammar : Grammar} (h : Reads form grammar)
    (key : String) : Visits source [(key, grammar)] (source.read form key) := by
  unfold Scoped.read
  cases hraw : source.raw? key with
  | none =>
    refine .pass (fun value hvalue => ?_) (.done none)
    rw [hraw] at hvalue
    cases hvalue
  | some value =>
    have reads := h value
    cases hform : form value with
    | error reason =>
      simp only [hform]
      refine .stop hraw fun admitted => ?_
      obtain ⟨a, ha⟩ := reads.mpr admitted
      rw [hform] at ha
      cases ha
    | ok a =>
      simp only [hform]
      refine .pass (fun other hother => ?_) (.done (some a))
      obtain rfl : value = other := Option.some.inj (hraw.symm.trans hother)
      exact reads.mp ⟨a, hform⟩

/-- Either all keys fit and there is a result, or the first that does not is reported. -/
theorem fits_or_stops (h : Visits source first outcome) :
    ((∀ typed ∈ first, source.Fits typed) ∧ ∃ a, outcome = .ok a) ∨
      ∃ before key grammar after value reason, first = before ++ (key, grammar) :: after ∧
        (∀ typed ∈ before, source.Fits typed) ∧ source.raw? key = some value ∧
          ¬grammar.Admits value ∧ outcome = .error (source.misfit key value reason) := by
  induction h with
  | done a => exact .inl ⟨nofun, a, rfl⟩
  | @pass typed rest outcome fits _ ih =>
    rcases ih with ⟨all, result⟩ | ⟨before, key, grammar, after, value, reason, rfl, others, found⟩
    · exact .inl ⟨List.forall_mem_cons.mpr ⟨fits, all⟩, result⟩
    · exact .inr ⟨typed :: before, key, grammar, after, value, reason, rfl,
        List.forall_mem_cons.mpr ⟨fits, others⟩, found⟩
  | @stop key value reason grammar rest found refused =>
    exact .inr ⟨[], key, grammar, rest, value, reason, rfl, nofun, found, refused, rfl⟩

end Visits

/-- A binding visits the typed keys of the connection, then those of listeners, then the last. -/
theorem visits_bind (set : PropertySet) (scope : String) :
    Visits (below set scope) typedKeys (BrokerSettings.bind set scope) := by
  have connection (source : Scoped) : Visits source (typedKeys.take 3) (connectionOf source) :=
    .bind (.read reads_shortForm _) fun _ => .bind (.read reads_flagForm _) fun _ =>
      .bind (.read reads_shortForm _) fun _ => .done _
  have listener (source : Scoped) :
      Visits source ((typedKeys.drop 3).take 6) (listenerOf source) :=
    .bind (.read reads_flagForm _) fun _ => .bind (.read reads_modeForm _) fun _ =>
      .bind (.read reads_longForm _) fun _ => .bind (.read reads_longForm _) fun _ =>
        .bind (.read reads_shortForm _) fun _ => .bind (.read reads_longForm _) fun _ => .done _
  exact (connection _).bind fun _ => (listener _).bind fun _ =>
    .bind (.read reads_flagForm _) fun _ => .done _

/-! ## Bindings -/

/-- The key of the whole set that a key below a scope addresses. A scope that is empty in relaxed
form is the root. -/
def addressed (scope key : String) : String :=
  if Property.canonicalKey scope = "" then key else scope ++ "." ++ key

theorem raw?_addressed (set : PropertySet) (scope key : String) :
    (below set scope).raw? key = set.get? (addressed scope key) := by
  rw [Scoped.raw?, below, addressed]
  split
  · rename_i root
    rw [PropertySet.subset_of_empty root]
  · rename_i filled
    rw [PropertySet.get?_subset set filled]

/-- The value that a set has for a typed key below a scope, if it has one, is well formed. -/
def WellFormedAt (set : PropertySet) (scope : String) (typed : String × Grammar) : Prop :=
  ∀ value, set.get? (addressed scope typed.1) = some value → typed.2.Admits value

theorem fits_below_iff {set : PropertySet} {scope : String} {typed : String × Grammar} :
    (below set scope).Fits typed ↔ WellFormedAt set scope typed := by
  simp only [Scoped.Fits, WellFormedAt, raw?_addressed]

/-- A typed key has a value that is not well formed, and all that are visited before it have one
that is, or none. -/
structure FirstIllFormed (set : PropertySet) (scope key value : String) : Prop where
  written : set.get? (addressed scope key) = some value
  first : ∃ before grammar after, typedKeys = before ++ (key, grammar) :: after ∧
    (∀ typed ∈ before, WellFormedAt set scope typed) ∧ ¬grammar.Admits value

end Settings

open Settings

/-- Which values can be bound, and what is reported of those that cannot. -/
structure BrokerSettings.BindsExactly (set : PropertySet) (scope : String) : Prop where
  /-- A binding succeeds just if the value of every typed key is well formed or not set. -/
  accepts : (∃ settings, bind set scope = .ok settings) ↔
    ∀ typed ∈ typedKeys, WellFormedAt set scope typed
  /-- Else the value of the first key with an ill-formed one is reported as it was written, under
  the spelling of the key. -/
  reports : (¬∀ typed ∈ typedKeys, WellFormedAt set scope typed) →
    ∃ key value reason, FirstIllFormed set scope key value ∧
      bind set scope = .error (.invalidValue
        (fullKey scope (((set.subset scope).sourceKey? key).getD key)) value reason)

/-- A binding hangs on the typed keys alone, and on each of them through its grammar. -/
theorem BrokerSettings.bindsExactly (set : PropertySet) (scope : String) :
    BindsExactly set scope := by
  rcases (visits_bind set scope).fits_or_stops with ⟨fits, result⟩ |
    ⟨before, key, grammar, after, value, reason, split, fits, found, refused, stopped⟩
  · have wellFormed : ∀ typed ∈ typedKeys, WellFormedAt set scope typed := fun typed htyped =>
      fits_below_iff.mp (fits typed htyped)
    exact ⟨⟨fun _ => wellFormed, fun _ => result⟩, fun ill => absurd wellFormed ill⟩
  · rw [raw?_addressed] at found
    have ill : ¬∀ typed ∈ typedKeys, WellFormedAt set scope typed := by
      intro wellFormed
      have hmem : (key, grammar) ∈ typedKeys := by simp [split]
      exact refused (wellFormed _ hmem value found)
    have first : FirstIllFormed set scope key value :=
      ⟨found, before, grammar, after, split, fun typed htyped =>
        fits_below_iff.mp (fits typed htyped), refused⟩
    refine ⟨⟨?_, fun wellFormed => absurd wellFormed ill⟩, fun _ => ?_⟩
    · rintro ⟨settings, hsettings⟩
      rw [stopped] at hsettings
      cases hsettings
    · exact ⟨key, value, reason, first, stopped⟩

end BrokerWiring
