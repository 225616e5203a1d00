/-!
# Outcomes

How a computation that may fail comes apart: what it was made of succeeded, or one part failed.
What kinds of errors there are is put together in the same way (`FailsOnly`), and so is what two
computations have in common (`Agree`).
-/

namespace BrokerWiring.Outcome

universe u v w
variable {ε : Type u} {α : Type v} {β : Type v} {first : Except ε α}

theorem bind_eq_ok_iff {next : α → Except ε β} {b : β} :
    (first >>= next) = .ok b ↔ ∃ a, first = .ok a ∧ next a = .ok b := by
  cases first <;> simp [bind, Except.bind]

theorem bind_eq_error_iff {next : α → Except ε β} {error : ε} :
    (first >>= next) = .error error ↔
      first = .error error ∨ ∃ a, first = .ok a ∧ next a = .error error := by
  cases first <;> simp [bind, Except.bind]

theorem map_eq_ok_iff {change : α → β} {b : β} :
    first.map change = .ok b ↔ ∃ a, first = .ok a ∧ change a = b := by
  cases first <;> simp [Except.map]

theorem map_eq_error_iff {change : α → β} {error : ε} :
    first.map change = .error error ↔ first = .error error := by
  cases first <;> simp [Except.map]

/-- If a computation fails, then with an error of a kind. -/
def FailsOnly (kind : ε → Prop) (outcome : Except ε α) : Prop :=
  ∀ error, outcome = .error error → kind error

namespace FailsOnly

variable {kind : ε → Prop}

theorem ok (a : α) : FailsOnly kind (.ok a : Except ε α) := nofun

theorem error {error : ε} (h : kind error) : FailsOnly kind (.error error : Except ε α) := by
  rintro _ ⟨⟩
  exact h

theorem bind {next : α → Except ε β} (hfirst : FailsOnly kind first)
    (hnext : ∀ a, FailsOnly kind (next a)) : FailsOnly kind (first >>= next) := by
  intro error h
  rcases bind_eq_error_iff.mp h with h | ⟨a, -, h⟩
  · exact hfirst error h
  · exact hnext a error h

end FailsOnly

/-! ## Two computations -/

section

variable {γ : Type w} {δ : Type w} {R : α → γ → Prop} {other : Except ε γ}

/-- Both computations fail with the same error, or both succeed with results that are related. -/
inductive Agree (R : α → γ → Prop) : Except ε α → Except ε γ → Prop
  | error (error : ε) : Agree R (.error error) (.error error)
  | ok {a : α} {c : γ} : R a c → Agree R (.ok a) (.ok c)

namespace Agree

theorem of_eq {second : Except ε α} (h : first = second) : Agree (· = ·) first second := by
  subst h
  cases first with
  | error error => exact .error error
  | ok a => exact .ok rfl

theorem imp {S : α → γ → Prop} (h : Agree R first other) (himp : ∀ a c, R a c → S a c) :
    Agree S first other := by
  cases h with
  | error error => exact .error error
  | ok h => exact .ok (himp _ _ h)

/-- Computations that go on agree if what they go on with does. -/
theorem bind {next : α → Except ε β} {next' : γ → Except ε δ} {S : β → δ → Prop}
    (h : Agree R first other) (hnext : ∀ a c, R a c → Agree S (next a) (next' c)) :
    Agree S (first >>= next) (other >>= next') := by
  cases h with
  | error error => exact .error error
  | ok h => exact hnext _ _ h

theorem symm (h : Agree R first other) : Agree (fun c a => R a c) other first := by
  cases h with
  | error error => exact .error error
  | ok h => exact .ok h

theorem trans {third : Except ε δ} {S : γ → δ → Prop} {T : α → δ → Prop}
    (h : Agree R first other) (hnext : Agree S other third)
    (compose : ∀ a c d, R a c → S c d → T a d) : Agree T first third := by
  cases h with
  | error error =>
    cases hnext
    exact .error error
  | ok h =>
    cases hnext with
    | ok hnext => exact .ok (compose _ _ _ h hnext)

end Agree

end

end BrokerWiring.Outcome
