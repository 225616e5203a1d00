import BrokerWiring.Proofs.Outcome
import BrokerWiring.Settings.Binding

/-!
# Why a binding fails

A binding fails for one reason only: a value that is set does not have the form that its key asks
for (`bind_failsOnly`).
-/

namespace BrokerWiring

open Outcome

namespace Settings

/-- An error is about a value that is set below the scope. -/
def Scoped.Misfits (source : Scoped) (error : ConfigError) : Prop :=
  ∃ key value reason, source.raw? key = some value ∧ error = source.misfit key value reason

variable {source : Scoped}

theorem Scoped.read_failsOnly {α : Type} (form : String → Except String α) (key : String) :
    FailsOnly source.Misfits (source.read form key) := by
  unfold read
  split
  · exact .ok none
  · rename_i value hvalue
    split
    · exact .ok _
    · rename_i reason _
      exact .error ⟨key, value, reason, hvalue, rfl⟩

theorem connectionOf_failsOnly : FailsOnly source.Misfits (connectionOf source) :=
  .bind (Scoped.read_failsOnly _ _) fun _ => .bind (Scoped.read_failsOnly _ _) fun _ =>
    .bind (Scoped.read_failsOnly _ _) fun _ => .ok _

theorem listenerOf_failsOnly : FailsOnly source.Misfits (listenerOf source) :=
  .bind (Scoped.read_failsOnly _ _) fun _ => .bind (Scoped.read_failsOnly _ _) fun _ =>
    .bind (Scoped.read_failsOnly _ _) fun _ => .bind (Scoped.read_failsOnly _ _) fun _ =>
      .bind (Scoped.read_failsOnly _ _) fun _ => .bind (Scoped.read_failsOnly _ _) fun _ => .ok _

end Settings

/-- A binding fails only over a value that is set below its scope. -/
theorem BrokerSettings.bind_failsOnly (set : PropertySet) (scope : String) :
    FailsOnly (Settings.below set scope).Misfits (BrokerSettings.bind set scope) :=
  .bind Settings.connectionOf_failsOnly fun _ => .bind Settings.listenerOf_failsOnly fun _ =>
    .bind (Settings.Scoped.read_failsOnly _ _) fun _ => .ok _

end BrokerWiring
