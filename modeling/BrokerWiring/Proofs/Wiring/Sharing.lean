import BrokerWiring.Proofs.Wiring.Composition

/-!
# What standard components share

A standard component is made from a registry that is not finished, and yet it refers to the very
instances that the finished one answers with (`Component.WiredIn`). Its sources are of preceding
roles (`Role.mem_preceding_of_mem_sources`), of which nothing comes in any more once its turn has
come (`Course.settled`), whatever constructors come later.
-/

namespace BrokerWiring

open Outcome

/-! ## Sources -/

/-- The roles that the standard component of a role is made from. -/
def Role.sources : Role → List Role
  | .template => [.connectionFactory, .messageConverter]
  | .messagingTemplate => [.template]
  | .admin | .containerFactory => [.connectionFactory]
  | .connectionFactory | .messageConverter | .endpointProcessor | .endpointRegistry => []

namespace Role

variable {role source : Role}

theorem mem_preceding_of_mem_sources (h : source ∈ role.sources) : source ∈ role.preceding := by
  revert h
  cases role <;> cases source <;> decide

/-- Endpoint registries are the only components that change, and nothing is made from them. -/
theorem ne_endpointRegistry_of_mem_sources (h : source ∈ role.sources) :
    source ≠ .endpointRegistry := by
  revert h
  cases role <;> cases source <;> decide

end Role

/-- A converter is the one that counts, or the one for texts that a standard template brings along
if there is none. -/
def Registry.ConvertsWith (registry : Registry) (converter : Shared MessageConverter) : Prop :=
  registry.messageConverter = .ok converter ∨
    (∀ other, registry.messageConverter ≠ .ok other) ∧ converter = ⟨.companion .template, .text⟩

namespace Component

/-- A component refers to the instances that a registry answers with. -/
def WiredIn (registry : Registry) : Component → Prop
  | template c =>
    registry.connectionFactory = .ok c.value.connectionFactory ∧
      registry.ConvertsWith c.value.converter
  | messagingTemplate c => registry.template = .ok c.value.template
  | admin c => ∃ factory, c.value = .standard factory ∧ registry.connectionFactory = .ok factory
  | containerFactory c =>
    ∃ factory settings, c.value = .standard factory settings ∧
      registry.connectionFactory = .ok factory
  | connectionFactory _ | messageConverter _ | endpointProcessor _ | endpointRegistry _ => True

variable {registry grown : Registry} {made after : Component}

/-- Wiring hangs on the first components of the sources alone. -/
theorem WiredIn.congr
    (same : ∀ source ∈ made.role.sources, grown.first? source = registry.first? source)
    (h : made.WiredIn registry) : made.WiredIn grown := by
  have lookup {α : Type} {source : Role} (hsource : source ∈ made.role.sources)
      (shown : Component → Option (Shared α)) :
      grown.lookup source shown = registry.lookup source shown :=
    Registry.lookup_congr (same source hsource)
  cases made with
  | template c =>
    have hfactory : grown.connectionFactory = registry.connectionFactory :=
      lookup List.mem_cons_self _
    have hconverter : grown.messageConverter = registry.messageConverter :=
      lookup (List.mem_cons_of_mem _ List.mem_cons_self) _
    unfold WiredIn Registry.ConvertsWith
    rw [hfactory, hconverter]
    exact h
  | messagingTemplate c => exact (lookup List.mem_cons_self _).trans h
  | admin c =>
    obtain ⟨factory, hvalue, hfactory⟩ := h
    exact ⟨factory, hvalue, (lookup List.mem_cons_self _).trans hfactory⟩
  | containerFactory c =>
    obtain ⟨factory, settings, hvalue, hfactory⟩ := h
    exact ⟨factory, settings, hvalue, (lookup List.mem_cons_self _).trans hfactory⟩
  | connectionFactory | messageConverter | endpointProcessor | endpointRegistry => trivial

/-- A component stays wired over time. -/
theorem WiredIn.of_persists (h : made.WiredIn registry) (persists : made.Persists after) :
    after.WiredIn registry := by
  cases persists with
  | unchanged => exact h
  | filled => trivial

end Component

namespace Supplies

variable {supplies : Supplies} {held : Registry} {role : Role} {made : Component}

theorem convertsWith_converter (held : Registry) : held.ConvertsWith (converter held) := by
  unfold Registry.ConvertsWith converter
  cases held.messageConverter with
  | ok converter => exact .inl rfl
  | error => exact .inr ⟨nofun, rfl⟩

/-- A standard component is wired to what the registry so far answers with. -/
theorem wiredIn_of_component (h : supplies.component held role = .ok made) :
    made.WiredIn held := by
  unfold component at h
  cases role with
  | messageConverter => cases h
  | endpointProcessor | endpointRegistry =>
    cases h
    trivial
  | connectionFactory =>
    obtain ⟨_, -, hmade⟩ := bind_eq_ok_iff.mp h
    cases hmade
    trivial
  | template =>
    obtain ⟨factory, hfactory, hmade⟩ := bind_eq_ok_iff.mp h
    cases hmade
    exact ⟨hfactory, convertsWith_converter held⟩
  | messagingTemplate =>
    obtain ⟨template, htemplate, hmade⟩ := bind_eq_ok_iff.mp h
    cases hmade
    exact htemplate
  | admin =>
    obtain ⟨factory, hfactory, hmade⟩ := bind_eq_ok_iff.mp h
    cases hmade
    exact ⟨factory, rfl, hfactory⟩
  | containerFactory =>
    obtain ⟨factory, hfactory, hmade⟩ := bind_eq_ok_iff.mp h
    cases hmade
    exact ⟨factory, _, rfl, hfactory⟩

end Supplies

/-! ## The finished registry -/

/-- From the turn of an entry on, nothing more comes in for the preceding roles. -/
theorem Course.settled {dynamic : Bool} {declarations : List Declaration} {done rest : List Due}
    {next : Due} {seen last : Registry} {entry : Entry} {added : List Entry}
    {calls : List (Definition × Registry)} {source : Role}
    (place : Roster.all dynamic declarations = done ++ next :: rest)
    (hrole : entry.component.role = next.role)
    (hlast : last.entries = seen.entries ++ entry :: added)
    (hadded : List.Forall₂ (Due.Fulfilled calls) rest added)
    (precedes : source ∈ next.role.preceding) : last.first? source = seen.first? source := by
  obtain ⟨-, later⟩ := Roster.split place
  -- Neither the entry itself nor what comes behind it is of a preceding role.
  refine Registry.first?_of_append hlast fun other hother hsame => ?_
  rcases List.mem_cons.mp hother with rfl | hother
  · rw [← hsame, hrole] at precedes
    exact Role.not_mem_preceding next.role precedes
  · obtain ⟨due, hdue, hdone⟩ := exists_of_mem_right hadded hother
    rw [← hsame, hdone.role_eq] at precedes
    exact later due hdue precedes

namespace Configuration

variable {configuration : Configuration} {declarations : List Declaration} {registry : Registry}
  {entry : Entry}

/-- The standard components in a registry that a resolution returns are wired to the very instances
that this registry answers with. -/
theorem wiredIn_of_resolve
    (resolved : (configuration.resolve (.ofDeclarations declarations)).outcome = .ok registry)
    (hentry : entry ∈ registry.entries) (standard : entry.origin = .standard) :
    entry.component.WiredIn registry := by
  obtain ⟨settings, last, -, course, rfl⟩ := exists_course_of_resolve resolved
  obtain ⟨before, hbefore, persists⟩ := exists_of_mem_right last.persists_handOver hentry
  refine Component.WiredIn.of_persists ?_ persists.component
  obtain ⟨done, next, rest, earlier, seen, added, place, -, hmade, hlast, hadded⟩ :=
    course.split_at_entry hbefore List.not_mem_nil
  have hrole := (Due.name_role_of_entry hmade).2
  cases next with
  | declared definition =>
    obtain ⟨made, -, rfl⟩ := map_eq_ok_iff.mp hmade
    cases standard.symm.trans persists.origin
  | standard role =>
    obtain ⟨made, hcomponent, rfl⟩ := map_eq_ok_iff.mp hmade
    -- Wired when it was made, and its sources answer in the end as they did then.
    refine (Supplies.wiredIn_of_component hcomponent).congr fun source hsource => ?_
    rw [hrole] at hsource
    rw [last.first?_handOver (Role.ne_endpointRegistry_of_mem_sources hsource)]
    exact Course.settled place hrole hlast hadded (Role.mem_preceding_of_mem_sources hsource)

end Configuration

/-- The standard messaging template is wired to the caller's template. -/
theorem wiredIn_sample :
    ∃ registry entry,
      (Sample.configuration.resolve (.ofDeclarations Sample.declarations)).outcome = .ok registry ∧
      entry ∈ registry.entries ∧ entry.name = "rabbit_messaging_template" ∧
      entry.origin = .standard ∧ entry.component.WiredIn registry := by
  have resolved : (Sample.configuration.resolve (.ofDeclarations Sample.declarations)).outcome =
    .ok _ := rfl
  refine ⟨_, _, resolved, List.mem_of_getElem? (i := 3) rfl, rfl, rfl, ?_⟩
  exact Configuration.wiredIn_of_resolve resolved (List.mem_of_getElem? (i := 3) rfl) rfl

end BrokerWiring
