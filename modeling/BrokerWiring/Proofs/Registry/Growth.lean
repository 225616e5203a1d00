import Mathlib.Data.List.Forall2
import BrokerWiring.Wiring.Resolution

/-!
# How registries grow

A registry changes in two ways only: entries come behind the ones that are there, and in the end
endpoints are handed over to an endpoint registry. Neither takes an instance away or puts another
one in its place (`Component.Persists`), and what a role is answered with stays as long as nothing
of that role comes later (`first?_of_append`) and nothing is handed over to it
(`first?_handOver`).
-/

namespace BrokerWiring

/-- Whatever stands in a list has its partner in a list that matches. -/
theorem exists_of_mem_right {α β : Type} {R : α → β → Prop} {xs : List α} {ys : List β} {y : β}
    (h : List.Forall₂ R xs ys) (hy : y ∈ ys) : ∃ x ∈ xs, R x y := by
  induction h with
  | nil => cases hy
  | @cons x _ xs _ hxy _ ih =>
    rcases List.mem_cons.mp hy with rfl | hy
    · exact ⟨x, List.mem_cons_self, hxy⟩
    · obtain ⟨other, hother, hpair⟩ := ih hy
      exact ⟨other, List.mem_cons_of_mem _ hother, hpair⟩

/-- What matches two lists one behind the other comes apart in the same way. -/
theorem forall₂_append_left {α β : Type} {R : α → β → Prop} {xs more : List α} {ys : List β}
    (h : List.Forall₂ R (xs ++ more) ys) :
    ∃ front behind, ys = front ++ behind ∧ List.Forall₂ R xs front ∧
      List.Forall₂ R more behind := by
  have hfront := (List.forall₂_take_append ys xs more h.flip).flip
  have hbehind := (List.forall₂_drop_append ys xs more h.flip).flip
  exact ⟨_, _, (List.take_append_drop xs.length ys).symm, hfront, hbehind⟩

/-! ## Instances over time -/

/-- A component at a later time: the same instance, unchanged but for the endpoints that an
endpoint registry may have taken up. -/
inductive Component.Persists : Component → Component → Prop
  | unchanged (component : Component) : Persists component component
  | filled (id : Identity) (before : EndpointRegistry) (endpoints : List Endpoint) :
      Persists (.endpointRegistry ⟨id, before⟩)
        (.endpointRegistry ⟨id, before.registerEach endpoints⟩)

/-- An entry at a later time: name and origin stay, and so does the instance. -/
structure Entry.Persists (before after : Entry) : Prop where
  name : after.name = before.name
  origin : after.origin = before.origin
  component : before.component.Persists after.component

namespace Component.Persists

variable {before after : Component}

theorem role_eq (h : before.Persists after) : after.role = before.role := by
  cases h <;> rfl

/-- Only endpoint registries change. -/
theorem eq_of_role_ne (h : before.Persists after) (other : before.role ≠ .endpointRegistry) :
    after = before := by
  cases h with
  | unchanged => rfl
  | filled => exact absurd rfl other

end Component.Persists

namespace Registry

variable {registry grown : Registry} {role : Role}

theorem persists_fill (processor : EndpointProcessor) (target : Identity)
    (component : Component) : component.Persists (fill processor target component) := by
  unfold fill
  split
  · rename_i c
    split
    · exact .filled c.id c.value processor.endpoints
    · exact .unchanged _
  · exact .unchanged _

/-- The hand-over keeps every entry in its place. -/
theorem persists_handOver (registry : Registry) :
    List.Forall₂ Entry.Persists registry.entries registry.handOver.entries := by
  have same (entry : Entry) : entry.Persists entry := ⟨rfl, rfl, .unchanged _⟩
  unfold handOver
  split
  · simp only [mapComponents, List.forall₂_map_right_iff]
    exact List.forall₂_same.mpr fun entry _ => ⟨rfl, rfl, persists_fill ..⟩
  · exact List.forall₂_same.mpr fun entry _ => same entry

/-! ## Answers for a role -/

theorem role_of_first? {component : Component} (h : registry.first? role = some component) :
    component.role = role := by
  unfold first? at h
  simpa using List.find?_some h

/-- What comes later does not count for a role if none of it fills the role. -/
theorem first?_of_append {more : List Entry} (h : grown.entries = registry.entries ++ more)
    (other : ∀ entry ∈ more, entry.component.role ≠ role) :
    grown.first? role = registry.first? role := by
  have none_more : (more.map Entry.component).find? (·.role == role) = none := by
    rw [List.find?_eq_none]
    intro component hmem
    obtain ⟨entry, hentry, rfl⟩ := List.mem_map.mp hmem
    simpa using other entry hentry
  unfold first?
  rw [h, List.map_append, List.find?_append, none_more, Option.or_none]

/-- Entries that persist answer for a role as before, endpoint registries apart. -/
theorem find?_of_persists {before after : List Entry}
    (h : List.Forall₂ Entry.Persists before after) (other : role ≠ .endpointRegistry) :
    (after.map Entry.component).find? (·.role == role) =
      (before.map Entry.component).find? (·.role == role) := by
  induction h with
  | nil => rfl
  | @cons old new _ _ hentry _ ih =>
    rw [List.map_cons, List.map_cons, List.find?_cons, List.find?_cons, ih,
      hentry.component.role_eq]
    -- The first that fills the role has not changed, since the role is not that of registries.
    cases fills : old.component.role == role with
    | false => rfl
    | true =>
      have hrole : old.component.role = role := beq_iff_eq.mp fills
      rw [hentry.component.eq_of_role_ne (hrole ▸ other)]

theorem first?_handOver (registry : Registry) (other : role ≠ .endpointRegistry) :
    registry.handOver.first? role = registry.first? role :=
  find?_of_persists (persists_handOver registry) other

/-- A look-up hangs on the first component of its role alone. -/
theorem lookup_congr {α : Type} {shown : Component → Option (Shared α)}
    (h : grown.first? role = registry.first? role) :
    grown.lookup role shown = registry.lookup role shown := by
  unfold lookup
  rw [h]

/-- A look-up finds something as soon as its role is filled. -/
theorem exists_lookup {α : Type} {shown : Component → Option (Shared α)}
    (filled : ∃ entry ∈ registry.entries, entry.component.role = role)
    (shows : ∀ component : Component, component.role = role → (shown component).isSome) :
    ∃ found, registry.lookup role shown = .ok found := by
  obtain ⟨entry, hentry, hrole⟩ := filled
  have hmem : entry.component ∈ registry.entries.map Entry.component :=
    List.mem_map_of_mem hentry
  cases hfirst : registry.first? role with
  | none => exact absurd (beq_iff_eq.mpr hrole) (List.find?_eq_none.mp hfirst _ hmem)
  | some first =>
    obtain ⟨found, hfound⟩ := Option.isSome_iff_exists.mp (shows first (role_of_first? hfirst))
    refine ⟨found, ?_⟩
    unfold lookup
    rw [hfirst, Option.bind_some, hfound]

end Registry

end BrokerWiring
