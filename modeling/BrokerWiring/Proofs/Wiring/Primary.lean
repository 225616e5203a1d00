import BrokerWiring.Proofs.Wiring.Course

/-!
# What counts for a role

A role is answered by the first component that fills it. In what a course leaves this is the
component of what is due first for the role (`Course.exists_first`): that of the first definition
that the caller declares, or else the standard component, made by the supplies at some point of the
course (`Course.exists_standard`). Where the standard component is the same at every point, this
tells which component counts (`Course.exists_primary`).
-/

namespace BrokerWiring

open Outcome

namespace Roster

variable {dynamic : Bool} {declarations : List Declaration} {role : Role} {first : Due}
  {rest : List Due}

/-- Of all that is due, nothing fills a role before what is due for it first. -/
theorem find?_all (h : forRole dynamic declarations role = first :: rest) :
    (all dynamic declarations).find? (·.role = role) = some first := by
  -- The order of the roles is cut at the role; what is due before the cut is for other roles.
  obtain ⟨earlier, later, horder⟩ := List.append_of_mem (Role.mem_order role)
  obtain ⟨-, fresh⟩ := preceding_eq horder
  have absent : (earlier.flatMap (forRole dynamic declarations)).find? (·.role = role) = none := by
    rw [List.find?_eq_none]
    intro due hdue hrole
    obtain ⟨other, hother, hdue⟩ := List.mem_flatMap.mp hdue
    have same : other = role := (role_of_mem_forRole hdue).symm.trans (of_decide_eq_true hrole)
    exact fresh role List.mem_cons_self (same ▸ hother)
  have fills : first.role = role := role_of_mem_forRole (h ▸ List.mem_cons_self)
  rw [all, horder, List.flatMap_append, List.flatMap_cons, h, List.find?_append, absent,
    Option.none_or]
  simp [fills]

/-- What fills a role is due for it. -/
theorem mem_forRole_of_mem_all {due : Due} (h : due ∈ all dynamic declarations) :
    due ∈ forRole dynamic declarations due.role := by
  obtain ⟨role, -, hdue⟩ := List.mem_flatMap.mp h
  exact (role_of_mem_forRole hdue).symm ▸ hdue

/-- If anything is due for a role, it is what is declared, or else the standard component. -/
theorem forRole_of_ne_nil (h : forRole dynamic declarations role ≠ []) :
    forRole dynamic declarations role =
      if definitionsFor declarations role = [] then [.standard role]
      else (definitionsFor declarations role).map .declared := by
  unfold forRole at h ⊢
  split_ifs at h ⊢ <;> simp_all

end Roster

/-- Where all that is due is fulfilled, what is due first for a role has the first component of
it. -/
theorem Due.exists_first_of_fulfilled {calls : List (Definition × Registry)} {dues : List Due}
    {entries : List Entry} {role : Role} {first : Due}
    (h : List.Forall₂ (Fulfilled calls) dues entries)
    (hfirst : dues.find? (·.role = role) = some first) :
    ∃ entry ∈ entries, first.Fulfilled calls entry ∧
      (entries.map Entry.component).find? (·.role == role) = some entry.component := by
  induction h with
  | nil => cases hfirst
  | @cons due entry dues entries hdone _ ih =>
    rw [List.map_cons]
    by_cases fills : due.role = role
    · obtain rfl : due = first := by simpa [fills] using hfirst
      have hrole : entry.component.role = role := hdone.role_eq.trans fills
      exact ⟨entry, List.mem_cons_self, hdone, by simp [hrole]⟩
    · have hrole : ¬entry.component.role = role := fun h => fills (hdone.role_eq.symm.trans h)
      obtain ⟨other, hother, hdone, hfound⟩ := ih (by simpa [fills] using hfirst)
      exact ⟨other, List.mem_cons_of_mem _ hother, hdone, by simpa [hrole] using hfound⟩

namespace Course

variable {supplies : Supplies} {dynamic : Bool} {declarations : List Declaration} {role : Role}
  {calls : List (Definition × Registry)} {last : Registry}

/-- What is due first for a role has the first component of it. -/
theorem exists_first {first : Due} {rest : List Due}
    (h : Course supplies .empty (Roster.all dynamic declarations) calls (.ok last))
    (hdue : Roster.forRole dynamic declarations role = first :: rest) :
    ∃ entry ∈ last.entries, first.Fulfilled calls entry ∧
      last.first? role = some entry.component :=
  Due.exists_first_of_fulfilled h.entries_fulfilled (Roster.find?_all hdue)

/-- Where the standard component of a role is due, it is what the supplies made of the registry at
some point of the course. -/
theorem exists_standard
    (h : Course supplies .empty (Roster.all dynamic declarations) calls (.ok last))
    (hdue : Roster.forRole dynamic declarations role = [.standard role]) :
    ∃ seen made, supplies.component seen role = .ok made ∧ last.first? role = some made := by
  obtain ⟨entry, hentry, hdone, hfirst⟩ := h.exists_first hdue
  obtain ⟨done, next, rest, earlier, seen, added, place, -, hmade, -, -⟩ :=
    h.split_at_entry hentry List.not_mem_nil
  -- The entry was made for something that is due for the role, so for its standard component.
  have hrole : next.role = role := (Due.name_role_of_entry hmade).2.symm.trans hdone.role_eq
  have hnext : next ∈ Roster.forRole dynamic declarations next.role :=
    Roster.mem_forRole_of_mem_all (place ▸ List.mem_append_right done List.mem_cons_self)
  rw [hrole, hdue, List.mem_singleton] at hnext
  subst hnext
  obtain ⟨made, hcomponent, rfl⟩ := map_eq_ok_iff.mp hmade
  exact ⟨seen, made, hcomponent, hfirst⟩

end Course

/-- The component that counts for a role: the first that the caller declares, as its constructor
made it, or the standard one if the caller declares none. -/
inductive Primary (declarations : List Declaration) (calls : List (Definition × Registry))
    (standard : Component) : Component → Prop
  | declared {first : Definition} {later : List Definition} {seen : Registry} {made : Component} :
      Roster.definitionsFor declarations standard.role = first :: later →
      (first, seen) ∈ calls → first.construct seen = .ok made →
      Primary declarations calls standard made
  | standard :
      Roster.definitionsFor declarations standard.role = [] →
      Primary declarations calls standard standard

/-- Where something is due for a role, something counts for it. -/
theorem Course.exists_primary {supplies : Supplies} {dynamic : Bool}
    {declarations : List Declaration} {calls : List (Definition × Registry)} {last : Registry}
    (h : Course supplies .empty (Roster.all dynamic declarations) calls (.ok last))
    (standard : Component) (due : Roster.forRole dynamic declarations standard.role ≠ [])
    (hstandard : ∀ seen, supplies.component seen standard.role = .ok standard) :
    ∃ made, last.first? standard.role = some made ∧ Primary declarations calls standard made := by
  have hdue := Roster.forRole_of_ne_nil due
  -- The first definition counts if there is one, whatever the standard component would be.
  cases declared : Roster.definitionsFor declarations standard.role with
  | nil =>
    rw [declared, if_pos rfl] at hdue
    obtain ⟨seen, made, hmade, hfirst⟩ := h.exists_standard hdue
    obtain rfl : standard = made := Except.ok.inj ((hstandard seen).symm.trans hmade)
    exact ⟨standard, hfirst, .standard declared⟩
  | cons first later =>
    rw [declared, if_neg (List.cons_ne_nil _ _), List.map_cons] at hdue
    obtain ⟨entry, -, hdone, hfirst⟩ := h.exists_first hdue
    cases hdone with
    | declared hcall hmade _ => exact ⟨_, hfirst, .declared declared hcall hmade⟩

end BrokerWiring
