import BrokerWiring.Proofs.Wiring.Composition

/-!
# When constructors run

The constructors of a caller may do anything with the registry that they are given, and fail.
`Resolution.InTurn` says when they run, and what each of them is given, for any of them and whatever
comes of the resolution: they run role after role in the order of their declaration, each on what
has been registered by then, up to the first failure.
-/

namespace BrokerWiring

open Outcome

namespace Roster

variable {dynamic : Bool} {declarations : List Declaration} {done rest : List Due}
  {definition : Definition}

/-- The definitions before a definition in the roster: those of its role are the ones that were
declared before it. -/
theorem split_declared (h : all dynamic declarations = done ++ .declared definition :: rest) :
    let own := (done.filterMap Due.definition?).filter (·.role = definition.role)
    (∃ others, definitionsFor declarations definition.role = own ++ definition :: others) ∧
      done = definition.role.preceding.flatMap (forRole dynamic declarations) ++
        own.map .declared := by
  intro own
  obtain ⟨⟨front, others, hrole, hdone⟩, -⟩ := split h
  have hmem : .declared definition ∈ forRole dynamic declarations definition.role :=
    hrole ▸ List.mem_append_right front List.mem_cons_self
  rw [Due.role, forRole_of_declared hmem] at hrole
  obtain ⟨before, behind, hsplit, rfl, hbehind⟩ := List.map_eq_append_iff.mp hrole
  obtain ⟨same, later, rfl, hsame, -⟩ := List.map_eq_cons_iff.mp hbehind
  cases hsame
  -- Nothing that is due for the preceding roles is of the role itself.
  have apart : ((definition.role.preceding.flatMap (forRole dynamic declarations)).filterMap
      Due.definition?).filter (·.role = definition.role) = [] := by
    rw [List.filter_eq_nil_iff]
    intro other hother
    obtain ⟨due, hdue, hdefinition⟩ := List.mem_filterMap.mp hother
    obtain ⟨role, hpreceding, hdue⟩ := List.mem_flatMap.mp hdue
    have hrole := role_of_mem_forRole hdue
    cases due with
    | standard => cases hdefinition
    | declared =>
      cases hdefinition
      intro hsame
      have : other.role = definition.role := of_decide_eq_true hsame
      exact Role.not_mem_preceding _ (this ▸ hrole ▸ hpreceding)
  have hfront : before.filter (·.role = definition.role) = before := by
    refine List.filter_eq_self.mpr fun other hother => ?_
    have : other ∈ definitionsFor declarations definition.role :=
      hsplit ▸ List.mem_append_left _ hother
    exact (List.mem_filter.mp this).2
  have hown : own = before := by
    show (done.filterMap Due.definition?).filter _ = before
    rw [hdone, List.filterMap_append, List.filter_append, Due.role, apart, List.nil_append,
      List.filterMap_map]
    show (before.filterMap (some ∘ id)).filter _ = before
    rw [List.filterMap_eq_map, List.map_id, hfront]
  rw [hown]
  exact ⟨⟨later, hsplit⟩, hdone⟩

end Roster

/-- The constructors of a resolution run in their turn. -/
structure Resolution.InTurn (supplies : Supplies) (declarations : List Declaration)
    (resolution : Resolution) : Prop where
  /-- They run role after role, and for each role in the order of their declaration. -/
  order : resolution.calls.map Prod.fst <+:
    Roster.callable supplies.settings.dynamic declarations
  /-- Each of them runs once at most. -/
  once : (resolution.calls.map Prod.fst).Subperm (Roster.definitions declarations)
  /-- Those of definitions that are withheld do not run. -/
  withheld : ∀ call ∈ resolution.calls,
    ¬Roster.Withheld supplies.settings.dynamic call.1.role
  /-- A constructor is given what was due for the preceding roles and for the definitions of its own
  role that were declared before it, and nothing else. -/
  given : ∀ earlier definition seen later,
    resolution.calls = earlier ++ (definition, seen) :: later →
    let own := (earlier.map Prod.fst).filter (·.role = definition.role)
    (∃ others, Roster.definitionsFor declarations definition.role = own ++ definition :: others) ∧
      List.Forall₂ (Due.Fulfilled earlier)
        (definition.role.preceding.flatMap
            (Roster.forRole supplies.settings.dynamic declarations) ++ own.map .declared)
        seen.entries
  /-- What it is given, the later ones are given too. -/
  grows : resolution.calls.Pairwise fun earlier later => earlier.2.entries <+: later.2.entries
  /-- In the end every constructor that is not withheld has run once, and what it was given comes
  first in the registry. -/
  returned : ∀ registry, resolution.outcome = .ok registry →
    (resolution.calls.map Prod.fst).Perm ((Roster.definitions declarations).filter fun d =>
        ¬Roster.Withheld supplies.settings.dynamic d.role) ∧
      ∀ call ∈ resolution.calls, ∃ front, front <+: registry.entries ∧
        List.Forall₂ Entry.Persists call.2.entries front
  /-- Nothing runs behind the first failure. -/
  stopped : ∀ error, resolution.outcome = .error error →
    ∃ done next rest earlier seen,
      Roster.all supplies.settings.dynamic declarations = done ++ next :: rest ∧
      List.Forall₂ (Due.Fulfilled earlier) done seen.entries ∧
      (next.entry supplies seen >>= seen.insert) = .error error ∧
      resolution.calls = earlier ++ next.calls seen

namespace Configuration

/-- Without settings no constructor runs, and with settings the constructors run in their turn,
whether the resolution succeeds or not. -/
theorem inTurn_of_resolve (configuration : Configuration) (declarations : List Declaration) :
    (∀ error,
      BrokerSettings.bind configuration.properties configuration.scope = .error error →
      (configuration.resolve (.ofDeclarations declarations)).calls = []) ∧
    ∀ settings, BrokerSettings.bind configuration.properties configuration.scope = .ok settings →
      (configuration.resolve (.ofDeclarations declarations)).InTurn
        (configuration.supplies settings declarations) declarations := by
  refine ⟨fun error unbound => ?_, fun settings bound => ?_⟩
  · rw [resolve_of_unbound _ unbound]
    rfl
  obtain ⟨outcome, course, houtcome⟩ := course_resolve declarations bound
  have order := course.map_fst_calls_prefix
  rw [Roster.filterMap_definition?_all] at order
  refine ⟨order, ?once, ?withheld, ?given, course.pairwise_prefix, ?returned, ?stopped⟩
  case once =>
    have kept := order.sublist.subperm.trans Roster.callable_perm.subperm
    exact kept.trans List.filter_sublist.subperm
  case withheld =>
    intro call hcall
    have hmem := order.subset (List.mem_map_of_mem hcall)
    have kept := Roster.callable_perm.subset hmem
    exact of_decide_eq_true (List.mem_filter.mp kept).2
  case given =>
    intro earlier definition seen later hcalls own
    rw [hcalls] at course
    obtain ⟨done, rest, place, hdone⟩ := course.split_at_call
    obtain ⟨declared, hall⟩ := Roster.split_declared place
    rw [← hdone.fulfilled.1] at declared hall
    exact ⟨declared, hall ▸ hdone.entries_fulfilled⟩
  case returned =>
    intro registry resolved
    obtain ⟨last, rfl, rfl⟩ := map_eq_ok_iff.mp (houtcome.symm.trans resolved)
    have every := course.fulfilled.1.trans Roster.filterMap_definition?_all
    refine ⟨every ▸ Roster.callable_perm, fun call hcall => ?_⟩
    obtain ⟨behind, hlast⟩ := course.prefix_last call hcall
    have persists := last.persists_handOver
    rw [← hlast] at persists
    obtain ⟨front, rest, hregistry, hfront, -⟩ := forall₂_append_left persists
    exact ⟨front, ⟨rest, hregistry.symm⟩, hfront⟩
  case stopped =>
    intro error failed
    obtain rfl := map_eq_error_iff.mp (houtcome.symm.trans failed)
    obtain ⟨done, next, rest, earlier, seen, place, hdone, hcalls, hfail⟩ := course.split_at_error
    refine ⟨done, next, rest, earlier, seen, place, hdone.entries_fulfilled, ?_, hcalls⟩
    rcases hfail with unmade | ⟨⟨entry, hentry⟩, taken, rfl⟩
    · exact bind_eq_error_iff.mpr (.inl unmade)
    · have hname := (Due.name_role_of_entry hentry).1
      refine bind_eq_error_iff.mpr (.inr ⟨entry, hentry, ?_⟩)
      exact Registry.insert_eq_error_iff.mpr ⟨hname ▸ taken, by rw [hname]⟩

end Configuration

/-- A configuration with dynamic topology, where admins are not withheld. -/
def Sample.dynamicConfiguration : Configuration :=
  { Sample.configuration with properties := .empty }

/-- The admin that cannot be made runs last, although it was declared before the converter. -/
theorem inTurn_sample :
    (Sample.dynamicConfiguration.resolve (.ofDeclarations Sample.declarations)).calls.map
        (fun call => call.1.name) = ["json", "orders", "topology"] ∧
      ∃ settings,
        (Sample.dynamicConfiguration.resolve (.ofDeclarations Sample.declarations)).InTurn
          (Sample.dynamicConfiguration.supplies settings Sample.declarations)
          Sample.declarations :=
  ⟨rfl, _, (Configuration.inTurn_of_resolve _ _).2 _ rfl⟩

end BrokerWiring
