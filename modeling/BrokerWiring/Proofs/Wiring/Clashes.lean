import BrokerWiring.Proofs.Registry.Index
import BrokerWiring.Proofs.Wiring.Calls
import BrokerWiring.Proofs.Wiring.Faults

/-!
# Who holds a name that is refused

The error for a name that is taken says that an explicit definition has taken it. The registry as
it stood at the step that was refused (`Configuration.StopsAt`) tells whether that is so: the name
is held by the component of a definition, unless it is the conventional name of a preceding role
that the standard component fills (`Configuration.clash_of_resolve`). There a definition is refused
because of a standard component, and the error says the wrong thing (`standard_called_explicit`).
-/

namespace BrokerWiring

open Outcome

/-! ## Where a run stops -/

/-- A run that fails has gone well up to a step that fails on the registry so far. -/
theorem Resolution.exists_stop {supplies : Supplies} {held : Registry} {steps : List Step}
    {error : ConfigError} (h : (run supplies held steps).outcome = .error error) :
    ∃ before next after seen, steps = before ++ next :: after ∧
      (run supplies held before).outcome = .ok seen ∧
      (step supplies seen next).outcome = .error error ∧
      (run supplies held steps).calls =
        (run supplies held before).calls ++ (step supplies seen next).calls := by
  induction steps generalizing held with
  | nil => cases h
  | cons first rest ih =>
    cases hfirst : (step supplies held first).outcome with
    | error other =>
      obtain ⟨hcalls, hend⟩ := run_of_error rest hfirst
      cases hend.symm.trans h
      exact ⟨[], first, rest, held, rfl, rfl, hfirst, hcalls⟩
    | ok grown =>
      obtain ⟨hcalls, hend⟩ := run_of_ok rest hfirst
      obtain ⟨before, next, after, seen, rfl, hbefore, hnext, hrest⟩ := ih (hend.symm.trans h)
      obtain ⟨hfront, hseen⟩ := run_of_ok before hfirst
      exact ⟨first :: before, next, after, seen, rfl, hseen.trans hbefore, hnext,
        by rw [hcalls, hrest, hfront, List.append_assoc]⟩

/-- A resolution comes to the step for what is due next with the registry that the steps before it
have built, and the step fails. -/
structure Configuration.StopsAt (configuration : Configuration) (declarations : List Declaration)
    (settings : BrokerSettings) (seen : Registry) (next : Due) (error : ConfigError) : Prop where
  bound : BrokerSettings.bind configuration.properties configuration.scope = .ok settings
  place : ∃ before step after,
    Plan.steps settings.dynamic (.ofDeclarations declarations) = before ++ step :: after ∧
      step.due? = some next ∧
      (Resolution.run (configuration.supplies settings declarations) .empty before).outcome =
        .ok seen ∧
      (Resolution.step (configuration.supplies settings declarations) seen step).outcome =
        .error error

/-! ## Names of standard components -/

/-- A name is the conventional one of a role before this one, and the standard component fills that
role. -/
def Roster.StandardBefore (dynamic : Bool) (declarations : List Declaration) (role : Role)
    (name : String) : Prop :=
  ∃ earlier ∈ role.preceding, earlier.conventionalName = name ∧
    .standard earlier ∈ forRole dynamic declarations earlier

/-- No standard component gets in the way of another one. -/
theorem Roster.not_standardBefore_conventionalName {dynamic : Bool}
    {declarations : List Declaration} (role : Role) :
    ¬StandardBefore dynamic declarations role role.conventionalName := by
  rintro ⟨earlier, precedes, hname, -⟩
  exact role.not_mem_preceding (Role.conventionalName_injective hname ▸ precedes)

/-- What becomes of a name that is due again on a registry that has it. -/
structure Clash (dynamic : Bool) (declarations : List Declaration) (seen : Registry) (next : Due)
    (name : String) : Prop where
  again : next.name = name
  /-- A definition holds it, unless it is the name of an earlier standard component. -/
  declared_iff : seen.origin? name = some .declared ↔
    ¬Roster.StandardBefore dynamic declarations next.role name
  /-- If it is, then that component holds it. -/
  standard_iff : seen.origin? name = some .standard ↔
    Roster.StandardBefore dynamic declarations next.role name
  /-- A standard component itself is refused for that of a definition only. -/
  of_standard : ∀ role, next = .standard role → seen.origin? name = some .declared

namespace Registry

variable {registry : Registry} {name : String}

theorem origin?_eq_some_iff {origin : Origin} : registry.origin? name = some origin ↔
    ∃ entry ∈ registry.entries, entry.name = name ∧ entry.origin = origin := by
  rw [origin?, Option.map_eq_some_iff]
  simp only [find?_eq_some_iff, and_assoc]

/-- A name that is taken has an origin, and only one. -/
theorem origin?_eq_declared_iff (taken : name ∈ registry.names) :
    registry.origin? name = some .declared ↔ ¬registry.origin? name = some .standard := by
  obtain ⟨entry, hentry, hname⟩ := List.mem_map.mp taken
  have held : registry.origin? name = some entry.origin :=
    origin?_eq_some_iff.mpr ⟨entry, hentry, hname, rfl⟩
  rw [held]
  cases entry.origin <;> decide

end Registry

section

variable {supplies : Supplies} {dynamic : Bool} {declarations : List Declaration}
  {done rest : List Due} {next : Due} {calls : List (Definition × Registry)} {seen : Registry}
  {name : String}

/-- The standard component that holds a name is one that is due for a preceding role. -/
theorem Course.origin?_eq_standard_iff
    (place : Roster.all dynamic declarations = done ++ next :: rest)
    (hdone : Course supplies .empty done calls (.ok seen)) :
    seen.origin? name = some .standard ↔
      Roster.StandardBefore dynamic declarations next.role name := by
  obtain ⟨⟨own, others, hown, hsplit⟩, -⟩ := Roster.split place
  rw [Registry.origin?_eq_some_iff]
  constructor
  · rintro ⟨entry, hentry, hname, horigin⟩
    obtain ⟨due, hdue, fulfilled⟩ := exists_of_mem_right hdone.entries_fulfilled hentry
    cases fulfilled with
    | declared => cases horigin
    | @standard role made hrole =>
      rcases List.mem_append.mp (hsplit ▸ hdue) with before | beside
      · obtain ⟨earlier, precedes, hearlier⟩ := List.mem_flatMap.mp before
        obtain ⟨rfl, -⟩ := Roster.forRole_of_standard hearlier
        exact ⟨role, precedes, hname, hearlier⟩
      · -- A standard component that is due has no others of its role beside it.
        have hmem : .standard role ∈ Roster.forRole dynamic declarations next.role :=
          hown ▸ List.mem_append_left _ beside
        have alone := congrArg List.length (Roster.forRole_of_standard hmem).2.2
        have filled := List.length_pos_of_mem beside
        rw [hown, List.length_append, List.length_cons, List.length_singleton] at alone
        omega
  · rintro ⟨earlier, precedes, rfl, hdue⟩
    have hmem : .standard earlier ∈ done :=
      hsplit ▸ List.mem_append_left _ (List.mem_flatMap.mpr ⟨earlier, precedes, hdue⟩)
    obtain ⟨entry, hentry, fulfilled⟩ := exists_of_mem_right hdone.entries_fulfilled.flip hmem
    cases fulfilled with
    | standard => exact ⟨_, hentry, rfl, rfl⟩

/-- What is due next clashes where its name is taken. -/
theorem Course.clash (place : Roster.all dynamic declarations = done ++ next :: rest)
    (hdone : Course supplies .empty done calls (.ok seen)) (taken : next.name ∈ seen.names) :
    Clash dynamic declarations seen next next.name := by
  have standard_iff : seen.origin? next.name = some .standard ↔
      Roster.StandardBefore dynamic declarations next.role next.name :=
    hdone.origin?_eq_standard_iff place
  have declared_iff := Registry.origin?_eq_declared_iff taken
  rw [standard_iff] at declared_iff
  refine ⟨rfl, declared_iff, standard_iff, ?_⟩
  rintro role rfl
  exact declared_iff.mpr (Roster.not_standardBefore_conventionalName role)

end

/-! ## Names that are refused -/

namespace Configuration

variable {configuration : Configuration} {declarations : List Declaration}
  {settings : BrokerSettings} {name : String}

/-- Constructors apart, a name is refused by the registry alone: standard components never fail for
a name. -/
theorem exists_entry_of_duplicateName {done rest : List Due} {next : Due}
    {earlier : List (Definition × Registry)} {seen : Registry}
    (secured : configuration.FailsOverStores)
    (place : Roster.all settings.dynamic declarations = done ++ next :: rest)
    (hdone : Course (configuration.supplies settings declarations) .empty done earlier (.ok seen))
    (unraised : ∀ call ∈ next.calls seen, ∀ taken,
      call.1.construct call.2 ≠ .error (.duplicateName taken))
    (failed : (next.entry (configuration.supplies settings declarations) seen >>= seen.insert) =
      .error (.duplicateName name)) :
    next.name = name ∧ next.name ∈ seen.names := by
  rcases bind_eq_error_iff.mp failed with unmade | ⟨entry, hentry, refused⟩
  · exfalso
    cases next with
    | declared definition =>
      rcases Definition.build_eq_error_iff.mp (map_eq_error_iff.mp unmade) with raised | misfit
      · exact unraised _ List.mem_cons_self name raised
      · obtain ⟨_, -, -, hmisfit⟩ := misfit
        cases hmisfit
    | standard role =>
      obtain ⟨-, hestablish⟩ := Course.establish_of_unmade place hdone unmade
      obtain ⟨-, store⟩ := secured _ _ hestablish
      cases store
  · obtain ⟨taken, hname⟩ := Registry.insert_eq_error_iff.mp refused
    cases hname
    have named := (Due.name_role_of_entry hentry).1
    exact ⟨named.symm, named ▸ taken⟩

/-- A resolution without settings does not fail for a name. -/
theorem bound_of_duplicateName
    (failed : (configuration.resolve (.ofDeclarations declarations)).outcome =
      .error (.duplicateName name)) :
    ∃ settings, BrokerSettings.bind configuration.properties configuration.scope =
      .ok settings := by
  cases bound : BrokerSettings.bind configuration.properties configuration.scope with
  | ok settings => exact ⟨settings, rfl⟩
  | error error =>
    rw [resolve_of_unbound _ bound] at failed
    cases failed
    obtain ⟨_, _, _, -, hmisfit⟩ := BrokerSettings.bind_failsOnly _ _ _ bound
    cases hmisfit

/-- If no constructor that runs fails for a name itself, then a resolution that does stops at
something that is due under this name, on a registry in which a definition holds it, unless the name
is that of an earlier standard component. -/
theorem clash_of_resolve (properties : PropertySet) (scope : String) (formats : StoreFormats)
    (files : Files) {declarations : List Declaration} {name : String}
    (unraised : ∀ call ∈
      ((ofStores properties scope formats files).resolve (.ofDeclarations declarations)).calls,
      ∀ taken, call.1.construct call.2 ≠ .error (.duplicateName taken))
    (failed :
      ((ofStores properties scope formats files).resolve (.ofDeclarations declarations)).outcome =
        .error (.duplicateName name)) :
    ∃ settings seen next,
      (ofStores properties scope formats files).StopsAt declarations settings seen next
          (.duplicateName name) ∧
        Clash settings.dynamic declarations seen next name := by
  have secured : (ofStores properties scope formats files).FailsOverStores :=
    Transport.establish_failsOnly formats files
  generalize ofStores properties scope formats files = configuration at unraised failed secured ⊢
  obtain ⟨settings, bound⟩ := bound_of_duplicateName failed
  have unfolded : (configuration.resolve (.ofDeclarations declarations)).calls =
        (Resolution.run (configuration.supplies settings declarations) .empty
          (Plan.steps settings.dynamic (.ofDeclarations declarations))).calls ∧
      (configuration.resolve (.ofDeclarations declarations)).outcome =
        (Resolution.run (configuration.supplies settings declarations) .empty
          (Plan.steps settings.dynamic (.ofDeclarations declarations))).outcome.map
            Registry.handOver := by
    unfold resolve
    rw [bound]
    exact ⟨rfl, rfl⟩
  obtain ⟨before, step, after, seen, hsteps, hbefore, hstep, hcalls⟩ :=
    Resolution.exists_stop (map_eq_error_iff.mp (unfolded.2.symm.trans failed))
  rw [unfolded.1, hcalls] at unraised
  cases hdue : step.due? with
  | none =>
    rw [(Resolution.step_of_nothing_due _ seen hdue).2] at hstep
    cases hstep
  | some next =>
    obtain ⟨hown, houtcome⟩ :=
      Resolution.step_of_due (configuration.supplies settings declarations) seen hdue
    have hdone := Resolution.course_run (configuration.supplies settings declarations) .empty before
    rw [hbefore] at hdone
    have place := Plan.filterMap_due?_steps settings.dynamic declarations
    rw [hsteps, List.filterMap_append, List.filterMap_cons_some hdue] at place
    obtain ⟨rfl, taken⟩ := exists_entry_of_duplicateName secured place.symm hdone
      (fun call hcall => unraised call (List.mem_append_right _ (hown ▸ hcall)))
      (houtcome.symm.trans hstep)
    exact ⟨settings, seen, next, ⟨bound, before, step, after, hsteps, hdue, hbefore, hstep⟩,
      hdone.clash place.symm taken⟩

end Configuration

/-- The standard template is refused for the converter that has its name. -/
theorem clash_sample :
    (∀ call ∈ (Sample.configuration.resolve (.ofDeclarations Sample.clash)).calls, ∀ taken,
        call.1.construct call.2 ≠ .error (.duplicateName taken)) ∧
      (Sample.configuration.resolve (.ofDeclarations Sample.clash)).outcome =
        .error (.duplicateName "rabbit_template") ∧
      ∃ settings seen next,
        Sample.configuration.StopsAt Sample.clash settings seen next
            (.duplicateName "rabbit_template") ∧
          Clash settings.dynamic Sample.clash seen next "rabbit_template" := by
  have unraised : ∀ call ∈ (Sample.configuration.resolve (.ofDeclarations Sample.clash)).calls,
      ∀ taken, call.1.construct call.2 ≠ .error (.duplicateName taken) := by
    have hcalls :
        (Sample.configuration.resolve (.ofDeclarations Sample.clash)).calls = [_] := rfl
    rw [hcalls]
    intro call hcall taken
    rw [List.mem_singleton.mp hcall]
    exact nofun
  exact ⟨unraised, rfl, Configuration.clash_of_resolve Sample.configuration.properties
    Sample.configuration.scope .standard ⟨[], []⟩ unraised rfl⟩

/-- A converter under the conventional name of connection factories, whose turn comes first. -/
def Sample.late : List Declaration :=
  [.component "rabbit_connection_factory" (.messageConverter ⟨.given 3, .json⟩)]

/-- The converter is refused for the standard connection factory, and the error calls that one an
explicit definition. -/
theorem standard_called_explicit :
    (∀ definition ∈ Roster.definitions Sample.late, ∀ seen taken,
        definition.construct seen ≠ .error (.duplicateName taken)) ∧
      (Sample.dynamicConfiguration.resolve (.ofDeclarations Sample.late)).outcome =
        .error (.duplicateName "rabbit_connection_factory") ∧
      (ConfigError.duplicateName "rabbit_connection_factory").message =
        "Component name 'rabbit_connection_factory' is already taken by an explicit definition" ∧
      ∃ settings seen next,
        Sample.dynamicConfiguration.StopsAt Sample.late settings seen next
            (.duplicateName "rabbit_connection_factory") ∧
          seen.origin? "rabbit_connection_factory" = some .standard := by
  refine ⟨?_, rfl, by decide, _, _, _,
    ⟨rfl, [.standard .connectionFactory], _, _, rfl, rfl, rfl, rfl⟩, rfl⟩
  intro definition hdefinition seen taken
  rw [List.mem_singleton.mp hdefinition]
  exact nofun

end BrokerWiring
