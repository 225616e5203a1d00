import BrokerWiring.Proofs.Settings.Binding
import BrokerWiring.Proofs.Transport.Establishment
import BrokerWiring.Proofs.Wiring.Sharing

/-!
# Why a resolution fails

A `Fault` is a reason for a resolution to fail, told from what the caller can see: the settings, the
constructors that ran, the transport, and the names that are due. A resolution fails with the error
of a fault that arises (`outcome_eq_error_iff`), and there is never more than one
(`Fault.Arises.unique`). Standard components contribute a single fault, the transport of the
standard connection factory: what the others are made from is always there by the time their turn
comes (`Supplies.establish_of_component_error`).
-/

namespace BrokerWiring

open Outcome

/-- A constructor makes a component of the role that was declared. -/
def Definition.Fits (definition : Definition) (seen : Registry) : Prop :=
  ∃ made, definition.construct seen = .ok made ∧ made.role = definition.role

/-- A definition is built where its constructor fits, and nowhere else. -/
theorem Definition.fits_iff {definition : Definition} {seen : Registry} :
    definition.Fits seen ↔ ∃ made, definition.build seen = .ok made :=
  exists_congr fun _ => build_eq_ok_iff.symm

/-- The standard connection factory can be made, if it is due. -/
def Configuration.Ready (configuration : Configuration) (settings : BrokerSettings)
    (declarations : List Declaration) : Prop :=
  Roster.definitionsFor declarations .connectionFactory = [] →
    ∃ transport, configuration.establish settings.connection = .ok transport

/-- Transports fail only where encryption is asked for, and only over a store. -/
def Configuration.FailsOverStores (configuration : Configuration) : Prop :=
  ∀ settings, FailsOnly (fun error => settings.useSsl = true ∧ error.OfStore)
    (configuration.establish settings)

/-! ## Faults -/

/-- A reason for a resolution to fail. -/
inductive Fault where
  /-- The settings cannot be bound. -/
  | unbound (error : ConfigError)
  /-- A constructor fails. -/
  | construction (definition : Definition) (seen : Registry) (error : ConfigError)
  /-- A constructor makes a component of another role. -/
  | misfit (definition : Definition) (seen : Registry) (made : Component)
  /-- The transport of the standard connection factory cannot be established. -/
  | transport (error : ConfigError)
  /-- A name is due for a second time. -/
  | nameTaken (name : String)

namespace Fault

/-- The error that a fault leads to. -/
def error : Fault → ConfigError
  | unbound error => error
  | construction _ _ error => error
  | misfit definition _ made =>
    .roleMismatch definition.name definition.role.title made.role.title
  | transport error => error
  | nameTaken name => .duplicateName name

/-- A fault arises with a configuration and declarations. -/
inductive Arises (configuration : Configuration) (declarations : List Declaration) : Fault → Prop
  | unbound {error : ConfigError} :
      BrokerSettings.bind configuration.properties configuration.scope = .error error →
      Arises configuration declarations (.unbound error)
  | construction {definition : Definition} {seen : Registry} {error : ConfigError} :
      (definition, seen) ∈ (configuration.resolve (.ofDeclarations declarations)).calls →
      definition.construct seen = .error error →
      Arises configuration declarations (.construction definition seen error)
  | misfit {definition : Definition} {seen : Registry} {made : Component} :
      (definition, seen) ∈ (configuration.resolve (.ofDeclarations declarations)).calls →
      definition.construct seen = .ok made → made.role ≠ definition.role →
      Arises configuration declarations (.misfit definition seen made)
  /-- Only with encryption, and only if no connection factory is declared. -/
  | transport {settings : BrokerSettings} {error : ConfigError} :
      BrokerSettings.bind configuration.properties configuration.scope = .ok settings →
      Roster.definitionsFor declarations .connectionFactory = [] →
      settings.connection.useSsl = true →
      configuration.establish settings.connection = .error error →
      Arises configuration declarations (.transport error)
  /-- Nothing else is wrong, and the name is the first that is due twice. -/
  | nameTaken {settings : BrokerSettings} {before after : List String} {name : String} :
      BrokerSettings.bind configuration.properties configuration.scope = .ok settings →
      configuration.Ready settings declarations →
      (∀ call ∈ (configuration.resolve (.ofDeclarations declarations)).calls,
        call.1.Fits call.2) →
      (Roster.all settings.dynamic declarations).map Due.name = before ++ name :: after →
      before.Nodup → name ∈ before →
      Arises configuration declarations (.nameTaken name)

end Fault

theorem not_nodup_of_repeat {α : Type} {before after : List α} {x : α} (h : x ∈ before) :
    ¬(before ++ x :: after).Nodup := fun nodup =>
  (List.nodup_append.mp nodup).2.2 x h x List.mem_cons_self rfl

/-- There is only one first repetition in a list. -/
theorem first_repeat_unique {α : Type} {before after before' after' : List α} {x y : α}
    (h : before ++ x :: after = before' ++ y :: after') (distinct : before.Nodup)
    (distinct' : before'.Nodup) (hx : x ∈ before) (hy : y ∈ before') : x = y := by
  -- If one of the places came first, it would repeat in front of the other one.
  rcases List.append_eq_append_iff.mp h with ⟨between, rfl, hrest⟩ | ⟨between, rfl, hrest⟩
  · cases between with
    | nil => exact (List.cons.inj hrest).1
    | cons z between =>
      obtain ⟨rfl, -⟩ := List.cons.inj hrest
      exact absurd distinct' (not_nodup_of_repeat hx)
  · cases between with
    | nil => exact (List.cons.inj hrest).1.symm
    | cons z between =>
      obtain ⟨rfl, -⟩ := List.cons.inj hrest
      exact absurd distinct (not_nodup_of_repeat hy)

/-! ## Standard components -/

/-- Where the sources of a standard component are there, converters apart, it fails only as the
connection factory does: over its transport. -/
theorem Supplies.establish_of_component_error {supplies : Supplies} {held : Registry} {role : Role}
    {error : ConfigError} (h : supplies.component held role = .error error)
    (has_standard : role ≠ .messageConverter)
    (filled : ∀ source ∈ role.sources, source = .connectionFactory ∨ source = .template →
      ∃ entry ∈ held.entries, entry.component.role = source) :
    role = .connectionFactory ∧
      supplies.establish supplies.settings.connection = .error error := by
  have factory (hmem : Role.connectionFactory ∈ role.sources) :
      ∃ found, held.connectionFactory = .ok found := by
    refine Registry.exists_lookup (filled _ hmem (.inl rfl)) fun component hrole => ?_
    cases component <;> cases hrole
    rfl
  have template (hmem : Role.template ∈ role.sources) : ∃ found, held.template = .ok found := by
    refine Registry.exists_lookup (filled _ hmem (.inr rfl)) fun component hrole => ?_
    cases component <;> cases hrole
    rfl
  unfold component at h
  cases role with
  | messageConverter => exact absurd rfl has_standard
  | endpointProcessor | endpointRegistry => cases h
  | connectionFactory =>
    rcases bind_eq_error_iff.mp h with h | ⟨_, -, h⟩
    · exact ⟨rfl, h⟩
    · cases h
  | template | admin | containerFactory =>
    obtain ⟨found, hfound⟩ := factory (by decide)
    dsimp only at h
    rw [hfound] at h
    cases h
  | messagingTemplate =>
    obtain ⟨found, hfound⟩ := template (by decide)
    dsimp only at h
    rw [hfound] at h
    cases h

/-- At its turn, what is due finds connection factories and templates registered if they come
before it. -/
theorem Course.filled {supplies : Supplies} {dynamic : Bool} {declarations : List Declaration}
    {done rest : List Due} {next : Due} {earlier : List (Definition × Registry)} {seen : Registry}
    {source : Role} (place : Roster.all dynamic declarations = done ++ next :: rest)
    (hdone : Course supplies .empty done earlier (.ok seen))
    (precedes : source ∈ next.role.preceding)
    (always : source = .connectionFactory ∨ source = .template) :
    ∃ entry ∈ seen.entries, entry.component.role = source := by
  obtain ⟨⟨own, others, -, rfl⟩, -⟩ := Roster.split place
  have any : Roster.forRole dynamic declarations source ≠ [] := Roster.forRole_ne_nil always
  obtain ⟨due, hdue⟩ := List.exists_mem_of_ne_nil _ any
  have hmem : due ∈ next.role.preceding.flatMap (Roster.forRole dynamic declarations) ++ own :=
    List.mem_append_left own (List.mem_flatMap.mpr ⟨source, precedes, hdue⟩)
  obtain ⟨entry, hentry, hfulfilled⟩ := exists_of_mem_right hdone.entries_fulfilled.flip hmem
  exact ⟨entry, hentry, hfulfilled.role_eq.trans (Roster.role_of_mem_forRole hdue)⟩

/-- A standard component that cannot be made at its turn is the connection factory, and it has no
transport. -/
theorem Course.establish_of_unmade {supplies : Supplies} {dynamic : Bool}
    {declarations : List Declaration} {done rest : List Due} {role : Role}
    {earlier : List (Definition × Registry)} {seen : Registry} {error : ConfigError}
    (place : Roster.all dynamic declarations = done ++ .standard role :: rest)
    (hdone : Course supplies .empty done earlier (.ok seen))
    (unmade : (Due.standard role).entry supplies seen = .error error) :
    Roster.definitionsFor declarations .connectionFactory = [] ∧
      supplies.establish supplies.settings.connection = .error error := by
  have hmem : .standard role ∈ Roster.all dynamic declarations :=
    place ▸ List.mem_append_right done List.mem_cons_self
  obtain ⟨other, -, hdue⟩ := List.mem_flatMap.mp hmem
  obtain ⟨rfl, has_standard, -⟩ := Roster.forRole_of_standard hdue
  obtain ⟨rfl, hestablish⟩ :=
    Supplies.establish_of_component_error (map_eq_error_iff.mp unmade) has_standard
      fun source hsource always => Course.filled place hdone
        (Role.mem_preceding_of_mem_sources hsource) always
  exact ⟨Roster.undeclared_of_standard_mem hmem, hestablish⟩

/-! ## Resolutions that fail -/

namespace Configuration

variable {configuration : Configuration} {declarations : List Declaration}
  {settings : BrokerSettings} {error : ConfigError}

/-- If the standard connection factory is due and has no transport, nothing runs. -/
theorem resolve_of_unready
    (bound : BrokerSettings.bind configuration.properties configuration.scope = .ok settings)
    (undeclared : Roster.definitionsFor declarations .connectionFactory = [])
    (failed : configuration.establish settings.connection = .error error) :
    (configuration.resolve (.ofDeclarations declarations)).calls = [] ∧
      (configuration.resolve (.ofDeclarations declarations)).outcome = .error error := by
  obtain ⟨outcome, course, houtcome⟩ := course_resolve declarations bound
  obtain ⟨rest, place⟩ : ∃ rest, Roster.all settings.dynamic declarations =
      .standard .connectionFactory :: rest := Roster.exists_all_of_undeclared undeclared
  have unmade : (Due.standard .connectionFactory).entry
      (configuration.supplies settings declarations) .empty = .error error := by
    show Except.map _ (configuration.establish settings.connection >>= _) = _
    rw [failed]
    rfl
  rw [place] at course
  rw [houtcome]
  generalize (configuration.resolve (.ofDeclarations declarations)).calls = calls at course ⊢
  cases course with
  | unmade hentry =>
    cases unmade.symm.trans hentry
    exact ⟨rfl, rfl⟩
  | refused hentry =>
    cases unmade.symm.trans hentry
  | registered hentry =>
    cases unmade.symm.trans hentry

/-- A constructor that does not fit is the last to run, and its error is the outcome. -/
theorem resolve_of_misbuilt {definition : Definition} {seen : Registry}
    (bound : BrokerSettings.bind configuration.properties configuration.scope = .ok settings)
    (hcall : (definition, seen) ∈ (configuration.resolve (.ofDeclarations declarations)).calls)
    (misbuilt : definition.build seen = .error error) :
    (configuration.resolve (.ofDeclarations declarations)).outcome = .error error ∧
      (configuration.resolve (.ofDeclarations declarations)).calls.getLast? =
        some (definition, seen) := by
  obtain ⟨outcome, course, houtcome⟩ := course_resolve declarations bound
  obtain ⟨rfl, hlast⟩ := course.last_of_misbuilt hcall misbuilt
  exact ⟨houtcome, hlast⟩

/-- A registry is returned only if no name is due twice. -/
theorem nodup_of_resolve {registry : Registry}
    (bound : BrokerSettings.bind configuration.properties configuration.scope = .ok settings)
    (resolved : (configuration.resolve (.ofDeclarations declarations)).outcome = .ok registry) :
    ((Roster.all settings.dynamic declarations).map Due.name).Nodup := by
  obtain ⟨outcome, course, houtcome⟩ := course_resolve declarations bound
  obtain ⟨last, rfl, -⟩ := map_eq_ok_iff.mp (houtcome.symm.trans resolved)
  rw [← course.names_eq]
  exact last.distinct

/-- If all constructors that run fit and the standard connection factory can be made where it is
due, then a resolution fails over a name that is due for the second time. -/
theorem repeat_of_resolve
    (bound : BrokerSettings.bind configuration.properties configuration.scope = .ok settings)
    (ready : configuration.Ready settings declarations)
    (fits : ∀ call ∈ (configuration.resolve (.ofDeclarations declarations)).calls,
      call.1.Fits call.2)
    (failed : (configuration.resolve (.ofDeclarations declarations)).outcome = .error error) :
    ∃ before name after,
      (Roster.all settings.dynamic declarations).map Due.name = before ++ name :: after ∧
      before.Nodup ∧ name ∈ before ∧ error = .duplicateName name := by
  obtain ⟨outcome, course, houtcome⟩ := course_resolve declarations bound
  obtain rfl := map_eq_error_iff.mp (houtcome.symm.trans failed)
  obtain ⟨done, next, rest, earlier, seen, place, hdone, hcalls, hfail⟩ := course.split_at_error
  rcases hfail with unmade | ⟨-, taken, rfl⟩
  · -- Nothing that is due is unmade: constructors fit, and sources are there.
    exfalso
    cases next with
    | declared definition =>
      have hcall : (definition, seen) ∈
          (configuration.resolve (.ofDeclarations declarations)).calls :=
        hcalls ▸ List.mem_append_right earlier List.mem_cons_self
      obtain ⟨made, hbuild⟩ := Definition.fits_iff.mp (fits _ hcall)
      rw [map_eq_error_iff.mp unmade] at hbuild
      cases hbuild
    | standard role =>
      obtain ⟨undeclared, hestablish⟩ := Course.establish_of_unmade place hdone unmade
      obtain ⟨transport, hready⟩ := ready undeclared
      cases hestablish.symm.trans hready
  · have hnames := hdone.names_eq
    refine ⟨done.map Due.name, next.name, rest.map Due.name, ?_, ?_, ?_, rfl⟩
    · rw [place, List.map_append, List.map_cons]
    · rw [← hnames]
      exact seen.distinct
    · rw [← hnames]
      exact taken

/-- Whatever a resolution fails with, a fault has arisen. -/
theorem exists_fault
    (secured : configuration.FailsOverStores)
    (failed : (configuration.resolve (.ofDeclarations declarations)).outcome = .error error) :
    ∃ fault : Fault, fault.Arises configuration declarations := by
  cases bound : BrokerSettings.bind configuration.properties configuration.scope with
  | error reason => exact ⟨_, .unbound bound⟩
  | ok settings =>
    -- A transport that is missing fails first, then a constructor that does not fit; without either
    -- it is a name.
    by_cases ready : configuration.Ready settings declarations
    · by_cases fits : ∀ call ∈ (configuration.resolve (.ofDeclarations declarations)).calls,
          call.1.Fits call.2
      · obtain ⟨before, name, after, place, distinct, hname, -⟩ :=
          Configuration.repeat_of_resolve bound ready fits failed
        exact ⟨_, .nameTaken bound ready fits place distinct hname⟩
      · push Not at fits
        obtain ⟨⟨definition, seen⟩, hcall, misfits⟩ := fits
        cases hmade : definition.construct seen with
        | error reason => exact ⟨_, .construction hcall hmade⟩
        | ok made => exact ⟨_, .misfit hcall hmade fun hrole => misfits ⟨made, hmade, hrole⟩⟩
    · unfold Configuration.Ready at ready
      push Not at ready
      obtain ⟨undeclared, unready⟩ := ready
      cases hestablish : configuration.establish settings.connection with
      | error reason =>
        exact ⟨_, .transport bound undeclared (secured _ _ hestablish).1 hestablish⟩
      | ok transport => exact absurd hestablish (unready transport)

end Configuration

/-! ## The fault behind an error -/

namespace Fault.Arises

variable {configuration : Configuration} {declarations : List Declaration}
  {settings : BrokerSettings} {fault other : Fault} {error : ConfigError}

/-- What arises is what a resolution fails with. -/
theorem outcome_eq (h : fault.Arises configuration declarations) :
    (configuration.resolve (.ofDeclarations declarations)).outcome = .error fault.error := by
  cases bound : BrokerSettings.bind configuration.properties configuration.scope with
  | error reason =>
    rw [Configuration.resolve_of_unbound _ bound]
    cases h with
    | unbound unbound =>
      cases bound.symm.trans unbound
      rfl
    | construction hcall | misfit hcall =>
      rw [Configuration.resolve_of_unbound _ bound] at hcall
      cases hcall
    | transport other | nameTaken other =>
      cases bound.symm.trans other
  | ok settings =>
    cases h with
    | unbound unbound =>
      cases bound.symm.trans unbound
    | construction hcall hfail =>
      have misbuilt := Definition.build_eq_error_iff.mpr (.inl hfail)
      exact (Configuration.resolve_of_misbuilt bound hcall misbuilt).1
    | misfit hcall hmade hrole =>
      have misbuilt := Definition.build_eq_error_iff.mpr (.inr ⟨_, hmade, hrole, rfl⟩)
      exact (Configuration.resolve_of_misbuilt bound hcall misbuilt).1
    | transport same undeclared _ failed =>
      cases bound.symm.trans same
      exact (Configuration.resolve_of_unready bound undeclared failed).2
    | @nameTaken _ before after name same ready fits place distinct hname =>
      cases bound.symm.trans same
      cases houtcome : (configuration.resolve (.ofDeclarations declarations)).outcome with
      | ok registry =>
        have nodup := Configuration.nodup_of_resolve bound houtcome
        rw [place] at nodup
        exact absurd nodup (not_nodup_of_repeat hname)
      | error error =>
        obtain ⟨before', name', after', place', distinct', hname', rfl⟩ :=
          Configuration.repeat_of_resolve bound ready fits houtcome
        rw [first_repeat_unique (place.symm.trans place') distinct distinct' hname hname']
        rfl

/-! Each of the following says that nothing arises beside what has arisen. -/

theorem eq_unbound
    (unbound : BrokerSettings.bind configuration.properties configuration.scope = .error error)
    (h : other.Arises configuration declarations) : other = .unbound error := by
  cases h with
  | unbound same =>
    cases unbound.symm.trans same
    rfl
  | construction hcall | misfit hcall =>
    rw [Configuration.resolve_of_unbound _ unbound] at hcall
    cases hcall
  | transport bound | nameTaken bound =>
    cases unbound.symm.trans bound

theorem eq_transport
    (bound : BrokerSettings.bind configuration.properties configuration.scope = .ok settings)
    (undeclared : Roster.definitionsFor declarations .connectionFactory = [])
    (failed : configuration.establish settings.connection = .error error)
    (h : other.Arises configuration declarations) : other = .transport error := by
  cases h with
  | unbound unbound =>
    cases bound.symm.trans unbound
  | construction hcall | misfit hcall =>
    rw [(Configuration.resolve_of_unready bound undeclared failed).1] at hcall
    cases hcall
  | transport same _ _ hestablish =>
    cases bound.symm.trans same
    cases failed.symm.trans hestablish
    rfl
  | nameTaken same ready =>
    cases bound.symm.trans same
    obtain ⟨transport, hready⟩ := ready undeclared
    cases failed.symm.trans hready

theorem eq_call {definition : Definition} {seen : Registry}
    (bound : BrokerSettings.bind configuration.properties configuration.scope = .ok settings)
    (hcall : (definition, seen) ∈ (configuration.resolve (.ofDeclarations declarations)).calls)
    (misfits : ¬definition.Fits seen) (h : other.Arises configuration declarations) :
    (∃ error, definition.construct seen = .error error ∧
        other = .construction definition seen error) ∨
      ∃ made, definition.construct seen = .ok made ∧ other = .misfit definition seen made := by
  obtain ⟨error, misbuilt⟩ : ∃ error, definition.build seen = .error error := by
    cases hbuild : definition.build seen with
    | error error => exact ⟨error, rfl⟩
    | ok made => exact absurd (Definition.fits_iff.mpr ⟨made, hbuild⟩) misfits
  -- Both constructors that do not fit would be the last to run.
  have last {definition' : Definition} {seen' : Registry} {error' : ConfigError}
      (hcall' : (definition', seen') ∈
        (configuration.resolve (.ofDeclarations declarations)).calls)
      (misbuilt' : definition'.build seen' = .error error') :
      definition' = definition ∧ seen' = seen := by
    have hlast := (Configuration.resolve_of_misbuilt bound hcall misbuilt).2
    rw [(Configuration.resolve_of_misbuilt bound hcall' misbuilt').2] at hlast
    cases hlast
    exact ⟨rfl, rfl⟩
  cases h with
  | unbound unbound =>
    cases bound.symm.trans unbound
  | construction hcall' hfail =>
    obtain ⟨rfl, rfl⟩ := last hcall' (Definition.build_eq_error_iff.mpr (.inl hfail))
    exact .inl ⟨_, hfail, rfl⟩
  | misfit hcall' hmade hrole =>
    obtain ⟨rfl, rfl⟩ :=
      last hcall' (Definition.build_eq_error_iff.mpr (.inr ⟨_, hmade, hrole, rfl⟩))
    exact .inr ⟨_, hmade, rfl⟩
  | transport same undeclared _ failed =>
    rw [(Configuration.resolve_of_unready same undeclared failed).1] at hcall
    cases hcall
  | nameTaken _ _ fits => exact absurd (fits _ hcall) misfits

theorem eq_nameTaken {before after : List String} {name : String}
    (bound : BrokerSettings.bind configuration.properties configuration.scope = .ok settings)
    (ready : configuration.Ready settings declarations)
    (fits : ∀ call ∈ (configuration.resolve (.ofDeclarations declarations)).calls,
      call.1.Fits call.2)
    (place : (Roster.all settings.dynamic declarations).map Due.name = before ++ name :: after)
    (distinct : before.Nodup) (hname : name ∈ before)
    (h : other.Arises configuration declarations) : other = .nameTaken name := by
  cases h with
  | unbound unbound =>
    cases bound.symm.trans unbound
  | construction hcall hfail =>
    obtain ⟨made, hmade, -⟩ := fits _ hcall
    cases hfail.symm.trans hmade
  | misfit hcall hmade hrole =>
    obtain ⟨made, hsame, hfits⟩ := fits _ hcall
    cases hmade.symm.trans hsame
    exact absurd hfits hrole
  | transport same undeclared _ failed =>
    cases bound.symm.trans same
    obtain ⟨transport, hready⟩ := ready undeclared
    cases failed.symm.trans hready
  | nameTaken same _ _ place' distinct' hname' =>
    cases bound.symm.trans same
    rw [first_repeat_unique (place.symm.trans place') distinct distinct' hname hname']

/-- At most one fault arises. -/
theorem unique (h : fault.Arises configuration declarations)
    (hother : other.Arises configuration declarations) : other = fault := by
  have bound_of_call {call : Definition × Registry}
      (hcall : call ∈ (configuration.resolve (.ofDeclarations declarations)).calls) :
      ∃ settings,
        BrokerSettings.bind configuration.properties configuration.scope = .ok settings := by
    cases bound : BrokerSettings.bind configuration.properties configuration.scope with
    | ok settings => exact ⟨settings, rfl⟩
    | error error =>
      rw [Configuration.resolve_of_unbound _ bound] at hcall
      cases hcall
  cases h with
  | unbound unbound => exact eq_unbound unbound hother
  | @construction definition seen _ hcall hfail =>
    obtain ⟨settings, bound⟩ := bound_of_call hcall
    have misfits : ¬definition.Fits seen := fun ⟨_, hmade, _⟩ => nomatch hfail.symm.trans hmade
    rcases eq_call bound hcall misfits hother with ⟨error, hsame, rfl⟩ | ⟨made, hmade, -⟩
    · cases hfail.symm.trans hsame
      rfl
    · cases hfail.symm.trans hmade
  | @misfit definition seen _ hcall hmade hrole =>
    obtain ⟨settings, bound⟩ := bound_of_call hcall
    have misfits : ¬definition.Fits seen := by
      rintro ⟨made, hsame, hfits⟩
      cases hmade.symm.trans hsame
      exact hrole hfits
    rcases eq_call bound hcall misfits hother with ⟨error, hfail, -⟩ | ⟨made, hsame, rfl⟩
    · cases hfail.symm.trans hmade
    · cases hmade.symm.trans hsame
      rfl
  | transport bound undeclared _ failed => exact eq_transport bound undeclared failed hother
  | nameTaken bound ready fits place distinct hname =>
    exact eq_nameTaken bound ready fits place distinct hname hother

end Fault.Arises

namespace Configuration

variable {configuration : Configuration} {declarations : List Declaration}
  {settings : BrokerSettings} {error : ConfigError}

/-- If transports fail only with encryption, then there is a fault behind whatever a resolution
fails with. -/
theorem outcome_eq_error_iff
    (secured : ∀ settings, FailsOnly (fun error => settings.useSsl = true ∧ error.OfStore)
      (configuration.establish settings)) :
    (configuration.resolve (.ofDeclarations declarations)).outcome = .error error ↔
      ∃ fault : Fault, fault.Arises configuration declarations ∧ fault.error = error := by
  constructor
  · intro failed
    obtain ⟨fault, arises⟩ := exists_fault secured failed
    exact ⟨fault, arises, Except.error.inj (arises.outcome_eq.symm.trans failed)⟩
  · rintro ⟨fault, arises, rfl⟩
    exact arises.outcome_eq

/-- Only a constructor says that there is no such component. -/
theorem exists_call_of_noSuchComponent {wanted : String}
    (secured : configuration.FailsOverStores)
    (failed : (configuration.resolve (.ofDeclarations declarations)).outcome =
      .error (.noSuchComponent wanted)) :
    ∃ call ∈ (configuration.resolve (.ofDeclarations declarations)).calls,
      call.1.construct call.2 = .error (.noSuchComponent wanted) := by
  obtain ⟨fault, arises, herror⟩ := (outcome_eq_error_iff secured).mp failed
  cases arises with
  | unbound unbound =>
    obtain ⟨_, _, _, -, hmisfit⟩ := BrokerSettings.bind_failsOnly _ _ _ unbound
    cases hmisfit.symm.trans herror
  | construction hcall hfail =>
    cases herror
    exact ⟨_, hcall, hfail⟩
  | misfit | nameTaken => cases herror
  | transport _ _ _ hestablish =>
    obtain ⟨-, store⟩ := secured _ _ hestablish
    cases herror
    cases store

/-- If all constructors that run fit and the standard connection factory can be made where it is
due, then a resolution succeeds just if all names that are due are different. -/
theorem exists_outcome_iff_nodup
    (bound : BrokerSettings.bind configuration.properties configuration.scope = .ok settings)
    (ready : configuration.Ready settings declarations)
    (fits : ∀ call ∈ (configuration.resolve (.ofDeclarations declarations)).calls,
      call.1.Fits call.2) :
    (∃ registry, (configuration.resolve (.ofDeclarations declarations)).outcome = .ok registry) ↔
      ((Roster.all settings.dynamic declarations).map Due.name).Nodup := by
  constructor
  · rintro ⟨registry, resolved⟩
    exact nodup_of_resolve bound resolved
  · intro nodup
    cases houtcome : (configuration.resolve (.ofDeclarations declarations)).outcome with
    | ok registry => exact ⟨registry, rfl⟩
    | error error =>
      obtain ⟨before, name, after, place, -, hname, -⟩ :=
        repeat_of_resolve bound ready fits houtcome
      rw [place] at nodup
      exact absurd nodup (not_nodup_of_repeat hname)

end Configuration

/-! ## Stores -/

/-- Only the standard connection factory needs a transport. -/
theorem Supplies.component_congr {settings : BrokerSettings} {endpoints : List Endpoint}
    {role : Role} (establish other : ConnectionSettings → Except ConfigError Transport)
    (held : Registry) (h : role ≠ .connectionFactory) :
    component ⟨settings, establish, endpoints⟩ held role =
      component ⟨settings, other, endpoints⟩ held role := by
  cases role with
  | connectionFactory => exact absurd rfl h
  | _ => rfl

/-- A plan without the standard connection factory runs the same whatever transports there are. -/
theorem Resolution.run_congr {settings : BrokerSettings} {endpoints : List Endpoint}
    (establish other : ConnectionSettings → Except ConfigError Transport) (held : Registry)
    {steps : List Step} (h : .standard .connectionFactory ∉ steps.filterMap Step.due?) :
    run ⟨settings, establish, endpoints⟩ held steps =
      run ⟨settings, other, endpoints⟩ held steps := by
  induction steps generalizing held with
  | nil => rfl
  | cons next rest ih =>
    have same : step ⟨settings, establish, endpoints⟩ held next =
        step ⟨settings, other, endpoints⟩ held next := by
      cases next with
      | declared | withhold => rfl
      | standard role =>
        have hrole : role ≠ .connectionFactory := by
          rintro rfl
          exact h List.mem_cons_self
        simp only [step, Supplies.component_congr establish other held hrole]
    have later : .standard .connectionFactory ∉ rest.filterMap Step.due? := by
      intro hmem
      obtain ⟨last, hlast, hdue⟩ := List.mem_filterMap.mp hmem
      exact h (List.mem_filterMap.mpr ⟨last, List.mem_cons_of_mem _ hlast, hdue⟩)
    simp only [run, same]
    split
    · rfl
    · rw [ih _ later]

namespace Configuration

/-- Where a connection factory is declared, transports do not matter. -/
theorem resolve_congr {properties : PropertySet} {scope : String} {declarations : List Declaration}
    (establish other : ConnectionSettings → Except ConfigError Transport)
    (declared : Roster.definitionsFor declarations .connectionFactory ≠ []) :
    resolve ⟨properties, scope, establish⟩ (.ofDeclarations declarations) =
      resolve ⟨properties, scope, other⟩ (.ofDeclarations declarations) := by
  unfold resolve
  cases BrokerSettings.bind properties scope with
  | error error => rfl
  | ok settings =>
    have undue : .standard .connectionFactory ∉
        (Plan.steps settings.dynamic (.ofDeclarations declarations)).filterMap Step.due? := by
      rw [Plan.filterMap_due?_steps]
      exact fun hmem => declared (Roster.undeclared_of_standard_mem hmem)
    dsimp only
    rw [Resolution.run_congr establish other Registry.empty undue]

/-- The configuration whose transports are made of the stores among files. -/
def ofStores (properties : PropertySet) (scope : String) (formats : StoreFormats)
    (files : Files) : Configuration :=
  ⟨properties, scope, Transport.establish formats files⟩

/-- A resolution fails with the error of a fault that arises, and at most one does; only a
constructor says that there is no such component; if a connection factory is declared no store is
read; and with settings, constructors that fit and a connection factory that can be made where one
is due, it succeeds just if all names that are due are different. -/
theorem faults_of_resolve (properties : PropertySet) (scope : String) (formats : StoreFormats)
    (files : Files) (declarations : List Declaration) :
    let configuration := ofStores properties scope formats files
    let resolution := configuration.resolve (.ofDeclarations declarations)
    (∀ error, resolution.outcome = .error error ↔
      ∃ fault : Fault, fault.Arises configuration declarations ∧ fault.error = error) ∧
    (∀ fault other : Fault, fault.Arises configuration declarations →
      other.Arises configuration declarations → other = fault) ∧
    (∀ wanted, resolution.outcome = .error (.noSuchComponent wanted) →
      ∃ call ∈ resolution.calls, call.1.construct call.2 = .error (.noSuchComponent wanted)) ∧
    (Roster.definitionsFor declarations .connectionFactory ≠ [] → ∀ establish,
      resolve ⟨properties, scope, establish⟩ (.ofDeclarations declarations) = resolution) ∧
    ∀ settings, BrokerSettings.bind properties scope = .ok settings →
      configuration.Ready settings declarations →
      (∀ call ∈ resolution.calls, call.1.Fits call.2) →
      ((∃ registry, resolution.outcome = .ok registry) ↔
        ((Roster.all settings.dynamic declarations).map Due.name).Nodup) := by
  intro configuration resolution
  have secured : configuration.FailsOverStores := Transport.establish_failsOnly formats files
  refine ⟨fun error => ?_, fun fault other h hother => ?_, fun wanted failed => ?_,
    fun declared establish => ?_, fun settings bound ready fits => ?_⟩
  · exact outcome_eq_error_iff secured
  · exact h.unique hother
  · exact exists_call_of_noSuchComponent secured failed
  · exact resolve_congr establish (Transport.establish formats files) declared
  · exact exists_outcome_iff_nodup bound ready fits

end Configuration

/-- A converter under the conventional name of templates. -/
def Sample.clash : List Declaration :=
  [.component "rabbit_template" (.messageConverter ⟨.given 3, .json⟩)]

/-- The clash is a name that is due twice, and nothing else is wrong; what is due for the other
sample has different names, so it resolves. -/
theorem faults_of_samples :
    (∃ fault : Fault, fault.Arises Sample.configuration Sample.clash ∧
      fault.error = .duplicateName "rabbit_template" ∧
      ∀ other : Fault, other.Arises Sample.configuration Sample.clash → other = fault) ∧
    ∃ registry,
      (Sample.configuration.resolve (.ofDeclarations Sample.declarations)).outcome =
        .ok registry := by
  constructor
  · obtain ⟨fault_iff, unique, -⟩ := Configuration.faults_of_resolve
      Sample.configuration.properties Sample.configuration.scope .standard ⟨[], []⟩ Sample.clash
    obtain ⟨fault, arises, herror⟩ := (fault_iff (.duplicateName "rabbit_template")).mp rfl
    exact ⟨fault, arises, herror, fun other => unique fault other arises⟩
  · obtain ⟨-, -, -, -, succeeds⟩ := Configuration.faults_of_resolve
      Sample.configuration.properties Sample.configuration.scope .standard ⟨[], []⟩
      Sample.declarations
    have fits : ∀ call ∈
        (Sample.configuration.resolve (.ofDeclarations Sample.declarations)).calls,
        call.1.Fits call.2 := by
      have hcalls : (Sample.configuration.resolve (.ofDeclarations Sample.declarations)).calls =
        [_, _] := rfl
      rw [hcalls]
      intro call hcall
      rcases List.mem_cons.mp hcall with rfl | hcall
      · exact ⟨_, rfl, rfl⟩
      · rw [List.mem_singleton.mp hcall]
        exact ⟨_, rfl, rfl⟩
    refine (succeeds _ rfl (fun _ => ⟨_, rfl⟩) fits).mpr ?_
    show ["rabbit_connection_factory", "json", "orders", "rabbit_messaging_template"].Nodup
    decide

end BrokerWiring
