import BrokerWiring.Proofs.Outcome
import BrokerWiring.Proofs.Registry.Growth
import BrokerWiring.Proofs.Wiring.Roster

/-!
# The course of a wiring

`Course` tells what a wiring does as a relation: on a registry, one thing that is due after the
other is made and registered, until nothing is due any more or something fails. It says which
constructors run and what they see, and leaves out what is only noted. The function that wires
keeps to it (`course_run`, `course_resolve`), and what follows here is proved by induction on a
course, one case for each way to go on.
-/

namespace BrokerWiring

open Outcome

namespace Definition

variable {definition : Definition} {held : Registry}

/-- A definition is built if its constructor makes a component of its role. -/
theorem build_eq_ok_iff {made : Component} :
    definition.build held = .ok made ↔
      definition.construct held = .ok made ∧ made.role = definition.role := by
  unfold build
  cases definition.construct held with
  | error e => simp
  | ok other =>
    simp only [Except.ok.injEq]
    split
    · rename_i fits
      simp only [Except.ok.injEq]
      exact ⟨fun h => ⟨h, h ▸ fits⟩, And.left⟩
    · rename_i misfits
      exact ⟨nofun, fun ⟨h, fits⟩ => absurd (h ▸ fits) misfits⟩

/-- It is not if the constructor fails, or makes a component of another role. -/
theorem build_eq_error_iff {error : ConfigError} :
    definition.build held = .error error ↔
      definition.construct held = .error error ∨
        ∃ made, definition.construct held = .ok made ∧ made.role ≠ definition.role ∧
          error = .roleMismatch definition.name definition.role.title made.role.title := by
  unfold build
  cases definition.construct held with
  | error e => simp
  | ok made =>
    simp only [reduceCtorEq, false_or, Except.ok.injEq, exists_eq_left']
    split
    · rename_i fits
      simp [fits]
    · rename_i misfits
      simp [misfits, eq_comm]

end Definition

/-- A standard component fills its role. -/
theorem Supplies.role_of_component {supplies : Supplies} {held : Registry} {role : Role}
    {made : Component} (h : supplies.component held role = .ok made) : made.role = role := by
  unfold component at h
  cases role with
  | messageConverter => cases h
  | endpointProcessor | endpointRegistry =>
    cases h
    rfl
  | connectionFactory | template | messagingTemplate | admin | containerFactory =>
    obtain ⟨_, -, hmade⟩ := bind_eq_ok_iff.mp h
    cases hmade
    rfl

namespace Due

variable {supplies : Supplies} {held : Registry} {due : Due}

/-- The entry of what is due, made on the registry so far. -/
def entry (supplies : Supplies) (held : Registry) : Due → Except ConfigError Entry
  | .declared definition =>
    (definition.build held).map fun made => ⟨definition.name, made, .declared⟩
  | .standard role =>
    (supplies.component held role).map fun made => ⟨role.conventionalName, made, .standard⟩

/-- The constructor that runs for what is due, with the registry that it sees. -/
def calls (held : Registry) : Due → List (Definition × Registry)
  | .declared definition => [(definition, held)]
  | .standard _ => []

/-- An entry has the name that is due and fills the role. -/
theorem name_role_of_entry {entry : Entry} (h : due.entry supplies held = .ok entry) :
    entry.name = due.name ∧ entry.component.role = due.role := by
  cases due with
  | declared definition =>
    obtain ⟨made, hbuild, rfl⟩ := map_eq_ok_iff.mp h
    exact ⟨rfl, (Definition.build_eq_ok_iff.mp hbuild).2⟩
  | standard role =>
    obtain ⟨made, hmade, rfl⟩ := map_eq_ok_iff.mp h
    exact ⟨rfl, Supplies.role_of_component hmade⟩

theorem map_fst_calls : (due.calls held).map Prod.fst = due.definition?.toList := by
  cases due <;> rfl

end Due

/-! ## Courses -/

/-- From a registry, through what is due: the constructors that run with what they see, and the
outcome. -/
inductive Course (supplies : Supplies) :
    Registry → List Due → List (Definition × Registry) → Except ConfigError Registry → Prop
  /-- Nothing is due any more. -/
  | finished (held : Registry) : Course supplies held [] [] (.ok held)
  /-- The next component cannot be made. -/
  | unmade {held : Registry} {due : Due} {rest : List Due} {error : ConfigError} :
      due.entry supplies held = .error error →
      Course supplies held (due :: rest) (due.calls held) (.error error)
  /-- The next component is made, but its name is taken. -/
  | refused {held : Registry} {due : Due} {rest : List Due} {entry : Entry} :
      due.entry supplies held = .ok entry → due.name ∈ held.names →
      Course supplies held (due :: rest) (due.calls held) (.error (.duplicateName due.name))
  /-- The next component is made and comes behind the others, and the course goes on. -/
  | registered {held grown : Registry} {due : Due} {rest : List Due} {entry : Entry}
      {calls : List (Definition × Registry)} {outcome : Except ConfigError Registry} :
      due.entry supplies held = .ok entry → due.name ∉ held.names →
      grown.entries = held.entries ++ [entry] → Course supplies grown rest calls outcome →
      Course supplies held (due :: rest) (due.calls held ++ calls) outcome

namespace Resolution

variable {supplies : Supplies} {held grown : Registry} {next : Step}

/-- A step does what has to be done for what is due. -/
theorem step_of_due (supplies : Supplies) (held : Registry) {due : Due} (h : next.due? = some due) :
    (step supplies held next).calls = due.calls held ∧
      (step supplies held next).outcome = due.entry supplies held >>= held.insert := by
  cases next with
  | declared definition =>
    cases h
    simp only [step, Due.entry]
    cases definition.build held <;> exact ⟨rfl, rfl⟩
  | standard role =>
    cases h
    simp only [step, Due.entry]
    cases supplies.component held role <;> exact ⟨rfl, rfl⟩
  | withhold count => cases h

/-- A step for which nothing is due does nothing. -/
theorem step_of_nothing_due (supplies : Supplies) (held : Registry) (h : next.due? = none) :
    (step supplies held next).calls = [] ∧ (step supplies held next).outcome = .ok held := by
  cases next with
  | withhold count => exact ⟨rfl, rfl⟩
  | _ => cases h

/-- A step that fails ends the run. -/
theorem run_of_error (rest : List Step) {error : ConfigError}
    (h : (step supplies held next).outcome = .error error) :
    (run supplies held (next :: rest)).calls = (step supplies held next).calls ∧
      (run supplies held (next :: rest)).outcome = .error error := by
  simp only [run, h]
  exact ⟨rfl, trivial⟩

/-- Behind a step that succeeds the run goes on with the registry that it leaves. -/
theorem run_of_ok (rest : List Step)
    (h : (step supplies held next).outcome = .ok grown) :
    (run supplies held (next :: rest)).calls =
        (step supplies held next).calls ++ (run supplies grown rest).calls ∧
      (run supplies held (next :: rest)).outcome = (run supplies grown rest).outcome := by
  simp only [run, h]
  exact ⟨List.filterMap_append, rfl⟩

/-- The steps of a plan take the course of what they have to register. -/
theorem course_run (supplies : Supplies) (held : Registry) (steps : List Step) :
    Course supplies held (steps.filterMap Step.due?) (run supplies held steps).calls
      (run supplies held steps).outcome := by
  -- Induction on the plan. What is only noted leaves no trace; any other step makes an entry or
  -- does not, and inserts it or does not.
  induction steps generalizing held with
  | nil => exact .finished held
  | cons next rest ih =>
    cases hdue : next.due? with
    | none =>
      obtain ⟨hcalls, houtcome⟩ := step_of_nothing_due supplies held hdue
      obtain ⟨hrun, hend⟩ := run_of_ok rest houtcome
      rw [List.filterMap_cons_none hdue, hrun, hend, hcalls]
      exact ih held
    | some due =>
      obtain ⟨hcalls, houtcome⟩ := step_of_due supplies held hdue
      rw [List.filterMap_cons_some hdue]
      cases hentry : due.entry supplies held with
      | error error =>
        rw [hentry] at houtcome
        obtain ⟨hrun, hend⟩ := run_of_error rest houtcome
        rw [hrun, hend, hcalls]
        exact .unmade hentry
      | ok entry =>
        rw [hentry] at houtcome
        have hname := (Due.name_role_of_entry hentry).1
        cases hinsert : held.insert entry with
        | error error =>
          obtain ⟨hrun, hend⟩ := run_of_error rest (houtcome.trans hinsert)
          obtain ⟨taken, rfl⟩ := Registry.insert_eq_error_iff.mp hinsert
          rw [hrun, hend, hcalls, hname]
          exact .refused hentry (hname ▸ taken)
        | ok grown =>
          obtain ⟨hrun, hend⟩ := run_of_ok rest (houtcome.trans hinsert)
          obtain ⟨free, hgrown⟩ := Registry.insert_eq_ok_iff.mp hinsert
          rw [hrun, hend, hcalls]
          exact .registered hentry (hname ▸ free) hgrown (ih grown)

end Resolution

/-! ## What a course leaves behind -/

/-- What was due is done: a definition's constructor has run, and its component is registered under
its name; a standard component is registered under the conventional name of its role. -/
inductive Due.Fulfilled (calls : List (Definition × Registry)) : Due → Entry → Prop
  | declared {definition : Definition} {seen : Registry} {made : Component} :
      (definition, seen) ∈ calls → definition.construct seen = .ok made →
      made.role = definition.role →
      Fulfilled calls (.declared definition) ⟨definition.name, made, .declared⟩
  | standard {role : Role} {made : Component} :
      made.role = role → Fulfilled calls (.standard role) ⟨role.conventionalName, made, .standard⟩

namespace Due

variable {supplies : Supplies} {held : Registry} {due : Due} {entry : Entry}
  {calls more : List (Definition × Registry)}

theorem Fulfilled.mono (h : due.Fulfilled calls entry) (sub : ∀ call ∈ calls, call ∈ more) :
    due.Fulfilled more entry := by
  cases h with
  | declared hcall hmade hrole => exact .declared (sub _ hcall) hmade hrole
  | standard hrole => exact .standard hrole

theorem fulfilled_of_entry (h : due.entry supplies held = .ok entry) :
    due.Fulfilled (due.calls held) entry := by
  cases due with
  | declared definition =>
    obtain ⟨made, hbuild, rfl⟩ := map_eq_ok_iff.mp h
    obtain ⟨hmade, hrole⟩ := Definition.build_eq_ok_iff.mp hbuild
    exact .declared List.mem_cons_self hmade hrole
  | standard role =>
    obtain ⟨made, hmade, rfl⟩ := map_eq_ok_iff.mp h
    exact .standard (Supplies.role_of_component hmade)

theorem Fulfilled.name_eq (h : due.Fulfilled calls entry) : entry.name = due.name := by
  cases h <;> rfl

theorem Fulfilled.role_eq (h : due.Fulfilled calls entry) : entry.component.role = due.role := by
  cases h with
  | declared _ _ hrole => exact hrole
  | standard hrole => exact hrole

/-- At most one constructor runs for what is due. -/
theorem eq_of_calls {earlier later : List (Definition × Registry)} {definition : Definition}
    {seen : Registry} (h : due.calls held = earlier ++ (definition, seen) :: later) :
    due = .declared definition ∧ seen = held ∧ earlier = [] := by
  cases due with
  | standard role => simp [calls] at h
  | declared own =>
    cases earlier with
    | nil =>
      cases h
      exact ⟨rfl, rfl, rfl⟩
    | cons call earlier => simp [calls] at h

theorem map_name_eq {dues : List Due} {entries : List Entry}
    (h : List.Forall₂ (Fulfilled calls) dues entries) :
    entries.map Entry.name = dues.map Due.name := by
  induction h with
  | nil => rfl
  | cons hentry _ ih => rw [List.map_cons, List.map_cons, ih, hentry.name_eq]

end Due

namespace Course

variable {supplies : Supplies} {held last : Registry} {dues : List Due}
  {calls : List (Definition × Registry)} {outcome : Except ConfigError Registry}

/-- The constructors run in the order in which they are due, and none out of turn. -/
theorem map_fst_calls_prefix (h : Course supplies held dues calls outcome) :
    calls.map Prod.fst <+: dues.filterMap Due.definition? := by
  induction h with
  | finished => exact List.prefix_rfl
  | @unmade held due rest _ _ | @refused held due rest _ _ _ =>
    rw [Due.map_fst_calls, ← List.singleton_append, List.filterMap_append]
    cases due <;> exact List.prefix_append _ _
  | @registered held grown due rest _ _ _ _ _ _ _ ih =>
    rw [List.map_append, Due.map_fst_calls, ← List.singleton_append, List.filterMap_append]
    cases due <;> exact (List.prefix_append_right_inj _).mpr ih

/-- Every constructor sees at least what was there before the course. -/
theorem held_prefix (h : Course supplies held dues calls outcome) :
    ∀ call ∈ calls, held.entries <+: call.2.entries := by
  have own {held : Registry} {due : Due} :
      ∀ call ∈ due.calls held, held.entries <+: call.2.entries := by
    intro call hcall
    cases due with
    | declared definition =>
      obtain rfl := List.mem_singleton.mp hcall
      exact List.prefix_rfl
    | standard role => cases hcall
  induction h with
  | finished => simp
  | unmade | refused => exact own
  | registered _ _ hgrown _ ih =>
    intro call hcall
    rcases List.mem_append.mp hcall with hcall | hcall
    · exact own call hcall
    · exact (hgrown ▸ List.prefix_append _ _).trans (ih call hcall)

/-- What one constructor sees, every later one sees too. -/
theorem pairwise_prefix (h : Course supplies held dues calls outcome) :
    calls.Pairwise fun earlier later => earlier.2.entries <+: later.2.entries := by
  have single (held : Registry) (due : Due) : (due.calls held).Pairwise
      fun earlier later => earlier.2.entries <+: later.2.entries := by
    cases due <;> simp [Due.calls]
  induction h with
  | finished => exact .nil
  | unmade | refused => exact single _ _
  | @registered held grown due rest _ _ _ _ _ hgrown hrest ih =>
    rw [List.pairwise_append]
    refine ⟨single held due, ih, fun earlier hearlier later hlater => ?_⟩
    cases due with
    | declared definition =>
      rw [List.mem_singleton.mp hearlier]
      exact (hgrown ▸ List.prefix_append _ _).trans (hrest.held_prefix later hlater)
    | standard role => cases hearlier

/-- A course that comes to its end has fulfilled all that was due, in that order, and has run all
constructors that were due. -/
theorem fulfilled (h : Course supplies held dues calls (.ok last)) :
    calls.map Prod.fst = dues.filterMap Due.definition? ∧
      ∃ added, last.entries = held.entries ++ added ∧
        List.Forall₂ (Due.Fulfilled calls) dues added := by
  generalize hend : Except.ok last = outcome at h
  induction h with
  | finished held =>
    cases hend
    exact ⟨rfl, [], (List.append_nil _).symm, .nil⟩
  | unmade | refused => cases hend
  | @registered held grown due rest entry calls _ hentry _ hgrown _ ih =>
    obtain ⟨hcalls, added, hlast, hadded⟩ := ih hend
    -- Fulfilled is what one of the calls has made, so it stays so with the calls of the rest.
    refine ⟨?_, entry :: added, ?_, .cons ?_ ?_⟩
    · rw [List.map_append, Due.map_fst_calls, hcalls]
      cases due <;> rfl
    · rw [hlast, hgrown, List.append_assoc, List.singleton_append]
    · exact (Due.fulfilled_of_entry hentry).mono fun _ => List.mem_append_left _
    · exact hadded.imp fun _ _ hdone => hdone.mono fun _ => List.mem_append_right _

/-- What a constructor sees is still there, in the same place, when a course comes to its end. -/
theorem prefix_last (h : Course supplies held dues calls (.ok last)) :
    ∀ call ∈ calls, call.2.entries <+: last.entries := by
  generalize hend : Except.ok last = outcome at h
  induction h with
  | finished => simp
  | unmade | refused => cases hend
  | @registered held grown due rest entry calls _ _ _ hgrown hrest ih =>
    intro call hcall
    rcases List.mem_append.mp hcall with hcall | hcall
    · subst hend
      obtain ⟨-, added, hlast, -⟩ := hrest.fulfilled
      cases due with
      | declared definition =>
        rw [List.mem_singleton.mp hcall, hlast, hgrown, List.append_assoc]
        exact List.prefix_append _ _
      | standard role => cases hcall
    · exact ih hend call hcall

/-- From nothing, a course that comes to its end leaves what was due, and nothing else. -/
theorem entries_fulfilled (h : Course supplies .empty dues calls (.ok last)) :
    List.Forall₂ (Due.Fulfilled calls) dues last.entries := by
  obtain ⟨-, added, hlast, hadded⟩ := h.fulfilled
  have hentries : last.entries = added := hlast
  exact hentries ▸ hadded

theorem names_eq (h : Course supplies .empty dues calls (.ok last)) :
    last.names = dues.map Due.name := Due.map_name_eq h.entries_fulfilled

/-- A constructor that fails, or makes a component of another role, is the last to run, and the
course fails with its error. -/
theorem last_of_misbuilt {definition : Definition} {seen : Registry} {error : ConfigError}
    (h : Course supplies held dues calls outcome) (hcall : (definition, seen) ∈ calls)
    (misbuilt : definition.build seen = .error error) :
    outcome = .error error ∧ calls.getLast? = some (definition, seen) := by
  -- Where an entry was made, the constructor that ran for it is another one.
  have built {held : Registry} {due : Due} {entry : Entry}
      (hentry : due.entry supplies held = .ok entry) :
      (definition, seen) ∉ due.calls held := by
    intro hmem
    obtain ⟨earlier, later, hcalls⟩ := List.append_of_mem hmem
    obtain ⟨rfl, rfl, -⟩ := Due.eq_of_calls hcalls
    obtain ⟨made, hbuild, -⟩ := map_eq_ok_iff.mp hentry
    rw [misbuilt] at hbuild
    cases hbuild
  induction h with
  | finished => cases hcall
  | @unmade held due rest other hentry =>
    obtain ⟨earlier, later, hcalls⟩ := List.append_of_mem hcall
    obtain ⟨rfl, rfl, -⟩ := Due.eq_of_calls hcalls
    have hother : definition.build seen = .error other := map_eq_error_iff.mp hentry
    rw [misbuilt] at hother
    cases hother
    exact ⟨rfl, rfl⟩
  | refused hentry => exact absurd hcall (built hentry)
  | registered hentry _ _ _ ih =>
    obtain ⟨hend, hlast⟩ := ih ((List.mem_append.mp hcall).resolve_left (built hentry))
    refine ⟨hend, ?_⟩
    rw [List.getLast?_append, hlast, Option.some_or]

/-! ## Taking a course apart -/

/-- Where a constructor runs, the course up to there has come to its end, with the registry that the
constructor sees. -/
theorem split_at_call {earlier later : List (Definition × Registry)} {definition : Definition}
    {seen : Registry}
    (h : Course supplies held dues (earlier ++ (definition, seen) :: later) outcome) :
    ∃ done rest, dues = done ++ .declared definition :: rest ∧
      Course supplies held done earlier (.ok seen) := by
  generalize hcalls : earlier ++ (definition, seen) :: later = calls at h
  induction h generalizing earlier with
  | finished => simp at hcalls
  | @unmade held due rest _ _ | @refused held due rest _ _ _ =>
    obtain ⟨rfl, rfl, rfl⟩ := Due.eq_of_calls hcalls.symm
    exact ⟨[], rest, rfl, .finished _⟩
  | @registered held grown due rest entry calls _ hentry hfree hgrown _ ih =>
    cases due with
    | standard role =>
      obtain ⟨done, rest', rfl, hdone⟩ := ih hcalls
      exact ⟨.standard role :: done, rest', rfl, .registered hentry hfree hgrown hdone⟩
    | declared own =>
      -- The call is the one that comes first, or one of those behind it.
      cases earlier with
      | nil =>
        cases hcalls
        exact ⟨[], rest, rfl, .finished _⟩
      | cons call earlier =>
        obtain ⟨rfl, hrest⟩ := List.cons.inj hcalls
        obtain ⟨done, rest', rfl, hdone⟩ := ih hrest
        exact ⟨.declared own :: done, rest', rfl, .registered hentry hfree hgrown hdone⟩

/-- Where a course fails, it has come to its end up to there, and what is due next cannot be made
or its name is taken. -/
theorem split_at_error {error : ConfigError} (h : Course supplies held dues calls (.error error)) :
    ∃ done next rest earlier seen, dues = done ++ next :: rest ∧
      Course supplies held done earlier (.ok seen) ∧ calls = earlier ++ next.calls seen ∧
      (next.entry supplies seen = .error error ∨
        (∃ entry, next.entry supplies seen = .ok entry) ∧ next.name ∈ seen.names ∧
          error = .duplicateName next.name) := by
  generalize hend : Except.error error = outcome at h
  induction h with
  | finished => cases hend
  | @unmade held due rest _ hentry =>
    cases hend
    exact ⟨[], due, rest, [], held, rfl, .finished held, rfl, .inl hentry⟩
  | @refused held due rest entry hentry htaken =>
    cases hend
    exact ⟨[], due, rest, [], held, rfl, .finished held, rfl, .inr ⟨⟨entry, hentry⟩, htaken, rfl⟩⟩
  | @registered held grown due rest entry calls _ hentry hfree hgrown _ ih =>
    obtain ⟨done, next, rest', earlier, seen, rfl, hdone, rfl, hfail⟩ := ih hend
    exact ⟨due :: done, next, rest', due.calls held ++ earlier, seen, rfl,
      .registered hentry hfree hgrown hdone, (List.append_assoc ..).symm, hfail⟩

/-- Where an entry came in, the course up to there has come to its end, and the entry was made from
the registry that it left. -/
theorem split_at_entry {entry : Entry} (h : Course supplies held dues calls (.ok last))
    (hmem : entry ∈ last.entries) (new : entry ∉ held.entries) :
    ∃ done next rest earlier seen added, dues = done ++ next :: rest ∧
      Course supplies held done earlier (.ok seen) ∧ next.entry supplies seen = .ok entry ∧
      last.entries = seen.entries ++ entry :: added ∧
      List.Forall₂ (Due.Fulfilled calls) rest added := by
  generalize hend : Except.ok last = outcome at h
  induction h with
  | finished =>
    cases hend
    exact absurd hmem new
  | unmade | refused => cases hend
  | @registered held grown due rest other calls _ hother hfree hgrown hrest ih =>
    -- The entry is the one that has just come in, or it is new behind that one too.
    by_cases hsame : entry = other
    · subst hsame hend
      obtain ⟨-, added, hlast, hadded⟩ := hrest.fulfilled
      refine ⟨[], due, rest, [], held, added, rfl, .finished held, hother, ?_, ?_⟩
      · rw [hlast, hgrown, List.append_assoc, List.singleton_append]
      · exact hadded.imp fun _ _ hdone => hdone.mono fun _ => List.mem_append_right _
    · have fresh : entry ∉ grown.entries := by
        rw [hgrown]
        simp [new, hsame]
      obtain ⟨done, next, rest', earlier, seen, added, rfl, hdone, hentry, hlast, hadded⟩ :=
        ih fresh hend
      exact ⟨due :: done, next, rest', due.calls held ++ earlier, seen, added, rfl,
        .registered hother hfree hgrown hdone, hentry, hlast,
        hadded.imp fun _ _ hdone => hdone.mono fun _ => List.mem_append_right _⟩

end Course

/-! ## Resolutions -/

namespace Configuration

variable {configuration : Configuration} {settings : BrokerSettings}

/-- The supplies of a resolution. -/
def supplies (configuration : Configuration) (settings : BrokerSettings)
    (declarations : List Declaration) : Supplies :=
  ⟨settings, configuration.establish, (Definitions.ofDeclarations declarations).endpoints⟩

/-- Without settings nothing is wired. -/
theorem resolve_of_unbound {error : ConfigError} (definitions : Definitions)
    (unbound : BrokerSettings.bind configuration.properties configuration.scope = .error error) :
    configuration.resolve definitions = ⟨[], .error error⟩ := by
  unfold resolve
  rw [unbound]

/-- With settings a resolution takes the course of what is due, and hands over the endpoints of
what came of it. -/
theorem course_resolve (declarations : List Declaration)
    (bound : BrokerSettings.bind configuration.properties configuration.scope = .ok settings) :
    ∃ outcome,
      Course (configuration.supplies settings declarations) .empty
        (Roster.all settings.dynamic declarations)
        (configuration.resolve (.ofDeclarations declarations)).calls outcome ∧
      (configuration.resolve (.ofDeclarations declarations)).outcome =
        outcome.map Registry.handOver := by
  have course := Resolution.course_run (configuration.supplies settings declarations) .empty
    (Plan.steps settings.dynamic (.ofDeclarations declarations))
  rw [Plan.filterMap_due?_steps] at course
  unfold resolve
  rw [bound]
  exact ⟨_, course, rfl⟩

/-- A registry that a resolution returns is what a course through all that is due came to, with the
endpoints handed over. -/
theorem exists_course_of_resolve {declarations : List Declaration} {registry : Registry}
    (resolved : (configuration.resolve (.ofDeclarations declarations)).outcome = .ok registry) :
    ∃ settings last,
      BrokerSettings.bind configuration.properties configuration.scope = .ok settings ∧
      Course (configuration.supplies settings declarations) .empty
        (Roster.all settings.dynamic declarations)
        (configuration.resolve (.ofDeclarations declarations)).calls (.ok last) ∧
      registry = last.handOver := by
  cases bound : BrokerSettings.bind configuration.properties configuration.scope with
  | error error =>
    rw [resolve_of_unbound _ bound] at resolved
    cases resolved
  | ok settings =>
    obtain ⟨outcome, course, houtcome⟩ := course_resolve declarations bound
    obtain ⟨last, rfl, hlast⟩ := map_eq_ok_iff.mp (houtcome.symm.trans resolved)
    exact ⟨settings, last, rfl, course, hlast.symm⟩

end Configuration

end BrokerWiring
