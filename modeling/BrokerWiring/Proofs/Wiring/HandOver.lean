import BrokerWiring.Proofs.Listener.Registration
import BrokerWiring.Proofs.Wiring.Endpoints

/-!
# What the hand-over changes

The last thing that a wiring does is to hand endpoints over. What there is just before that is
`Configuration.assembled`, and `Registry.HandsOver` says what becomes of it: the endpoint registry
that counts takes the endpoints of the processor that counts, and all else stays, other endpoint
registries included. Without either of the two nothing changes at all. Whether listeners are off
makes no difference to this; it only decides which of the two are there. No endpoint registry of a
wiring has an id twice, as long as the caller brings none that has (`Course.proper`).
-/

namespace BrokerWiring

open Outcome

/-! ## Just before the hand-over -/

namespace Configuration

/-- What the definitions and the properties ask for, with no endpoints handed over yet. -/
def assembled (configuration : Configuration) (definitions : Definitions) :
    Except ConfigError Registry := do
  let settings ← BrokerSettings.bind configuration.properties configuration.scope
  (Resolution.run ⟨settings, configuration.establish, definitions.endpoints⟩ .empty
    (Plan.steps settings.dynamic definitions)).outcome

/-- The hand-over is all that a resolution does to what is assembled. -/
theorem outcome_resolve (configuration : Configuration) (definitions : Definitions) :
    (configuration.resolve definitions).outcome =
      (configuration.assembled definitions).map Registry.handOver := by
  unfold resolve assembled
  cases BrokerSettings.bind configuration.properties configuration.scope <;> rfl

/-- What is assembled is what a course through all that is due came to. -/
theorem exists_course_of_assembled {configuration : Configuration}
    {declarations : List Declaration} {last : Registry}
    (h : configuration.assembled (.ofDeclarations declarations) = .ok last) :
    ∃ settings calls, Course (configuration.supplies settings declarations) .empty
      (Roster.all settings.dynamic declarations) calls (.ok last) := by
  obtain ⟨settings, -, hrun⟩ := bind_eq_ok_iff.mp h
  have course := Resolution.course_run (configuration.supplies settings declarations) .empty
    (Plan.steps settings.dynamic (.ofDeclarations declarations))
  rw [Plan.filterMap_due?_steps] at course
  exact ⟨settings, _, hrun ▸ course⟩

end Configuration

/-! ## What the hand-over does to an entry -/

/-- An entry, and what the hand-over makes of it. Only the registry of the identity `target` takes
endpoints, under whatever name it is registered. -/
structure Entry.HandedOver (offered : List Endpoint) (target : Identity)
    (before after : Entry) : Prop where
  name_eq : after.name = before.name
  origin_eq : after.origin = before.origin
  taken : ∀ own, before.component = .endpointRegistry ⟨target, own⟩ →
    ∃ filled, after.component = .endpointRegistry ⟨target, filled⟩ ∧ own.Takes offered filled
  others : (∀ own, before.component ≠ .endpointRegistry ⟨target, own⟩) →
    after.component = before.component

theorem Entry.handedOver_fill (processor : EndpointProcessor) (target : Identity)
    (entry : Entry) :
    entry.HandedOver processor.endpoints target
      { entry with component := Registry.fill processor target entry.component } where
  name_eq := rfl
  origin_eq := rfl
  taken own h := by
    refine ⟨processor.registerAll own, ?_, own.takes_registerEach processor.endpoints⟩
    show Registry.fill processor target entry.component = _
    rw [h, Registry.fill, if_pos rfl]
  others h := by
    show Registry.fill processor target entry.component = entry.component
    unfold Registry.fill
    split
    · rename_i c hc
      have other : c.id ≠ target := fun same => h c.value (same ▸ hc)
      rw [if_neg other, hc]
    · rfl

/-! ## What the hand-over does to a registry -/

namespace Registry

variable {registry last : Registry} {processor : Shared EndpointProcessor}
  {target : Shared EndpointRegistry}

theorem first?_of_endpointProcessor (h : registry.endpointProcessor = .ok processor) :
    registry.first? .endpointProcessor = some (.endpointProcessor processor) := by
  cases found : registry.first? .endpointProcessor with
  | none => simp [endpointProcessor, lookup, found] at h
  | some component =>
    obtain ⟨c, rfl⟩ := Component.exists_endpointProcessor (role_of_first? found)
    cases h.symm.trans (endpointProcessor_of_first? found)
    rfl

theorem first?_of_endpointRegistry (h : registry.endpointRegistry = .ok target) :
    registry.first? .endpointRegistry = some (.endpointRegistry target) := by
  cases found : registry.first? .endpointRegistry with
  | none => simp [endpointRegistry, lookup, found] at h
  | some component =>
    obtain ⟨c, rfl⟩ := Component.exists_endpointRegistry (role_of_first? found)
    cases h.symm.trans (endpointRegistry_of_first? found)
    rfl

/-- What the hand-over makes of the registry `last`. -/
structure HandsOver (last registry : Registry) : Prop where
  /-- Where both roles are filled, the first endpoint registry takes the endpoints of the first
  processor, and no other instance changes. -/
  both : ∀ processor target,
    registry.endpointProcessor = .ok processor → registry.endpointRegistry = .ok target →
    ∃ own, last.endpointProcessor = .ok processor ∧ last.endpointRegistry = .ok own ∧
      target.id = own.id ∧ own.value.Takes processor.value.endpoints target.value ∧
      List.Forall₂ (Entry.HandedOver processor.value.endpoints own.id)
        last.entries registry.entries
  /-- Where one of them is not, nothing changes. -/
  absent : (∀ processor, registry.endpointProcessor ≠ .ok processor) ∨
      (∀ target, registry.endpointRegistry ≠ .ok target) →
    registry = last

/-- The processor that counts is the same before and behind the hand-over. -/
theorem endpointProcessor_handOver (last : Registry) :
    last.handOver.endpointProcessor = last.endpointProcessor :=
  lookup_congr (last.first?_handOver (by decide))

theorem handOver_of_absent
    (h : (∀ processor, last.endpointProcessor ≠ .ok processor) ∨
      (∀ own, last.endpointRegistry ≠ .ok own)) : last.handOver = last := by
  unfold handOver
  split
  · rename_i hprocessor hown
    rcases h with h | h
    · exact absurd hprocessor (h _)
    · exact absurd hown (h _)
  · rfl

theorem handOver_of_ok {own : Shared EndpointRegistry}
    (hprocessor : last.endpointProcessor = .ok processor)
    (hown : last.endpointRegistry = .ok own) :
    last.handOver = last.mapComponents (fill processor.value own.id) := by
  unfold handOver
  rw [hprocessor, hown]

theorem handsOver_handOver (last : Registry) : last.HandsOver last.handOver := by
  by_cases absent : (∀ processor, last.endpointProcessor ≠ .ok processor) ∨
      (∀ own, last.endpointRegistry ≠ .ok own)
  · have same := handOver_of_absent absent
    refine ⟨fun processor target hprocessor htarget => ?_, fun _ => same⟩
    rw [same] at hprocessor htarget
    rcases absent with absent | absent
    · exact absurd hprocessor (absent processor)
    · exact absurd htarget (absent target)
  · push Not at absent
    obtain ⟨⟨processor, hprocessor⟩, own, hown⟩ := absent
    have kept : last.handOver.endpointProcessor = .ok processor :=
      last.endpointProcessor_handOver.trans hprocessor
    have filled : last.handOver.endpointRegistry =
        .ok ⟨own.id, processor.value.registerAll own.value⟩ :=
      endpointRegistry_of_first? (first?_handOver_endpointRegistry
        (first?_of_endpointProcessor hprocessor) (first?_of_endpointRegistry hown))
    refine ⟨fun _ _ hfirst hsecond => ?_, fun absent => ?_⟩
    · cases hfirst.symm.trans kept
      cases hsecond.symm.trans filled
      refine ⟨own, hprocessor, hown, rfl, own.value.takes_registerEach _, ?_⟩
      rw [handOver_of_ok hprocessor hown, mapComponents, List.forall₂_map_right_iff]
      exact List.forall₂_same.mpr fun entry _ => entry.handedOver_fill _ _
    · rcases absent with absent | absent
      · exact absurd kept (absent _)
      · exact absurd filled (absent _)

end Registry

/-! ## Endpoint registries without an id twice -/

/-- An endpoint registry has no id twice. -/
def Component.Proper : Component → Prop
  | .endpointRegistry c => (c.value.endpoints.map Endpoint.id).Nodup
  | _ => True

def Registry.Proper (registry : Registry) : Prop :=
  ∀ entry ∈ registry.entries, entry.component.Proper

/-- A constructor makes its endpoint registry by calls, or passes one on that it finds. -/
def Definition.Proper (definition : Definition) : Prop :=
  ∀ seen made, seen.Proper → definition.construct seen = .ok made → made.Proper

/-- Whatever calls make of an empty endpoint registry has none twice. -/
theorem Component.proper_behind (id : Identity) (calls : List EndpointRegistry.Call) :
    (Component.endpointRegistry
      ⟨id, (EndpointRegistry.Stage.behind {} calls).registry⟩).Proper :=
  EndpointRegistry.nodup_behind calls List.nodup_nil

theorem Registry.proper_empty : empty.Proper := List.forall_mem_nil _

theorem Component.proper_of_role_ne {component : Component}
    (h : component.role ≠ .endpointRegistry) : component.Proper := by
  cases component with
  | endpointRegistry c => exact absurd rfl h
  | _ => trivial

theorem Definition.proper_ofComponent {name : String} {component : Component}
    (h : component.Proper) : (ofComponent name component).Proper := by
  rintro seen made - hmade
  cases hmade
  exact h

theorem Supplies.proper_of_component {supplies : Supplies} {held : Registry} {role : Role}
    {made : Component} (h : supplies.component held role = .ok made) : made.Proper := by
  by_cases registry : role = .endpointRegistry
  · subst registry
    cases h
    exact List.nodup_nil
  · exact Component.proper_of_role_ne (role_of_component h ▸ registry)

theorem Due.proper_of_entry {supplies : Supplies} {held : Registry} {due : Due} {entry : Entry}
    (h : due.entry supplies held = .ok entry) (proper : held.Proper)
    (own : ∀ definition ∈ due.definition?, definition.Proper) : entry.component.Proper := by
  cases due with
  | declared definition =>
    obtain ⟨made, hbuild, rfl⟩ := map_eq_ok_iff.mp h
    exact own definition rfl held made proper (Definition.build_eq_ok_iff.mp hbuild).1
  | standard role =>
    obtain ⟨made, hmade, rfl⟩ := map_eq_ok_iff.mp h
    exact Supplies.proper_of_component hmade

/-- The definitions that are due are the caller's. -/
theorem Roster.mem_definitions_of_mem_all {dynamic : Bool} {declarations : List Declaration}
    {due : Due} {definition : Definition} (h : due ∈ all dynamic declarations)
    (hdefinition : definition ∈ due.definition?) : definition ∈ definitions declarations := by
  have due_all : definition ∈ (all dynamic declarations).filterMap Due.definition? :=
    List.mem_filterMap.mpr ⟨due, h, hdefinition⟩
  rw [filterMap_definition?_all, callable_perm.mem_iff] at due_all
  exact List.mem_of_mem_filter due_all

namespace Course

variable {supplies : Supplies} {held last : Registry} {dues : List Due}
  {calls : List (Definition × Registry)} {dynamic : Bool} {declarations : List Declaration}

/-- No course brings an endpoint registry in that has an id twice, if no definition does. -/
theorem proper (h : Course supplies held dues calls (.ok last)) (start : held.Proper)
    (each : ∀ due ∈ dues, ∀ definition ∈ due.definition?, definition.Proper) : last.Proper := by
  generalize hend : Except.ok last = outcome at h
  induction h with
  | finished =>
    cases hend
    exact start
  | unmade | refused => cases hend
  | registered hentry _ hgrown _ ih =>
    refine ih ?_ (fun due hdue => each due (List.mem_cons_of_mem _ hdue)) hend
    have new := Due.proper_of_entry hentry start (each _ List.mem_cons_self)
    intro entry hmem
    rw [hgrown] at hmem
    rcases List.mem_append.mp hmem with hmem | hmem
    · exact start entry hmem
    · exact List.mem_singleton.mp hmem ▸ new

/-- What a course leaves for a role was due for it. -/
theorem forRole_ne_nil_of_first? {role : Role} {component : Component}
    (h : Course supplies .empty (Roster.all dynamic declarations) calls (.ok last))
    (found : last.first? role = some component) :
    Roster.forRole dynamic declarations role ≠ [] := by
  obtain ⟨entry, hentry, rfl⟩ := List.mem_map.mp (List.mem_of_find?_eq_some found)
  obtain ⟨due, hdue, hdone⟩ := exists_of_mem_right h.entries_fulfilled hentry
  have fills : due.role = role := hdone.role_eq.symm.trans (Registry.role_of_first? found)
  exact List.ne_nil_of_mem (fills ▸ Roster.mem_forRole_of_mem_all hdue)

/-- Where no processor is declared, the one that counts has the declared endpoints. -/
theorem endpoints_of_undeclared {processor : Shared EndpointProcessor}
    {configuration : Configuration} {settings : BrokerSettings}
    (h : Course (configuration.supplies settings declarations) .empty
      (Roster.all dynamic declarations) calls (.ok last))
    (undeclared : Roster.definitionsFor declarations .endpointProcessor = [])
    (counts : last.endpointProcessor = .ok processor) :
    processor.value.endpoints = declarations.filterMap Declaration.endpoint? := by
  have found := Registry.first?_of_endpointProcessor counts
  obtain ⟨made, hmade, primary⟩ := h.exists_primary
    (.endpointProcessor ⟨.standard .endpointProcessor,
      ⟨declarations.filterMap Declaration.endpoint?⟩⟩)
    (h.forRole_ne_nil_of_first? found) fun seen => by
      rw [← Definitions.ofDeclarations_endpoints]
      rfl
  cases found.symm.trans hmade
  cases primary with
  | declared declared => cases undeclared.symm.trans declared
  | standard => rfl

end Course

/-- A resolution that succeeds hands over what is assembled. No endpoint registry has an id twice
just before that, unless the caller brings one that has, and the processor that counts has the
declared endpoints, in their order, unless the caller brings its own. -/
theorem Configuration.handsOver_of_resolve {configuration : Configuration}
    {declarations : List Declaration} {registry : Registry}
    (resolved : (configuration.resolve (.ofDeclarations declarations)).outcome = .ok registry) :
    ∃ last, configuration.assembled (.ofDeclarations declarations) = .ok last ∧
      last.HandsOver registry ∧
      ((∀ definition ∈ Roster.definitions declarations, definition.Proper) → last.Proper) ∧
      (Roster.definitionsFor declarations .endpointProcessor = [] →
        ∀ processor, registry.endpointProcessor = .ok processor →
          processor.value.endpoints = declarations.filterMap Declaration.endpoint?) := by
  rw [outcome_resolve] at resolved
  obtain ⟨last, assembled, rfl⟩ := map_eq_ok_iff.mp resolved
  obtain ⟨settings, calls, course⟩ := exists_course_of_assembled assembled
  refine ⟨last, assembled, last.handsOver_handOver, fun each => ?_, fun undeclared _ h => ?_⟩
  · refine course.proper Registry.proper_empty fun due hdue definition hdefinition => ?_
    exact each definition (Roster.mem_definitions_of_mem_all hdue hdefinition)
  · exact course.endpoints_of_undeclared undeclared (last.endpointProcessor_handOver ▸ h)

namespace Sample

/-- Listeners are off, but the caller brings a processor, which has an id twice, and two endpoint
registries, of which one has that id too. -/
def handing : List Declaration :=
  [.disableListeners,
    .component "mine" (.endpointRegistry ⟨.given 1, { endpoints := [⟨"bills", ["bills"]⟩] }⟩),
    .component "other" (.endpointRegistry ⟨.given 2, { endpoints := [⟨"bills", ["old"]⟩] }⟩),
    .component "own" (.endpointProcessor ⟨.given 3,
      ⟨[⟨"orders", ["orders"]⟩, ⟨"bills", ["late"]⟩, ⟨"orders", ["late"]⟩]⟩⟩)]

end Sample

/-- The registry that counts takes the order behind its own bill, and the other one keeps what it
has. -/
theorem handsOver_sample :
    ∃ registry last target,
      (Sample.configuration.resolve (.ofDeclarations Sample.handing)).outcome = .ok registry ∧
      Sample.configuration.assembled (.ofDeclarations Sample.handing) = .ok last ∧
      last.HandsOver registry ∧ last.Proper ∧ registry.endpointRegistry = .ok target ∧
      target.value.endpoints = [⟨"bills", ["bills"]⟩, ⟨"orders", ["orders"]⟩] ∧
      registry.get "other" =
        .ok (.endpointRegistry ⟨.given 2, { endpoints := [⟨"bills", ["old"]⟩] }⟩) := by
  have resolved : (Sample.configuration.resolve (.ofDeclarations Sample.handing)).outcome =
    .ok _ := rfl
  obtain ⟨last, assembled, handsOver, proper, -⟩ := Configuration.handsOver_of_resolve resolved
  have each : ∀ definition ∈ Roster.definitions Sample.handing, definition.Proper := by
    simp only [Sample.handing, Roster.definitions, List.filterMap, Declaration.definition?,
      List.forall_mem_cons]
    exact ⟨Definition.proper_ofComponent (List.nodup_singleton _),
      Definition.proper_ofComponent (List.nodup_singleton _),
      Definition.proper_ofComponent trivial, List.forall_mem_nil _⟩
  exact ⟨_, last, _, resolved, assembled, handsOver, proper each, rfl, rfl, rfl⟩

end BrokerWiring
