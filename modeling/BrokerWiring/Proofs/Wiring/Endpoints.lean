import BrokerWiring.Proofs.Listener.Containers
import BrokerWiring.Proofs.Wiring.Interleaving
import BrokerWiring.Proofs.Wiring.Primary

/-!
# Where declared endpoints go

The endpoints that a caller declares go into the standard processor, and what the processor that
counts has is handed over to the endpoint registry that counts. Each of the two is the first that
the caller declares, or else the standard one (`Primary`). So the registry that a wiring answers
with has the ids that it brought along and those of the processor, and no others
(`delivers_of_resolve`). A declared endpoint gets there whatever registry the caller brings, but
only if it brings no processor: a processor of its own takes the place of the one that has the
declared endpoints (`dropped_endpoint`).
-/

namespace BrokerWiring

/-! ## Registering endpoints -/

namespace EndpointRegistry

/-- Registering leaves the ids that were there, with that of the endpoint. -/
theorem mem_ids_register (registry : EndpointRegistry) (endpoint : Endpoint) (id : String) :
    id ∈ (registry.register endpoint).endpoints.map Endpoint.id ↔
      id ∈ registry.endpoints.map Endpoint.id ∨ id = endpoint.id := by
  rcases registry.register_endpoints endpoint with ⟨known, hsame⟩ | ⟨-, hmore⟩
  · rw [hsame]
    refine ⟨.inl, fun h => ?_⟩
    rcases h with h | rfl
    · exact h
    · exact known
  · rw [hmore, List.map_append, List.mem_append, List.map_singleton, List.mem_singleton]

theorem mem_ids_registerEach (registry : EndpointRegistry) (endpoints : List Endpoint)
    (id : String) :
    id ∈ (registry.registerEach endpoints).endpoints.map Endpoint.id ↔
      id ∈ registry.endpoints.map Endpoint.id ∨ id ∈ endpoints.map Endpoint.id := by
  -- Induction on the endpoints; the registry changes with each of them.
  induction endpoints generalizing registry with
  | nil => simp [registerEach]
  | cons endpoint rest ih =>
    show id ∈ ((registry.register endpoint).registerEach rest).endpoints.map Endpoint.id ↔ _
    rw [ih, mem_ids_register, List.map_cons, List.mem_cons, or_assoc]

end EndpointRegistry

/-! ## The hand-over -/

namespace Component

variable {component : Component}

theorem exists_endpointProcessor (h : component.role = .endpointProcessor) :
    ∃ c, component = .endpointProcessor c := by
  cases component with
  | endpointProcessor c => exact ⟨c, rfl⟩
  | _ => cases h

theorem exists_endpointRegistry (h : component.role = .endpointRegistry) :
    ∃ c, component = .endpointRegistry c := by
  cases component with
  | endpointRegistry c => exact ⟨c, rfl⟩
  | _ => cases h

end Component

namespace Registry

/-- Where no component changes its role, the first of a role stays the first. -/
theorem first?_mapComponents (registry : Registry) {change : Component → Component}
    (same : ∀ component, (change component).role = component.role) (role : Role) :
    (registry.mapComponents change).first? role = (registry.first? role).map change := by
  have changed : (registry.mapComponents change).entries.map Entry.component =
      (registry.entries.map Entry.component).map change := by
    unfold mapComponents
    rw [List.map_map, List.map_map]
    rfl
  have fills : (fun component => (change component).role == role) =
      fun component : Component => component.role == role := by
    funext component
    rw [same]
  unfold first?
  rw [changed, List.find?_map]
  exact congrArg (fun p => (List.find? p _).map change) fills

variable {registry : Registry} {processor : Shared EndpointProcessor}
  {target : Shared EndpointRegistry}

theorem endpointProcessor_of_first?
    (h : registry.first? .endpointProcessor = some (.endpointProcessor processor)) :
    registry.endpointProcessor = .ok processor := by
  unfold endpointProcessor lookup
  rw [h]
  rfl

theorem endpointRegistry_of_first?
    (h : registry.first? .endpointRegistry = some (.endpointRegistry target)) :
    registry.endpointRegistry = .ok target := by
  unfold endpointRegistry lookup
  rw [h]
  rfl

/-- The hand-over registers the endpoints of the processor that counts with the endpoint registry
that counts. -/
theorem first?_handOver_endpointRegistry
    (hprocessor : registry.first? .endpointProcessor = some (.endpointProcessor processor))
    (htarget : registry.first? .endpointRegistry = some (.endpointRegistry target)) :
    registry.handOver.first? .endpointRegistry =
      some (.endpointRegistry ⟨target.id, processor.value.registerAll target.value⟩) := by
  have handed : registry.handOver =
      registry.mapComponents (fill processor.value target.id) := by
    unfold handOver
    rw [endpointProcessor_of_first? hprocessor, endpointRegistry_of_first? htarget]
  rw [handed, first?_mapComponents _ fun component => (persists_fill _ _ component).role_eq,
    htarget]
  show some (fill processor.value target.id (.endpointRegistry target)) = _
  rw [fill, if_pos rfl]

end Registry

/-! ## What the endpoint registry has in the end -/

/-- What comes of declared endpoints in a registry that a wiring returns: `own` is the endpoint
registry that counts as it was made, and `target` the same with the endpoints of the processor that
counts. -/
structure Registry.Delivers (declarations : List Declaration)
    (calls : List (Definition × Registry)) (registry : Registry)
    (processor : Shared EndpointProcessor) (own target : Shared EndpointRegistry) : Prop where
  processor_eq : registry.endpointProcessor = .ok processor
  target_eq : registry.endpointRegistry = .ok target
  /-- The standard processor has the declared endpoints. -/
  processor_primary : Primary declarations calls
    (.endpointProcessor ⟨.standard .endpointProcessor,
      ⟨declarations.filterMap Declaration.endpoint?⟩⟩) (.endpointProcessor processor)
  /-- The standard endpoint registry is empty. -/
  own_primary : Primary declarations calls
    (.endpointRegistry ⟨.standard .endpointRegistry, {}⟩) (.endpointRegistry own)
  id_eq : target.id = own.id
  mem_ids_iff : ∀ id, id ∈ target.value.endpoints.map Endpoint.id ↔
    id ∈ own.value.endpoints.map Endpoint.id ∨ id ∈ processor.value.endpoints.map Endpoint.id

/-- While listeners are not off, something is due for either role of endpoints. -/
theorem Roster.forRole_ne_nil_of_listening {dynamic : Bool} {declarations : List Declaration}
    {role : Role} (listening : ¬ListenersOff declarations)
    (h : role = .endpointProcessor ∨ role = .endpointRegistry) :
    forRole dynamic declarations role ≠ [] := by
  unfold forRole
  rcases h with rfl | rfl <;> split_ifs <;> simp_all [Withheld]

namespace Registry.Delivers

variable {declarations : List Declaration} {calls : List (Definition × Registry)}
  {processor : Shared EndpointProcessor} {own target : Shared EndpointRegistry}

/-- What a course leaves is delivered by the hand-over. -/
theorem of_course {configuration : Configuration} {settings : BrokerSettings} {last : Registry}
    (h : Course (configuration.supplies settings declarations) .empty
      (Roster.all settings.dynamic declarations) calls (.ok last))
    (listening : ¬Roster.ListenersOff declarations) :
    ∃ processor own target, last.handOver.Delivers declarations calls processor own target := by
  obtain ⟨made, hmade, processor_primary⟩ := h.exists_primary
    (.endpointProcessor ⟨.standard .endpointProcessor,
      ⟨declarations.filterMap Declaration.endpoint?⟩⟩)
    (Roster.forRole_ne_nil_of_listening listening (.inl rfl)) fun seen => by
        rw [← Definitions.ofDeclarations_endpoints]
        rfl
  obtain ⟨processor, rfl⟩ := Component.exists_endpointProcessor (role_of_first? hmade)
  obtain ⟨made, hown, own_primary⟩ := h.exists_primary
    (.endpointRegistry ⟨.standard .endpointRegistry, {}⟩)
    (Roster.forRole_ne_nil_of_listening listening (.inr rfl)) fun _ => rfl
  obtain ⟨own, rfl⟩ := Component.exists_endpointRegistry (role_of_first? hown)
  -- The hand-over changes endpoint registries alone, so the processor still counts behind it.
  have kept : last.handOver.first? .endpointProcessor = last.first? .endpointProcessor :=
    last.first?_handOver (by decide)
  refine ⟨processor, own, ⟨own.id, processor.value.registerAll own.value⟩, ?_⟩
  exact {
    processor_eq := endpointProcessor_of_first? (kept.trans hmade)
    target_eq := endpointRegistry_of_first? (first?_handOver_endpointRegistry hmade hown)
    processor_primary
    own_primary
    id_eq := rfl
    mem_ids_iff := own.value.mem_ids_registerEach processor.value.endpoints }

/-- Without a processor of the caller's own, every declared endpoint arrives. -/
theorem mem_ids {registry : Registry}
    (h : registry.Delivers declarations calls processor own target)
    (undeclared : Roster.definitionsFor declarations .endpointProcessor = []) :
    ∀ endpoint ∈ declarations.filterMap Declaration.endpoint?,
      endpoint.id ∈ target.value.endpoints.map Endpoint.id := by
  intro endpoint hendpoint
  rw [h.mem_ids_iff]
  cases h.processor_primary with
  | declared declared => cases undeclared.symm.trans declared
  | standard => exact .inr (List.mem_map_of_mem hendpoint)

end Registry.Delivers

/-- While listeners are not off, the endpoint registry that a wiring answers with has the ids that
it brought along and those of the processor that counts. Every declared endpoint is among them
if the caller declares no processor. -/
theorem Configuration.delivers_of_resolve {configuration : Configuration}
    {declarations : List Declaration} {registry : Registry}
    (resolved : (configuration.resolve (.ofDeclarations declarations)).outcome = .ok registry)
    (listening : ¬Roster.ListenersOff declarations) :
    ∃ processor own target,
      registry.Delivers declarations
        (configuration.resolve (.ofDeclarations declarations)).calls processor own target ∧
      (Roster.definitionsFor declarations .endpointProcessor = [] →
        ∀ endpoint ∈ declarations.filterMap Declaration.endpoint?,
          endpoint.id ∈ target.value.endpoints.map Endpoint.id) := by
  obtain ⟨settings, last, -, course, rfl⟩ := exists_course_of_resolve resolved
  obtain ⟨processor, own, target, delivers⟩ := Registry.Delivers.of_course course listening
  exact ⟨processor, own, target, delivers, delivers.mem_ids⟩

namespace Sample

/-- An endpoint, and an endpoint registry that has another one. -/
def listening : List Declaration :=
  [.endpoint ⟨"orders", ["orders"]⟩,
    .component "mine" (.endpointRegistry ⟨.given 1, { endpoints := [⟨"bills", ["bills"]⟩] }⟩)]

/-- An endpoint, and a processor that has none. -/
def quiet : List Declaration :=
  [.endpoint ⟨"orders", ["orders"]⟩, .component "quiet" (.endpointProcessor ⟨.given 1, {}⟩)]

end Sample

/-- A registry of the caller's own gets the declared endpoint, behind the one that it has. -/
theorem delivers_sample :
    ¬Roster.ListenersOff Sample.listening ∧ ∃ registry processor own target,
      (Sample.configuration.resolve (.ofDeclarations Sample.listening)).outcome = .ok registry ∧
      registry.Delivers Sample.listening
        (Sample.configuration.resolve (.ofDeclarations Sample.listening)).calls
        processor own target ∧
      target.value.endpoints = [⟨"bills", ["bills"]⟩, ⟨"orders", ["orders"]⟩] := by
  have listening : ¬Roster.ListenersOff Sample.listening := by decide
  have resolved : (Sample.configuration.resolve (.ofDeclarations Sample.listening)).outcome =
    .ok _ := rfl
  obtain ⟨processor, own, target, delivers, -⟩ :=
    Configuration.delivers_of_resolve resolved listening
  refine ⟨listening, _, processor, own, target, resolved, delivers, ?_⟩
  have answered := delivers.target_eq
  cases answered
  rfl

/-- With a processor of the caller's own, the declared endpoint is in no endpoint registry. -/
theorem dropped_endpoint :
    (⟨"orders", ["orders"]⟩ : Endpoint) ∈ Sample.quiet.filterMap Declaration.endpoint? ∧
      ¬Roster.ListenersOff Sample.quiet ∧ ∃ registry target,
        (Sample.configuration.resolve (.ofDeclarations Sample.quiet)).outcome = .ok registry ∧
        registry.endpointRegistry = .ok target ∧ target.value.endpoints = [] :=
  ⟨List.mem_cons_self, by decide, _, _, rfl, rfl, rfl⟩

end BrokerWiring
