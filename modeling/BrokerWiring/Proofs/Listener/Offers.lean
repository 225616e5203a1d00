import BrokerWiring.Proofs.Listener.Registration

/-!
# Endpoints over a history of offers

Endpoints are offered to a registry one by one, or all those of a processor in a row. Over any
history of such offers, with starts and stops in between, the registry keeps the first endpoint of
each id in the order in which they were offered, and nothing it keeps ever changes or moves
(`KeepsFirst`). So an offer that was made before finds all its ids taken and changes nothing.

What is kept hangs on the endpoints offered alone: a history comes to the same endpoints as if all
of them had been offered at once (`endpoints_through`).
-/

namespace BrokerWiring

namespace Endpoint

/-! ## What the first of each id are -/

/-- The first of each id are taken one after another, each out of what the ones before it leave. -/
theorem firstOfEach_induction {motive : List Endpoint → List Endpoint → Prop}
    (nil : motive [] [])
    (cons : ∀ first rest,
      motive (rest.filter (·.id ≠ first.id)) (firstOfEach (rest.filter (·.id ≠ first.id))) →
      motive (first :: rest) (first :: firstOfEach (rest.filter (·.id ≠ first.id))))
    (offered : List Endpoint) : motive offered (firstOfEach offered) := by
  induction hlength : offered.length using Nat.strongRecOn generalizing offered with
  | ind length ih =>
    cases offered with
    | nil => exact nil
    | cons first rest =>
      have shorter : (rest.filter (·.id ≠ first.id)).length < length := by
        rw [← hlength, List.length_cons]
        exact Nat.lt_succ_of_le (List.length_filter_le _ _)
      rw [firstOfEach_cons]
      exact cons first rest (ih _ shorter _ rfl)

/-- They stand in the order in which they were offered. -/
theorem firstOfEach_sublist (offered : List Endpoint) :
    (firstOfEach offered).Sublist offered := by
  refine firstOfEach_induction (motive := fun offered kept => kept.Sublist offered) .slnil
    (fun first rest ih => ?_) offered
  exact (ih.trans List.filter_sublist).cons_cons first

/-- No two of them have the same id. -/
theorem nodup_firstOfEach (offered : List Endpoint) :
    ((firstOfEach offered).map Endpoint.id).Nodup := by
  refine firstOfEach_induction (motive := fun _ kept => (kept.map Endpoint.id).Nodup)
    List.nodup_nil (fun first rest ih => List.nodup_cons.mpr ⟨fun taken => ?_, ih⟩) offered
  obtain ⟨later, hlater, same⟩ := List.mem_map.mp taken
  have other := (List.mem_filter.mp ((firstOfEach_sublist _).subset hlater)).2
  exact of_decide_eq_true other same

/-- The one of an id is the first that was offered under it. -/
theorem find?_firstOfEach (offered : List Endpoint) (id : String) :
    (firstOfEach offered).find? (·.id == id) = offered.find? (·.id == id) := by
  refine firstOfEach_induction
    (motive := fun offered kept => kept.find? (·.id == id) = offered.find? (·.id == id))
    rfl (fun first rest ih => ?_) offered
  rw [List.find?_cons, List.find?_cons, ih]
  cases same : first.id == id with
  | true => rfl
  | false =>
    -- Nothing of the id is among those that have the id of the first one.
    have other : first.id ≠ id := beq_eq_false_iff_ne.mp same
    rw [List.find?_filter]
    refine congrArg (rest.find? ·) (funext fun endpoint => ?_)
    by_cases h : endpoint.id = id
    · simp [h, other.symm]
    · simp [h]

/-- An id that is offered is one of theirs. -/
theorem mem_ids_firstOfEach {offered : List Endpoint} {endpoint : Endpoint}
    (h : endpoint ∈ offered) : endpoint.id ∈ (firstOfEach offered).map Endpoint.id := by
  have found : ((firstOfEach offered).find? (·.id == endpoint.id)).isSome = true := by
    rw [find?_firstOfEach, List.find?_isSome]
    exact ⟨endpoint, h, beq_self_eq_true _⟩
  obtain ⟨kept, hkept, same⟩ := List.find?_isSome.mp found
  exact beq_iff_eq.mp same ▸ List.mem_map_of_mem hkept

end Endpoint

namespace EndpointRegistry

open Endpoint (firstOfEach mem_ids_firstOfEach nodup_firstOfEach find?_firstOfEach)

/-! ## Histories with processors -/

/-- A call that offers endpoints to a registry. -/
inductive Offer where
  /-- The endpoint alone. -/
  | one (endpoint : Endpoint)
  /-- All endpoints of the processor. -/
  | each (processor : EndpointProcessor)

/-- The endpoints of an offer. -/
def Offer.endpoints : Offer → List Endpoint
  | .one endpoint => [endpoint]
  | .each processor => processor.endpoints

/-- The registry behind an offer. -/
def take (registry : EndpointRegistry) : Offer → EndpointRegistry
  | .one endpoint => registry.register endpoint
  | .each processor => processor.registerAll registry

/-- What happens to a registry. Each start has its own factory and broker. -/
inductive Event where
  | offers (offer : Offer)
  | start (factory : ContainerFactory) (broker : Broker)
  | stop

/-- The endpoints that are offered in an event. -/
def Event.offered : Event → List Endpoint
  | .offers offer => offer.endpoints
  | .start .. | .stop => []

namespace Stage

/-- The stage behind an event. -/
def onward (stage : Stage) : Event → Stage
  | .offers offer => { stage with registry := stage.registry.take offer }
  | .start factory broker => stage.after (.start factory broker)
  | .stop => stage.after .stop

/-- The stage behind a history of events. -/
def through (stage : Stage) (events : List Event) : Stage := events.foldl onward stage

theorem through_append (stage : Stage) (events later : List Event) :
    stage.through (events ++ later) = (stage.through events).through later :=
  List.foldl_append

end Stage

/-! ## Offers -/

/-- Whatever the kind of an offer, its endpoints are registered one after another. -/
theorem take_eq_registerEach (registry : EndpointRegistry) (offer : Offer) :
    registry.take offer = registry.registerEach offer.endpoints := by
  cases offer <;> rfl

/-- Endpoints of ids that are taken change nothing. -/
theorem registerEach_of_known {registry : EndpointRegistry} {offered : List Endpoint}
    (known : ∀ endpoint ∈ offered, endpoint.id ∈ registry.endpoints.map Endpoint.id) :
    registry.registerEach offered = registry := by
  induction offered with
  | nil => rfl
  | cons endpoint rest ih =>
    obtain ⟨taken, others⟩ := List.forall_mem_cons.mp known
    have same : registry.register endpoint = registry := by
      obtain ⟨holder, hholder, hid⟩ := List.mem_map.mp taken
      have held : registry.endpoints.any (·.id == endpoint.id) = true :=
        List.any_eq_true.mpr ⟨holder, hholder, beq_iff_eq.mpr hid⟩
      exact if_pos held
    show (registry.register endpoint).registerEach rest = registry
    rw [same, ih others]

/-! ## Histories -/

/-- Only the endpoints that a registry has decide which others it keeps. -/
theorem endpoints_registerEach_congr {registry other : EndpointRegistry}
    (h : registry.endpoints = other.endpoints) (offered : List Endpoint) :
    (registry.registerEach offered).endpoints = (other.registerEach offered).endpoints := by
  rw [endpoints_registerEach, endpoints_registerEach, h]

/-- An event keeps what it offers, if anything. -/
theorem endpoints_onward (stage : Stage) (event : Event) :
    (stage.onward event).registry.endpoints =
      (stage.registry.registerEach event.offered).endpoints := by
  cases event with
  | offers offer => exact congrArg endpoints (stage.registry.take_eq_registerEach offer)
  | start factory broker => rfl
  | stop => rfl

/-- A history comes to the same endpoints as if all that it offers were offered at once. -/
theorem endpoints_through (stage : Stage) (events : List Event) :
    (stage.through events).registry.endpoints =
      (stage.registry.registerEach (events.flatMap Event.offered)).endpoints := by
  induction events generalizing stage with
  | nil => rfl
  | cons event rest ih =>
    calc ((stage.onward event).through rest).registry.endpoints
      _ = ((stage.onward event).registry.registerEach (rest.flatMap Event.offered)).endpoints :=
        ih _
      _ = ((stage.registry.registerEach event.offered).registerEach
            (rest.flatMap Event.offered)).endpoints :=
        endpoints_registerEach_congr (endpoints_onward stage event) _
      _ = (stage.registry.registerEach
            ((event :: rest).flatMap Event.offered)).endpoints := by
        rw [List.flatMap_cons, registerEach, registerEach, registerEach, List.foldl_append]

/-- What a history leaves of an empty registry. -/
theorem endpoints_through_empty (events : List Event) :
    (Stage.through {} events).registry.endpoints =
      firstOfEach (events.flatMap Event.offered) := by
  have fresh : (events.flatMap Event.offered).filter
      (·.id ∉ ([] : List Endpoint).map Endpoint.id) = events.flatMap Event.offered :=
    List.filter_eq_self.mpr fun _ _ => decide_eq_true List.not_mem_nil
  rw [endpoints_through, endpoints_registerEach, fresh]
  exact List.nil_append _

/-- What a registry has of a history that began with it empty. -/
structure KeepsFirst (events : List Event) : Prop where
  endpoints_eq : (Stage.through {} events).registry.endpoints =
    firstOfEach (events.flatMap Event.offered)
  distinct : ((Stage.through {} events).registry.endpoints.map Endpoint.id).Nodup
  /-- The endpoint of an id is the first one that was offered under it. -/
  first (id : String) : (Stage.through {} events).registry.endpoints.find? (·.id == id) =
    (events.flatMap Event.offered).find? (·.id == id)
  /-- Whatever comes later, every endpoint stays as it is and where it is. -/
  lasting (later : List Event) : (Stage.through {} events).registry.endpoints <+:
    (Stage.through {} (events ++ later)).registry.endpoints
  /-- An offer that was made before changes nothing, also as to containers and sessions. -/
  repeated (offer : Offer) : .offers offer ∈ events →
    Stage.through {} (events ++ [.offers offer]) = Stage.through {} events

/-- A registry keeps the first endpoint of each id, in the order in which they are offered. -/
theorem keepsFirst_through (events : List Event) : KeepsFirst events where
  endpoints_eq := endpoints_through_empty events
  distinct := by
    rw [endpoints_through_empty]
    exact nodup_firstOfEach _
  first id := by rw [endpoints_through_empty, find?_firstOfEach]
  lasting later := by
    rw [Stage.through_append, endpoints_through (Stage.through {} events),
      endpoints_registerEach]
    exact List.prefix_append _ _
  repeated offer made := by
    have known : ∀ endpoint ∈ offer.endpoints,
        endpoint.id ∈ (Stage.through {} events).registry.endpoints.map Endpoint.id := by
      intro endpoint hendpoint
      rw [endpoints_through_empty]
      exact mem_ids_firstOfEach (List.mem_flatMap.mpr ⟨_, made, hendpoint⟩)
    have same : (Stage.through {} events).registry.take offer =
        (Stage.through {} events).registry := by
      rw [take_eq_registerEach, registerEach_of_known known]
    rw [Stage.through_append]
    exact congrArg (fun registry => Stage.mk registry (Stage.through {} events).session) same

end EndpointRegistry

end BrokerWiring
