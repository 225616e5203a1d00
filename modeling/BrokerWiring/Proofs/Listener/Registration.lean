import BrokerWiring.Proofs.Listener.Containers

/-!
# Which endpoints a registry keeps

Of the endpoints that it is offered a registry keeps those whose ids are new to it, the first of
each id, in the order in which they come (`endpoints_registerEach`). No call brings an id in twice
(`nodup_behind`), so what a registry has in the end are the first of each id among all endpoints,
those that it had and those that it was offered (`Takes`).
-/

namespace BrokerWiring

namespace Endpoint

/-! ## The first of each id -/

/-- The first endpoint of each id. -/
def firstOfEach (offered : List Endpoint) : List Endpoint :=
  offered.eraseDupsBy fun later earlier => later.id == earlier.id

theorem firstOfEach_cons (first : Endpoint) (rest : List Endpoint) :
    firstOfEach (first :: rest) = first :: firstOfEach (rest.filter (·.id ≠ first.id)) := by
  rw [firstOfEach, List.eraseDupsBy_cons, firstOfEach]
  simp only [beq_eq_false_iff_ne]

/-- Behind endpoints with distinct ids come the first of each id that they do not have. -/
theorem firstOfEach_append {known : List Endpoint} (distinct : (known.map Endpoint.id).Nodup)
    (offered : List Endpoint) :
    firstOfEach (known ++ offered) =
      known ++ firstOfEach (offered.filter (·.id ∉ known.map Endpoint.id)) := by
  induction known generalizing offered with
  | nil => simp
  | cons first rest ih =>
    obtain ⟨fresh, distinct⟩ := List.nodup_cons.mp distinct
    have others : rest.filter (·.id ≠ first.id) = rest := by
      refine List.filter_eq_self.mpr fun endpoint hendpoint => decide_eq_true fun same => ?_
      exact fresh (same ▸ List.mem_map_of_mem hendpoint)
    -- What is left of the offer is new to the first endpoint and to the others.
    have left : (offered.filter (·.id ≠ first.id)).filter (·.id ∉ rest.map Endpoint.id) =
        offered.filter (·.id ∉ (first :: rest).map Endpoint.id) := by
      rw [List.filter_filter]
      refine List.filter_congr fun endpoint _ => ?_
      by_cases h : endpoint.id = first.id <;> simp [h]
    rw [List.cons_append, firstOfEach_cons, List.filter_append, others, ih distinct, left,
      List.cons_append]

end Endpoint

namespace EndpointRegistry

open Endpoint (firstOfEach firstOfEach_cons firstOfEach_append)

/-! ## Registering one after another -/

/-- An endpoint of a known id is passed over, any other is kept. -/
theorem endpoints_registerEach (registry : EndpointRegistry) (offered : List Endpoint) :
    (registry.registerEach offered).endpoints = registry.endpoints ++
      firstOfEach (offered.filter (·.id ∉ registry.endpoints.map Endpoint.id)) := by
  -- Induction on the offer; the registry changes with each endpoint that it keeps.
  induction offered generalizing registry with
  | nil => exact (List.append_nil _).symm
  | cons endpoint rest ih =>
    show ((registry.register endpoint).registerEach rest).endpoints = _
    rw [ih]
    rcases registry.register_endpoints endpoint with ⟨known, hsame⟩ | ⟨fresh, hmore⟩
    · rw [hsame, List.filter_cons_of_neg (by simpa using known)]
    · have left : (rest.filter (·.id ∉ registry.endpoints.map Endpoint.id)).filter
          (·.id ≠ endpoint.id) =
            rest.filter (·.id ∉ (registry.endpoints ++ [endpoint]).map Endpoint.id) := by
        rw [List.filter_filter]
        refine List.filter_congr fun other _ => ?_
        by_cases h : other.id = endpoint.id <;> simp [h]
      rw [hmore, List.filter_cons_of_pos (by simpa using fresh), firstOfEach_cons, left,
        List.append_assoc, List.singleton_append]

theorem containers_registerEach (registry : EndpointRegistry) (offered : List Endpoint) :
    (registry.registerEach offered).containers = registry.containers := by
  induction offered generalizing registry with
  | nil => rfl
  | cons endpoint rest ih =>
    have kept : (registry.register endpoint).containers = registry.containers := by
      unfold register
      split <;> rfl
    exact (ih _).trans kept

/-- What becomes of a registry that is offered endpoints: it has the first of each id among those
that come behind its own, and where its own have no id twice, simply the first of each id among
all. Its containers stay. -/
structure Takes (offered : List Endpoint) (before after : EndpointRegistry) : Prop where
  containers_eq : after.containers = before.containers
  endpoints_eq : after.endpoints = before.endpoints ++
    firstOfEach (offered.filter (·.id ∉ before.endpoints.map Endpoint.id))
  endpoints_of_nodup : (before.endpoints.map Endpoint.id).Nodup →
    after.endpoints = firstOfEach (before.endpoints ++ offered)

theorem takes_registerEach (registry : EndpointRegistry) (offered : List Endpoint) :
    Takes offered registry (registry.registerEach offered) where
  containers_eq := registry.containers_registerEach offered
  endpoints_eq := registry.endpoints_registerEach offered
  endpoints_of_nodup distinct := by
    rw [endpoints_registerEach, firstOfEach_append distinct]

/-- No sequence of calls brings an id in twice. So what comes of an empty registry never has one
twice. -/
theorem nodup_behind {stage : Stage} (calls : List Call)
    (h : (stage.registry.endpoints.map Endpoint.id).Nodup) :
    ((stage.behind calls).registry.endpoints.map Endpoint.id).Nodup := by
  induction calls generalizing stage with
  | nil => exact h
  | cons call rest ih => exact ih (Stage.nodup_after call h)

end EndpointRegistry

end BrokerWiring
