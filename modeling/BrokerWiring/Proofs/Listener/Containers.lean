import Mathlib.Data.List.Nodup
import BrokerWiring.Listener.EndpointRegistry

/-!
# Containers over a history of calls

An endpoint registry refuses a second endpoint of one id, but each start of it makes containers for
all endpoints, whatever containers there are, and a stop keeps them all. So the registry holds for
an id as many containers as starts came past its endpoint (`count_containers`), and it holds no two
containers of one id exactly as long as no two starts of its history kept any
(`nodup_containers_iff`). A start keeps none just if there is no endpoint or the first container
fails (`kept_eq_nil_iff`).

All of it hangs on one account of a history (`Account`), which every call keeps up
(`Account.after`) and therefore every history does (`Account.run`): the endpoints have distinct ids,
and what each call added are containers for the first few of them, in their order.
-/

namespace BrokerWiring

/-- The ids of the endpoints that containers are for. -/
def Container.ids (containers : List Container) : List String := containers.map (·.endpoint.id)

/-- Whether a factory makes its containers for the endpoints that it is given. -/
def ContainerFactory.Faithful (factory : ContainerFactory) : Prop :=
  ∀ endpoint, (factory.create endpoint).endpoint.id = endpoint.id

theorem ContainerFactory.faithful_standard (connectionFactory : Shared ConnectionFactory)
    (settings : ListenerSettings) : (standard connectionFactory settings).Faithful :=
  fun _ => rfl

/-- A start does not change what a container is for. -/
theorem Container.start_endpoint (container : Container) (broker : Broker) (session : Session) :
    (container.start broker session).2.1.endpoint = container.endpoint := by
  unfold start
  split
  · rfl
  · split <;> rfl

/-! ## What a start keeps -/

namespace Launch

variable {factory : ContainerFactory} {broker : Broker}

/-- The container that fails is the last one of a launch. -/
theorem made_ne_nil_of_error {endpoints : List Endpoint} {session : Session} {e : BrokerError}
    (h : (of factory broker endpoints session).outcome = .error e) :
    (of factory broker endpoints session).made ≠ [] := by
  cases endpoints with
  | nil => cases h
  | cons endpoint rest =>
    unfold of
    dsimp only
    split
    · split <;> exact List.cons_ne_nil _ _
    · exact List.cons_ne_nil _ _

/-- A container in front of a launch stays, whatever comes of the others. -/
theorem kept_behind {launch : Launch} (container : Container) (started : Nat)
    (h : ∀ e, launch.outcome = .error e → launch.made ≠ []) :
    (launch.behind container started).kept = container :: launch.kept := by
  unfold kept behind
  cases houtcome : launch.outcome with
  | ok count => rfl
  | error e => exact List.dropLast_cons_of_ne_nil (h e houtcome)

/-- Whether the container for an endpoint is to start on its own and cannot. -/
def Fails (factory : ContainerFactory) (broker : Broker) (session : Session)
    (endpoint : Endpoint) : Prop :=
  (factory.create endpoint).settings.autoStartup = true ∧
    ∃ e, ((factory.create endpoint).start broker session).1 = .error e

/-- Nothing stays if the first container fails. -/
theorem kept_of_fails {endpoint : Endpoint} {session : Session} (rest : List Endpoint)
    (h : Fails factory broker session endpoint) :
    (of factory broker (endpoint :: rest) session).kept = [] := by
  obtain ⟨automatic, e, hfails⟩ := h
  rw [of, if_pos automatic]
  split
  · rename_i hstart
    rw [hstart] at hfails
    cases hfails
  · rfl

/-- Unless the first container fails, it stays, in front of what else stays. -/
theorem exists_kept_cons {endpoint : Endpoint} {session : Session} (rest : List Endpoint)
    (h : ¬ Fails factory broker session endpoint) :
    ∃ container session', container.endpoint = (factory.create endpoint).endpoint ∧
      (of factory broker (endpoint :: rest) session).kept =
        container :: (of factory broker rest session').kept := by
  rw [of]
  split
  · rename_i automatic
    have same := (factory.create endpoint).start_endpoint broker session
    split
    · rename_i container session' hstart
      rw [hstart] at same
      exact ⟨container, session', same, kept_behind _ _ fun _ => made_ne_nil_of_error⟩
    · rename_i e _ _ hstart
      exact absurd ⟨automatic, e, congrArg Prod.fst hstart⟩ h
  · exact ⟨_, session, rfl, kept_behind _ _ fun _ => made_ne_nil_of_error⟩

/-- A start keeps no container just if there is no endpoint or the first container fails. -/
theorem kept_eq_nil_iff (endpoints : List Endpoint) (session : Session) :
    (of factory broker endpoints session).kept = [] ↔
      ∀ first ∈ endpoints.head?, Fails factory broker session first := by
  cases endpoints with
  | nil => exact ⟨fun _ _ h => (nomatch h), fun _ => rfl⟩
  | cons endpoint rest =>
    constructor
    · intro hkept first hfirst
      obtain rfl : endpoint = first := Option.some.inj hfirst
      by_contra h
      obtain ⟨container, session', -, hcons⟩ := exists_kept_cons rest h
      exact List.cons_ne_nil _ _ (hcons.symm.trans hkept)
    · intro h
      exact kept_of_fails rest (h endpoint rfl)

/-- The containers that stay are for the first few endpoints, in their order. -/
theorem ids_kept_prefix (faithful : factory.Faithful) (endpoints : List Endpoint)
    (session : Session) :
    Container.ids (of factory broker endpoints session).kept <+: endpoints.map Endpoint.id := by
  -- Induction on the endpoints, for every session: each start leaves another one to the rest.
  induction endpoints generalizing session with
  | nil => exact List.prefix_rfl
  | cons endpoint rest ih =>
    by_cases h : Fails factory broker session endpoint
    · rw [kept_of_fails rest h]
      exact List.nil_prefix
    · obtain ⟨container, session', same, hkept⟩ := exists_kept_cons rest h
      have hid : container.endpoint.id = endpoint.id := same ▸ faithful endpoint
      rw [hkept, Container.ids, List.map_cons, List.map_cons, hid]
      exact List.cons_prefix_cons.mpr ⟨rfl, ih session'⟩

end Launch

/-! ## Histories of calls -/

namespace EndpointRegistry

/-- What an application asks of an endpoint registry. Each start has its own factory and broker. -/
inductive Call where
  | register (endpoint : Endpoint)
  | start (factory : ContainerFactory) (broker : Broker)
  | stop

/-- Whether a call makes its containers for the endpoints of the registry. -/
def Call.Faithful : Call → Prop
  | .start factory _ => factory.Faithful
  | .register _ | .stop => True

/-- A registry, and the session that its containers are in. -/
structure Stage where
  registry : EndpointRegistry := {}
  session : Session := .start

namespace Stage

/-- The stage behind a call. -/
def after (stage : Stage) : Call → Stage
  | .register endpoint => { stage with registry := stage.registry.register endpoint }
  | .start factory broker =>
    let (_, registry, session) := stage.registry.startAll factory broker stage.session
    ⟨registry, session⟩
  | .stop => { stage with registry := stage.registry.stopAll }

/-- The stage behind a history. -/
def behind (stage : Stage) (calls : List Call) : Stage := calls.foldl after stage

/-- The containers that a call adds: those that a start keeps. -/
def added (stage : Stage) : Call → List Container
  | .start factory broker =>
    (Launch.of factory broker stage.registry.endpoints stage.session).kept
  | .register _ | .stop => []

/-- What each call of a history adds. -/
def additions (stage : Stage) : List Call → List (List Container)
  | [] => []
  | call :: rest => stage.added call :: (stage.after call).additions rest

end Stage

/-! ## What one call changes -/

/-- An endpoint whose id is known is refused, any other comes last. -/
theorem register_endpoints (registry : EndpointRegistry) (endpoint : Endpoint) :
    (endpoint.id ∈ registry.endpoints.map Endpoint.id ∧
        (registry.register endpoint).endpoints = registry.endpoints) ∨
      (endpoint.id ∉ registry.endpoints.map Endpoint.id ∧
        (registry.register endpoint).endpoints = registry.endpoints ++ [endpoint]) := by
  have known_iff : registry.endpoints.any (·.id == endpoint.id) = true ↔
      endpoint.id ∈ registry.endpoints.map Endpoint.id := by
    rw [List.any_eq_true, List.mem_map]
    simp only [beq_iff_eq]
  unfold register
  split
  · rename_i known
    exact .inl ⟨known_iff.mp known, rfl⟩
  · rename_i unknown
    exact .inr ⟨fun known => unknown (known_iff.mpr known), rfl⟩

namespace Stage

/-- No call takes an endpoint away or moves one. -/
theorem endpoints_prefix_after (stage : Stage) (call : Call) :
    stage.registry.endpoints <+: (stage.after call).registry.endpoints := by
  cases call with
  | register endpoint =>
    show _ <+: (stage.registry.register endpoint).endpoints
    rcases stage.registry.register_endpoints endpoint with ⟨-, hsame⟩ | ⟨-, hmore⟩
    · exact hsame ▸ List.prefix_rfl
    · exact hmore ▸ List.prefix_append _ _
  | start factory broker => exact List.prefix_rfl
  | stop => exact List.prefix_rfl

/-- The ids of the endpoints stay distinct. -/
theorem nodup_after {stage : Stage} (call : Call)
    (h : (stage.registry.endpoints.map Endpoint.id).Nodup) :
    ((stage.after call).registry.endpoints.map Endpoint.id).Nodup := by
  cases call with
  | register endpoint =>
    show ((stage.registry.register endpoint).endpoints.map Endpoint.id).Nodup
    rcases stage.registry.register_endpoints endpoint with ⟨-, hsame⟩ | ⟨hnew, hmore⟩
    · rw [hsame]
      exact h
    · rw [hmore, List.map_append]
      exact h.append (List.nodup_singleton _) (List.disjoint_singleton.mpr hnew)
  -- Starts and stops leave the endpoints alone.
  | start factory broker => exact h
  | stop => exact h

/-- No call takes a container away; what it adds comes last. -/
theorem ids_containers_after (stage : Stage) (call : Call) :
    Container.ids (stage.after call).registry.containers =
      Container.ids stage.registry.containers ++ Container.ids (stage.added call) := by
  cases call with
  | register endpoint =>
    have hkept : (stage.registry.register endpoint).containers = stage.registry.containers := by
      unfold register
      split <;> rfl
    show Container.ids (stage.registry.register endpoint).containers = _
    rw [hkept]
    exact (List.append_nil _).symm
  | start factory broker => exact List.map_append
  | stop =>
    -- A container that is stopped is for the same endpoint as before.
    show Container.ids (stage.registry.containers.map Container.stop) = _
    rw [Container.ids, List.map_map]
    exact (List.append_nil _).symm

/-- What a call adds is for the first few endpoints, in their order. -/
theorem ids_added_prefix (stage : Stage) {call : Call} (faithful : call.Faithful) :
    Container.ids (stage.added call) <+: stage.registry.endpoints.map Endpoint.id := by
  cases call with
  | register endpoint => exact List.nil_prefix
  | start factory broker => exact Launch.ids_kept_prefix faithful _ _
  | stop => exact List.nil_prefix

end Stage

/-! ## The account of a history -/

/-- In lists that have nothing twice, something stands as often as there are lists that have it. -/
theorem count_flatten_of_nodup {lists : List (List String)} (h : ∀ ids ∈ lists, ids.Nodup)
    (id : String) : lists.flatten.count id = lists.countP fun ids => id ∈ ids := by
  induction lists with
  | nil => rfl
  | cons ids rest ih =>
    have distinct : ids.Nodup := h ids List.mem_cons_self
    have hrest := ih fun other hother => h other (List.mem_cons_of_mem _ hother)
    rw [List.flatten_cons, List.count_append, hrest, List.countP_cons, distinct.count, Nat.add_comm]
    simp only [decide_eq_true_eq]

/-- What a stage has of the additions before it: all their ids, in the same order. Its endpoints
have distinct ids, and each addition is for the first few of them. -/
structure Account (stage : Stage) (additions : List (List Container)) : Prop where
  distinct : (stage.registry.endpoints.map Endpoint.id).Nodup
  held : Container.ids stage.registry.containers = (additions.map Container.ids).flatten
  leading : ∀ added ∈ additions,
    Container.ids added <+: stage.registry.endpoints.map Endpoint.id

namespace Account

variable {stage : Stage} {additions : List (List Container)}

theorem empty : Account {} [] := ⟨List.nodup_nil, rfl, nofun⟩

/-- What one call preserves. -/
theorem after (h : Account stage additions) {call : Call} (faithful : call.Faithful) :
    Account (stage.after call) (additions ++ [stage.added call]) where
  distinct := Stage.nodup_after call h.distinct
  held := by
    rw [stage.ids_containers_after, h.held, List.map_append, List.flatten_append,
      List.map_singleton, List.flatten_singleton]
  leading := by
    have grown : stage.registry.endpoints.map Endpoint.id <+:
        (stage.after call).registry.endpoints.map Endpoint.id :=
      (stage.endpoints_prefix_after call).map Endpoint.id
    intro added hadded
    rcases List.mem_append.mp hadded with hadded | hadded
    · exact (h.leading added hadded).trans grown
    · rw [List.mem_singleton.mp hadded]
      exact (stage.ids_added_prefix faithful).trans grown

/-- What a history preserves. -/
theorem run (h : Account stage additions) {calls : List Call}
    (faithful : ∀ call ∈ calls, call.Faithful) :
    Account (stage.behind calls) (additions ++ stage.additions calls) := by
  -- Induction on the calls, with all that was added before them in the account.
  induction calls generalizing stage additions with
  | nil =>
    rw [Stage.additions, List.append_nil]
    exact h
  | cons call rest ih =>
    have hrest := ih (h.after (faithful call List.mem_cons_self)) fun other hother =>
      faithful other (List.mem_cons_of_mem _ hother)
    rw [List.append_assoc] at hrest
    exact hrest

/-- Two additions have no id in common just if one of them is empty: both begin with the id of the
first endpoint. -/
theorem disjoint_iff (h : Account stage additions) {earlier later : List Container}
    (hearlier : earlier ∈ additions) (hlater : later ∈ additions) :
    (Container.ids earlier).Disjoint (Container.ids later) ↔ earlier = [] ∨ later = [] := by
  constructor
  · intro hdisjoint
    -- Both are the first few of the same ids, so their first ids are the same.
    obtain ⟨more, hmore⟩ := h.leading earlier hearlier
    obtain ⟨others, hothers⟩ := h.leading later hlater
    cases earlier with
    | nil => exact .inl rfl
    | cons first _ =>
      cases later with
      | nil => exact .inr rfl
      | cons second behind =>
        have same : first.endpoint.id = second.endpoint.id :=
          (List.cons.inj (hmore.trans hothers.symm)).1
        have shared : first.endpoint.id ∈ Container.ids (second :: behind) := by
          rw [same]
          exact List.mem_cons_self
        exact absurd shared (hdisjoint List.mem_cons_self)
  · rintro (rfl | rfl)
    · exact List.disjoint_nil_left _
    · exact List.disjoint_nil_right _

/-- No addition has an id twice. -/
theorem nodup_of_mem (h : Account stage additions) :
    ∀ ids ∈ additions.map Container.ids, ids.Nodup := by
  intro ids hids
  obtain ⟨added, hadded, rfl⟩ := List.mem_map.mp hids
  exact h.distinct.sublist (h.leading added hadded).sublist

/-- No id is held twice exactly as long as no two additions have containers. -/
theorem nodup_iff (h : Account stage additions) :
    (Container.ids stage.registry.containers).Nodup ↔
      additions.Pairwise fun earlier later => earlier = [] ∨ later = [] := by
  rw [h.held, List.nodup_flatten, and_iff_right h.nodup_of_mem, List.pairwise_map]
  exact List.Pairwise.iff_of_mem fun hearlier hlater => h.disjoint_iff hearlier hlater

/-- An id is held as often as an addition has a container for it. -/
theorem count_eq (h : Account stage additions) (id : String) :
    (Container.ids stage.registry.containers).count id =
      additions.countP fun added => id ∈ Container.ids added := by
  rw [h.held, count_flatten_of_nodup h.nodup_of_mem, List.countP_map]
  rfl

end Account

/-! ## Histories from the start -/

/-- As many containers are held for an id as starts came past its endpoint. -/
theorem count_containers {calls : List Call} (faithful : ∀ call ∈ calls, call.Faithful)
    (id : String) :
    (Container.ids (Stage.behind {} calls).registry.containers).count id =
      (Stage.additions {} calls).countP fun added => id ∈ Container.ids added :=
  (Account.empty.run faithful).count_eq id

/-- No two containers are held for one id exactly as long as no two calls of the history added
any. -/
theorem nodup_containers_iff {calls : List Call} (faithful : ∀ call ∈ calls, call.Faithful) :
    (Container.ids (Stage.behind {} calls).registry.containers).Nodup ↔
      (Stage.additions {} calls).Pairwise fun earlier later => earlier = [] ∨ later = [] :=
  (Account.empty.run faithful).nodup_iff

/-! ## A start that is tried again -/

namespace Sample

/-- A broker that does all that it is asked, but refuses the second connection. -/
def flaky : Broker := fun asked request =>
  match request with
  | .connect => if Session.connects ⟨asked⟩ = 1 then .error (.connection "refused") else .ok ()
  | .publish .. => .ok .notRequested
  | .declareQueue _ | .deleteQueue _ => .ok 0
  | .openChannel | .closeChannel _ | .confirm | .declareExchange _ | .deleteExchange _
  | .bindQueue .. | .limitPrefetch _ | .subscribe .. => .ok ()

/-- The start of two endpoints. -/
def start : Call :=
  .start (.standard ⟨.given 1, .cachingAt "localhost" 5672⟩ {}) flaky

/-- Two endpoints and their start, which fails at the second one. -/
def failed : List Call :=
  [.register ⟨"orders", ["orders"]⟩, .register ⟨"bills", ["bills"]⟩, start]

end Sample

/-- One start leaves one container for an id, even a start that fails. -/
theorem nodup_containers_failed :
    (∀ call ∈ Sample.failed, call.Faithful) ∧
      (Container.ids (Stage.behind {} Sample.failed).registry.containers).Nodup := by
  have faithful : ∀ call ∈ Sample.failed, call.Faithful :=
    List.forall_mem_cons.mpr ⟨trivial, List.forall_mem_cons.mpr ⟨trivial,
      List.forall_mem_singleton.mpr (ContainerFactory.faithful_standard _ _)⟩⟩
  have added : Stage.additions {} Sample.failed = [[], [], [_]] := rfl
  refine ⟨faithful, (nodup_containers_iff faithful).mpr ?_⟩
  rw [added]
  simp

/-- The start is tried again and succeeds, and two containers run for one endpoint. -/
theorem repeated_after_retry :
    (Stage.behind {} (Sample.failed ++ [Sample.start])).registry.containers.map
        (fun container => (container.endpoint.id, container.isRunning)) =
      [("orders", true), ("orders", true), ("bills", true)] ∧
    ¬ (Container.ids
      (Stage.behind {} (Sample.failed ++ [Sample.start])).registry.containers).Nodup := by
  have held : (Stage.behind {} (Sample.failed ++ [Sample.start])).registry.containers.map
      (fun container => (container.endpoint.id, container.isRunning)) =
        [("orders", true), ("orders", true), ("bills", true)] := rfl
  refine ⟨held, ?_⟩
  have ids : Container.ids
      (Stage.behind {} (Sample.failed ++ [Sample.start])).registry.containers =
        ["orders", "orders", "bills"] := rfl
  rw [ids]
  decide

end EndpointRegistry

end BrokerWiring
