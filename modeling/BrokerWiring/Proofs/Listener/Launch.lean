import Mathlib.Data.List.Forall2
import BrokerWiring.Proofs.Listener.Containers

/-!
# A start of all endpoints, up to the first failure

A start goes through the endpoints in their order. The container of each is made, started if it is
to start on its own, and kept; the first one that fails ends it. `ComesUp` says without a look at
failures how endpoints come up one after another, each in the session that the ones before it
leave, and `BreaksOff` that one behind them fails. Every start is one or the other
(`comesUp_or_breaksOff`), and in either case it is known what it comes to: what it answers, what it
keeps, what it has made on the way and what it has asked of the broker (`StartsInTurn`).

A registry never has two endpoints of one id, so nothing is lost by factories that are functions of
the endpoint: over one start they can answer each endpoint as they like.
-/

namespace BrokerWiring

/-- A container as a factory makes it for an endpoint, started or not. -/
structure ContainerFactory.Made (factory : ContainerFactory) (endpoint : Endpoint)
    (container : Container) : Prop where
  endpoint_eq : container.endpoint = (factory.create endpoint).endpoint
  settings_eq : container.settings = (factory.create endpoint).settings

/-- A start changes nothing but the number of consumers. -/
theorem Container.start_settings (container : Container) (broker : Broker) (session : Session) :
    (container.start broker session).2.1.settings = container.settings := by
  unfold start
  split
  · rfl
  · split <;> rfl

theorem Container.isRunning_stop (container : Container) : container.stop.isRunning = false := rfl

namespace Launch

/-! ## The two courses -/

/-- The endpoints come up: each container that is to start on its own does so, in the session that
those before it leave. What is listed are the containers as they are then, and last comes the
session behind them all. -/
inductive ComesUp (factory : ContainerFactory) (broker : Broker) :
    List Endpoint → Session → List Container → Session → Prop
  | nil (session : Session) : ComesUp factory broker [] session [] session
  | started {endpoint : Endpoint} {rest : List Endpoint} {session next last : Session}
      {container : Container} {up : List Container} :
      (factory.create endpoint).settings.autoStartup = true →
      (factory.create endpoint).start broker session = (.ok (), container, next) →
      ComesUp factory broker rest next up last →
      ComesUp factory broker (endpoint :: rest) session (container :: up) last
  | waiting {endpoint : Endpoint} {rest : List Endpoint} {session last : Session}
      {up : List Container} :
      (factory.create endpoint).settings.autoStartup = false →
      ComesUp factory broker rest session up last →
      ComesUp factory broker (endpoint :: rest) session (factory.create endpoint :: up) last

/-- The endpoints `before` come up, and the one behind them is the first that fails: its container
is to start on its own, and the start leaves it `broken`. -/
structure BreaksOff (factory : ContainerFactory) (broker : Broker) (endpoints : List Endpoint)
    (session : Session) (before : List Endpoint) (endpoint : Endpoint) (up : List Container)
    (error : BrokerError) (broken : Container) (last : Session) : Prop where
  listed : before ++ [endpoint] <+: endpoints
  automatic : (factory.create endpoint).settings.autoStartup = true
  failed : ∃ next, ComesUp factory broker before session up next ∧
    (factory.create endpoint).start broker next = (.error error, broken, last)

variable {factory : ContainerFactory} {broker : Broker} {endpoints before : List Endpoint}
  {endpoint : Endpoint} {session next last : Session} {up : List Container}
  {error : BrokerError} {broken : Container}

/-- Either all endpoints come up, or there is a first one that fails. -/
theorem comesUp_or_breaksOff (factory : ContainerFactory) (broker : Broker)
    (endpoints : List Endpoint) (session : Session) :
    (∃ up last, ComesUp factory broker endpoints session up last) ∨
      ∃ before endpoint up error broken last,
        BreaksOff factory broker endpoints session before endpoint up error broken last := by
  induction endpoints generalizing session with
  | nil => exact .inl ⟨_, _, .nil session⟩
  | cons first rest ih =>
    -- The first one came up, so what becomes of the others decides.
    have behind {next : Session} {container : Container}
        (cons : ∀ {tail up last}, ComesUp factory broker tail next up last →
          ComesUp factory broker (first :: tail) session (container :: up) last) :
        (∃ up last, ComesUp factory broker (first :: rest) session up last) ∨
          ∃ before endpoint up error broken last,
            BreaksOff factory broker (first :: rest) session before endpoint up error broken
              last := by
      rcases ih next with ⟨up, last, h⟩ | ⟨before, endpoint, up, error, broken, last, h⟩
      · exact .inl ⟨_, _, cons h⟩
      · obtain ⟨listed, automatic, middle, hup, hstart⟩ := h
        exact .inr ⟨first :: before, endpoint, container :: up, error, broken, last,
          List.cons_prefix_cons.mpr ⟨rfl, listed⟩, automatic, middle, cons hup, hstart⟩
    cases automatic : (factory.create first).settings.autoStartup with
    | false => exact behind (.waiting automatic)
    | true =>
      rcases hstart : (factory.create first).start broker session with
        ⟨_ | _, container, next⟩
      · exact .inr ⟨[], first, [], _, container, next, List.prefix_append [first] rest, automatic,
          session, .nil session, hstart⟩
      · exact behind (.started automatic hstart)

/-! ## What it comes to -/

theorem counting_zero (outcome : Except BrokerError Nat) : outcome.map (0 + ·) = outcome := by
  cases outcome with
  | error e => rfl
  | ok n => exact congrArg Except.ok (Nat.zero_add n)

theorem counting_counting (outcome : Except BrokerError Nat) (started count : Nat) :
    (outcome.map (count + ·)).map (started + ·) = outcome.map (count + started + ·) := by
  cases outcome with
  | error e => rfl
  | ok n =>
    refine congrArg Except.ok ?_
    show started + (count + n) = count + started + n
    omega

namespace ComesUp

/-- There is one container for each endpoint, in their order. -/
theorem made (h : ComesUp factory broker endpoints session up last) :
    List.Forall₂ factory.Made endpoints up := by
  induction h with
  | nil => exact .nil
  | @started endpoint _ session _ _ _ _ _ hstart _ ih =>
    have hendpoint := (factory.create endpoint).start_endpoint broker session
    have hsettings := (factory.create endpoint).start_settings broker session
    rw [hstart] at hendpoint hsettings
    exact .cons ⟨hendpoint, hsettings⟩ ih
  | waiting _ _ ih => exact .cons ⟨rfl, rfl⟩ ih

/-- How endpoints come up hangs on what the factory makes for them alone. -/
theorem congr (h : ComesUp factory broker endpoints session up last) {other : ContainerFactory}
    (same : ∀ endpoint ∈ endpoints, other.create endpoint = factory.create endpoint) :
    ComesUp other broker endpoints session up last := by
  induction h with
  | nil session => exact .nil session
  | started automatic hstart _ ih =>
    obtain ⟨first, rest⟩ := List.forall_mem_cons.mp same
    exact .started (first ▸ automatic) (first ▸ hstart) (ih rest)
  | waiting manual _ ih =>
    obtain ⟨first, rest⟩ := List.forall_mem_cons.mp same
    exact first ▸ .waiting (first ▸ manual) (ih rest)

/-- Endpoints that come up stand in front of whatever becomes of those behind them. -/
theorem of_append (h : ComesUp factory broker endpoints session up next) (rest : List Endpoint) :
    Launch.of factory broker (endpoints ++ rest) session =
      { outcome := (Launch.of factory broker rest next).outcome.map
          (up.countP (·.settings.autoStartup) + ·)
        made := up ++ (Launch.of factory broker rest next).made
        session := (Launch.of factory broker rest next).session } := by
  induction h with
  | nil session =>
    rw [List.countP_nil, counting_zero]
    rfl
  | @started endpoint _ session _ _ container up automatic hstart _ ih =>
    have settings := (factory.create endpoint).start_settings broker session
    rw [hstart] at settings
    have counted : (container :: up).countP (·.settings.autoStartup) =
        up.countP (·.settings.autoStartup) + 1 :=
      List.countP_cons_of_pos (settings ▸ automatic)
    rw [List.cons_append, Launch.of, if_pos automatic, hstart]
    simp only [ih, behind, counting_counting, counted, List.cons_append]
  | @waiting endpoint _ _ _ up manual _ ih =>
    have counted : (factory.create endpoint :: up).countP (·.settings.autoStartup) =
        up.countP (·.settings.autoStartup) :=
      List.countP_cons_of_neg (by simp [manual])
    rw [List.cons_append, Launch.of, if_neg (by simp [manual])]
    simp only [ih, behind, counting_counting, counted, List.cons_append, Nat.add_zero]

end ComesUp

/-- What a start comes to if all endpoints come up. -/
theorem of_eq_of_comesUp (h : ComesUp factory broker endpoints session up last) :
    Launch.of factory broker endpoints session =
      ⟨.ok (up.countP (·.settings.autoStartup)), up, last⟩ := by
  have all := h.of_append []
  rw [List.append_nil, Launch.of] at all
  rw [all, List.append_nil]
  rfl

/-- What a start comes to if it breaks off. -/
theorem BreaksOff.of_eq
    (h : BreaksOff factory broker endpoints session before endpoint up error broken last) :
    Launch.of factory broker endpoints session = ⟨.error error, up ++ [broken], last⟩ := by
  obtain ⟨⟨after, rfl⟩, automatic, next, hup, hstart⟩ := h
  rw [List.append_assoc, List.singleton_append, hup.of_append, Launch.of, if_pos automatic, hstart]
  rfl

/-- Where a start breaks off hangs on what the factory makes up to there alone. -/
theorem BreaksOff.congr
    (h : BreaksOff factory broker endpoints session before endpoint up error broken last)
    {other : ContainerFactory}
    (same : ∀ asked ∈ before ++ [endpoint], other.create asked = factory.create asked) :
    BreaksOff other broker endpoints session before endpoint up error broken last := by
  obtain ⟨listed, automatic, next, hup, hstart⟩ := h
  obtain ⟨sameBefore, sameLast⟩ := List.forall_mem_append.mp same
  have here := sameLast endpoint List.mem_cons_self
  exact ⟨listed, here ▸ automatic, next, hup.congr sameBefore, here ▸ hstart⟩

/-- What was made when a start breaks off: a container for each endpoint up to there. -/
theorem BreaksOff.made
    (h : BreaksOff factory broker endpoints session before endpoint up error broken last) :
    List.Forall₂ factory.Made (before ++ [endpoint]) (up ++ [broken]) := by
  obtain ⟨-, -, next, hup, hstart⟩ := h
  have hendpoint := (factory.create endpoint).start_endpoint broker next
  have hsettings := (factory.create endpoint).start_settings broker next
  rw [hstart] at hendpoint hsettings
  exact List.rel_append hup.made (.cons ⟨hendpoint, hsettings⟩ .nil)

end Launch

namespace EndpointRegistry

open Launch (ComesUp BreaksOff comesUp_or_breaksOff of_eq_of_comesUp)

/-! ## Starts of a registry -/

/-- The registry with more containers behind those that it has. -/
def keeping (registry : EndpointRegistry) (up : List Container) : EndpointRegistry :=
  { registry with containers := registry.containers ++ up }

/-- What a start of all endpoints comes to. -/
structure StartsInTurn (registry : EndpointRegistry) (factory : ContainerFactory)
    (broker : Broker) (session : Session) : Prop where
  /-- One of the two is the case. -/
  course : (∃ up last, ComesUp factory broker registry.endpoints session up last) ∨
    ∃ before endpoint up error broken last,
      BreaksOff factory broker registry.endpoints session before endpoint up error broken last
  /-- If all endpoints come up, the answer is the number of the containers that are to start on
  their own, and one container for each endpoint is kept, in their order. -/
  complete : ∀ up last, ComesUp factory broker registry.endpoints session up last →
    registry.startAll factory broker session =
        (.ok (up.countP (·.settings.autoStartup)), registry.keeping up, last) ∧
      List.Forall₂ factory.Made registry.endpoints up
  /-- If one fails, the answer is its error, and the containers before it are kept. Containers were
  made for the endpoints up to it and for no other, and its start is the last thing that was asked
  of the broker. -/
  broken : ∀ before endpoint up error broken last,
    BreaksOff factory broker registry.endpoints session before endpoint up error broken last →
    registry.startAll factory broker session = (.error error, registry.keeping up, last) ∧
      (Launch.of factory broker registry.endpoints session).made = up ++ [broken] ∧
      List.Forall₂ factory.Made (before ++ [endpoint]) (up ++ [broken])
  /-- What the factory would make for the endpoints behind the one that fails counts for
  nothing. -/
  unasked : ∀ before endpoint up error broken last,
    BreaksOff factory broker registry.endpoints session before endpoint up error broken last →
    ∀ other : ContainerFactory,
      (∀ asked ∈ before ++ [endpoint], other.create asked = factory.create asked) →
      Launch.of other broker registry.endpoints session =
        Launch.of factory broker registry.endpoints session
  /-- Whatever was kept is reached when all containers are stopped. -/
  stopped : ∀ container ∈ (registry.startAll factory broker session).2.1.containers,
    container.stop ∈ (registry.startAll factory broker session).2.1.stopAll.containers ∧
      container.stop.isRunning = false

theorem startAll_of_comesUp {registry : EndpointRegistry} {factory : ContainerFactory}
    {broker : Broker} {session last : Session} {up : List Container}
    (h : ComesUp factory broker registry.endpoints session up last) :
    registry.startAll factory broker session =
      (.ok (up.countP (·.settings.autoStartup)), registry.keeping up, last) := by
  rw [startAll, of_eq_of_comesUp h]
  rfl

theorem startAll_of_breaksOff {registry : EndpointRegistry} {factory : ContainerFactory}
    {broker : Broker} {session last : Session} {before : List Endpoint} {endpoint : Endpoint}
    {up : List Container} {error : BrokerError} {broken : Container}
    (h : BreaksOff factory broker registry.endpoints session before endpoint up error broken
      last) :
    registry.startAll factory broker session = (.error error, registry.keeping up, last) := by
  have kept : (Launch.mk (.error error) (up ++ [broken]) last).kept = up := List.dropLast_concat
  rw [startAll, h.of_eq]
  simp only [kept, keeping]

/-- Endpoints start in turn up to the first failure, whatever there was before. -/
theorem startsInTurn_startAll (registry : EndpointRegistry) (factory : ContainerFactory)
    (broker : Broker) (session : Session) : registry.StartsInTurn factory broker session where
  course := comesUp_or_breaksOff factory broker registry.endpoints session
  complete _ _ h := ⟨startAll_of_comesUp h, h.made⟩
  broken _ _ _ _ _ _ h := ⟨startAll_of_breaksOff h, congrArg Launch.made h.of_eq, h.made⟩
  unasked _ _ _ _ _ _ h _ same := (h.congr same).of_eq.trans h.of_eq.symm
  stopped container hcontainer := ⟨List.mem_map_of_mem hcontainer, container.isRunning_stop⟩

namespace Sample

/-- The container that a caller makes for an endpoint: two consumers for each queue, and the handler
acknowledges. -/
def doubled (endpoint : Endpoint) : Container :=
  ⟨endpoint, ⟨true, .manual, 2, none, none, 1⟩, 0⟩

/-- A registry of three endpoints. -/
def three : EndpointRegistry :=
  { endpoints := [⟨"orders", ["orders"]⟩, ⟨"bills", ["bills"]⟩, ⟨"reports", ["reports"]⟩] }

end Sample

/-- The second container that the caller makes is refused its connection: the first one is kept with
both its consumers, and nothing is made for the third endpoint. -/
theorem startsInTurn_sample :
    let orders := Endpoint.mk "orders" ["orders"]
    let bills := Endpoint.mk "bills" ["bills"]
    let up := [{ Sample.doubled orders with consumers := 2 }]
    let factory := ContainerFactory.custom Sample.doubled
    ∃ last, BreaksOff factory Sample.flaky Sample.three.endpoints .start [orders] bills up
        (.connection "refused") (Sample.doubled bills) last ∧
      Sample.three.startAll factory Sample.flaky .start =
        (.error (.connection "refused"), Sample.three.keeping up, last) ∧
      (Launch.of factory Sample.flaky Sample.three.endpoints .start).made =
        up ++ [Sample.doubled bills] ∧
      List.Forall₂ factory.Made [orders, bills] (up ++ [Sample.doubled bills]) := by
  intro orders bills up factory
  have comes : ∃ next, ComesUp factory Sample.flaky [orders] .start up next ∧
      ∃ last, (factory.create bills).start Sample.flaky next =
        (.error (.connection "refused"), Sample.doubled bills, last) :=
    ⟨_, .started rfl rfl (.nil _), _, rfl⟩
  obtain ⟨next, hup, last, hstart⟩ := comes
  have breaks : BreaksOff factory Sample.flaky Sample.three.endpoints .start [orders] bills up
      (.connection "refused") (Sample.doubled bills) last :=
    ⟨⟨_, rfl⟩, rfl, next, hup, hstart⟩
  exact ⟨last, breaks, (startsInTurn_startAll Sample.three factory Sample.flaky .start).broken
    [orders] bills up _ _ last breaks⟩

end EndpointRegistry

end BrokerWiring
