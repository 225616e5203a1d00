import BrokerWiring.Proofs.Wiring.Calls

/-!
# Declarations in another order

A wiring asks three things of what a caller declares: which definitions there are for each role,
which endpoints there are, and what was said last about listeners. Lists of declarations that
answer alike (`Roster.Alike`) come to the same resolution, however they mix the rest
(`resolve_eq_of_alike`): the same constructors run and see the same, the same one fails first, and
the same registry is returned.
-/

namespace BrokerWiring

/-- The endpoint that a declaration adds. -/
def Declaration.endpoint? : Declaration → Option Endpoint
  | .endpoint added => some added
  | _ => none

/-- Two lists of declarations differ only in how they mix what they say of different roles, of
endpoints and of listeners. -/
structure Roster.Alike (declarations others : List Declaration) : Prop where
  /-- For each role, the same is declared in the same order. -/
  definitions : ∀ role, definitionsFor declarations role = definitionsFor others role
  /-- The same endpoints are declared in the same order. -/
  endpoints : declarations.filterMap Declaration.endpoint? =
    others.filterMap Declaration.endpoint?
  /-- The last that is said about listeners is the same, or neither says anything. -/
  listeners : (declarations.filterMap Declaration.switch?).getLast? =
    (others.filterMap Declaration.switch?).getLast?

namespace Definitions

theorem endpoints_foldl_declare (declarations : List Declaration) (start : Definitions) :
    (declarations.foldl declare start).endpoints =
      start.endpoints ++ declarations.filterMap Declaration.endpoint? := by
  induction declarations generalizing start with
  | nil => simp
  | cons declaration rest ih =>
    rw [List.foldl_cons, ih]
    cases declaration <;> simp [declare, Declaration.endpoint?, List.filterMap_cons]

theorem ofDeclarations_endpoints (declarations : List Declaration) :
    (ofDeclarations declarations).endpoints = declarations.filterMap Declaration.endpoint? :=
  endpoints_foldl_declare declarations {}

theorem ofRole_ofDeclarations (declarations : List Declaration) (role : Role) :
    (ofDeclarations declarations).ofRole role = Roster.definitionsFor declarations role := by
  rw [ofRole, ofDeclarations_definitions]
  rfl

variable {definitions others : Definitions}

/-- Support for listeners hangs on what is said about them and on the endpoints. -/
theorem listenerSupport_congr (hendpoints : definitions.endpoints = others.endpoints)
    (hlisteners : definitions.listeners? = others.listeners?) :
    definitions.listenerSupport = others.listenerSupport := by
  unfold listenerSupport
  rw [hendpoints, hlisteners]

end Definitions

/-- A plan hangs on the definitions of each role and on the support for listeners, not on how
definitions of different roles are mixed. -/
theorem Plan.steps_congr {definitions others : Definitions} (dynamic : Bool)
    (hrole : ∀ role, definitions.ofRole role = others.ofRole role)
    (hsupport : definitions.listenerSupport = others.listenerSupport) :
    steps dynamic definitions = steps dynamic others := by
  rw [steps, steps, rounds_eq _ _ Role.nodup_order, rounds_eq _ _ Role.nodup_order, hsupport]
  refine List.flatMap_congr fun role _ => ?_
  rw [hrole role]

namespace Configuration

/-- Declarations that are alike come to the same resolution. -/
theorem resolve_eq_of_alike (configuration : Configuration) {declarations others : List Declaration}
    (alike : Roster.Alike declarations others) :
    configuration.resolve (.ofDeclarations declarations) =
      configuration.resolve (.ofDeclarations others) := by
  have hendpoints : (Definitions.ofDeclarations declarations).endpoints =
      (Definitions.ofDeclarations others).endpoints := by
    rw [Definitions.ofDeclarations_endpoints, Definitions.ofDeclarations_endpoints,
      alike.endpoints]
  have hlisteners : (Definitions.ofDeclarations declarations).listeners? =
      (Definitions.ofDeclarations others).listeners? := by
    rw [Definitions.ofDeclarations_listeners?, Definitions.ofDeclarations_listeners?,
      alike.listeners]
  have hrole (role : Role) : (Definitions.ofDeclarations declarations).ofRole role =
      (Definitions.ofDeclarations others).ofRole role := by
    rw [Definitions.ofRole_ofDeclarations, Definitions.ofRole_ofDeclarations,
      alike.definitions role]
  unfold resolve
  cases BrokerSettings.bind configuration.properties configuration.scope with
  | error error => rfl
  | ok settings =>
    dsimp only
    rw [hendpoints, Plan.steps_congr settings.dynamic hrole
      (Definitions.listenerSupport_congr hendpoints hlisteners)]

end Configuration

/-- The declarations of the sample in the order in which they are wired, with the endpoint first. -/
def Sample.sorted : List Declaration :=
  [.endpoint ⟨"orders", ["orders"]⟩, .component "json" (.messageConverter ⟨.given 3, .json⟩),
    .define template, .disableListeners, .define admin]

/-- The sample and its sorted form fail alike, over the admin that cannot be made. -/
theorem resolve_eq_sample :
    Roster.Alike Sample.declarations Sample.sorted ∧
      Sample.dynamicConfiguration.resolve (.ofDeclarations Sample.declarations) =
        Sample.dynamicConfiguration.resolve (.ofDeclarations Sample.sorted) ∧
      (Sample.dynamicConfiguration.resolve (.ofDeclarations Sample.sorted)).outcome =
        .error (.source "no admin here") := by
  have alike : Roster.Alike Sample.declarations Sample.sorted :=
    ⟨fun role => by cases role <;> rfl, rfl, rfl⟩
  exact ⟨alike, Sample.dynamicConfiguration.resolve_eq_of_alike alike, rfl⟩

end BrokerWiring
