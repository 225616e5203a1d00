import BrokerWiring.Proofs.Wiring.Course
import BrokerWiring.Transport.Stores

/-!
# What a registry is composed of

A registry that a resolution returns holds exactly what was due (`Registry.ComposedOf`): one block
of entries for each role, in the order of the roles, and the block of a role fulfils what the roster
says for it. So no definition is lost or comes twice, but for the admins that are withheld.
-/

namespace BrokerWiring

/-- A list in blocks matches another one block by block. -/
theorem forall₂_blocks {α β γ : Type} {R : β → γ → Prop} {f : α → List β} {xs : List α}
    {ys : List γ} (h : List.Forall₂ R (xs.flatMap f) ys) :
    ∃ blocks, List.Forall₂ (fun x block => List.Forall₂ R (f x) block) xs blocks ∧
      ys = blocks.flatten := by
  induction xs generalizing ys with
  | nil =>
    cases h
    exact ⟨[], .nil, rfl⟩
  | cons x xs ih =>
    rw [List.flatMap_cons] at h
    obtain ⟨block, rest, rfl, hblock, hrest⟩ := forall₂_append_left h
    obtain ⟨blocks, hblocks, rfl⟩ := ih hrest
    exact ⟨block :: blocks, .cons hblock hblocks, rfl⟩

/-- The names that the caller's components are registered under. -/
def Registry.declaredNames (entries : List Entry) : List String :=
  (entries.filter (·.origin = .declared)).map Entry.name

namespace Registry

/-- A registry is composed of what is due, role after role, and holds each definition that is not
withheld once. -/
structure ComposedOf (dynamic : Bool) (declarations : List Declaration)
    (calls : List (Definition × Registry)) (registry : Registry) : Prop where
  /-- There is a block for each role, and the entries are those of the blocks. -/
  blocks : ∃ blocks : List (List Entry),
    List.Forall₂
      (fun role => List.Forall₂ (Due.Fulfilled calls) (Roster.forRole dynamic declarations role))
      Role.order blocks ∧
    List.Forall₂ Entry.Persists blocks.flatten registry.entries
  /-- No definition is lost or comes twice, but for those that are withheld. -/
  definitions : (declaredNames registry.entries).Perm
    (((Roster.definitions declarations).filter fun d => ¬Roster.Withheld dynamic d.role).map
      Definition.name)

theorem declaredNames_of_persists {before after : List Entry}
    (h : List.Forall₂ Entry.Persists before after) :
    declaredNames after = declaredNames before := by
  unfold declaredNames
  induction h with
  | nil => rfl
  | @cons old new _ _ hentry _ ih =>
    rw [List.filter_cons, List.filter_cons, hentry.origin]
    split
    · rw [List.map_cons, List.map_cons, ih, hentry.name]
    · exact ih

theorem declaredNames_of_fulfilled {calls : List (Definition × Registry)} {dues : List Due}
    {entries : List Entry} (h : List.Forall₂ (Due.Fulfilled calls) dues entries) :
    declaredNames entries = (dues.filterMap Due.definition?).map Definition.name := by
  unfold declaredNames
  induction h with
  | nil => rfl
  | cons hentry _ ih =>
    cases hentry with
    | declared => exact congrArg (_ :: ·) ih
    | standard => exact ih

end Registry

namespace Configuration

variable {configuration : Configuration} {declarations : List Declaration} {registry : Registry}

/-- A resolution that succeeds has settings, and returns a registry that is composed of what is due
under them. -/
theorem composedOf_of_resolve
    (resolved : (configuration.resolve (.ofDeclarations declarations)).outcome = .ok registry) :
    ∃ settings,
      BrokerSettings.bind configuration.properties configuration.scope = .ok settings ∧
      registry.ComposedOf settings.dynamic declarations
        (configuration.resolve (.ofDeclarations declarations)).calls := by
  obtain ⟨settings, last, bound, course, rfl⟩ := exists_course_of_resolve resolved
  have persists := last.persists_handOver
  obtain ⟨blocks, hblocks, hlast⟩ := forall₂_blocks course.entries_fulfilled
  refine ⟨settings, bound, ⟨blocks, hblocks, hlast ▸ persists⟩, ?_⟩
  rw [Registry.declaredNames_of_persists persists,
    Registry.declaredNames_of_fulfilled course.entries_fulfilled]
  exact Roster.filterMap_definition?_all ▸ Roster.callable_perm.map Definition.name

end Configuration

/-! ## An example -/

namespace Sample

/-- A configuration without dynamic topology. -/
def configuration : Configuration where
  properties := PropertySet.empty.insert "rabbitmq.dynamic" "false"
  scope := "rabbitmq"
  establish := Transport.establish .standard ⟨[], []⟩

/-- A template on the connection factory that counts. -/
def template : Definition where
  name := "orders"
  role := .template
  construct := fun registry => do
    let connectionFactory ← registry.connectionFactory
    return .template ⟨.given 1, { connectionFactory, converter := ⟨.given 2, .text⟩ }⟩

/-- An admin that cannot be made. -/
def admin : Definition where
  name := "topology"
  role := .admin
  construct := fun _ => .error (.source "no admin here")

/-- A template, an admin and a converter, in another order than they are wired, and no listeners. -/
def declarations : List Declaration :=
  [.define template, .define admin, .component "json" (.messageConverter ⟨.given 3, .json⟩),
    .enableListeners, .endpoint ⟨"orders", ["orders"]⟩, .disableListeners]

end Sample

/-- The admin is withheld although it is declared, and the converter comes before the template. -/
theorem composedOf_sample :
    ∃ registry,
      (Sample.configuration.resolve (.ofDeclarations Sample.declarations)).outcome = .ok registry ∧
      registry.names =
        ["rabbit_connection_factory", "json", "orders", "rabbit_messaging_template"] ∧
      ∃ settings, BrokerSettings.bind Sample.configuration.properties
          Sample.configuration.scope = .ok settings ∧
        registry.ComposedOf settings.dynamic Sample.declarations
          (Sample.configuration.resolve (.ofDeclarations Sample.declarations)).calls :=
  ⟨_, rfl, rfl, Configuration.composedOf_of_resolve rfl⟩

end BrokerWiring
