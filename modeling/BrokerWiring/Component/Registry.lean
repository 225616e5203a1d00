import BrokerWiring.Component.Basic
import BrokerWiring.Error

/-!
# Registries of components

A registry holds components under names that are all different, in the order in which they came.
Nothing in it is ever replaced: `insert` refuses a name that is taken. A role is answered by the
first component that fills it.
-/

namespace BrokerWiring

/-- Who supplied a component. -/
inductive Origin where
  /-- The caller. -/
  | declared
  /-- The wiring, from the settings. -/
  | standard
  deriving Repr, DecidableEq

/-- The name of an origin in diagnostics. -/
def Origin.label : Origin → String
  | .declared => "Explicit"
  | .standard => "Default"

/-- A component with its name. -/
structure Entry where
  name : String
  component : Component
  origin : Origin

/-- Components under names. -/
structure Registry where
  entries : List Entry
  distinct : (entries.map Entry.name).Nodup

namespace Registry

/-- The registry without components. -/
def empty : Registry := ⟨[], List.nodup_nil⟩

/-! ## Names -/

/-- The names in the order of the entries. -/
def names (registry : Registry) : List String := registry.entries.map Entry.name

/-- The number of components. -/
def size (registry : Registry) : Nat := registry.entries.length

/-- Whether there is no component. -/
def isEmpty (registry : Registry) : Bool := registry.entries.isEmpty

/-- The entry of a name. -/
def find? (registry : Registry) (name : String) : Option Entry :=
  registry.entries.find? (·.name == name)

/-- Whether a name is taken. -/
def contains (registry : Registry) (name : String) : Bool := (registry.find? name).isSome

/-- The component of a name. -/
def get (registry : Registry) (name : String) : Except ConfigError Component :=
  match registry.find? name with
  | some found => .ok found.component
  | none => .error (.noSuchComponent s!"name '{name}'")

/-- Who supplied the component of a name. -/
def origin? (registry : Registry) (name : String) : Option Origin :=
  (registry.find? name).map Entry.origin

theorem find?_eq_none_iff {registry : Registry} {name : String} :
    registry.find? name = none ↔ name ∉ registry.names := by
  simp [find?, names]

theorem contains_iff {registry : Registry} {name : String} :
    registry.contains name = true ↔ name ∈ registry.names := by
  rw [contains, Option.isSome_iff_ne_none, ne_eq, find?_eq_none_iff, Classical.not_not]

/-- A name that is not taken keeps the names distinct behind them. -/
theorem nodup_concat {registry : Registry} {entry : Entry}
    (h : ¬registry.contains entry.name = true) :
    ((registry.entries ++ [entry]).map Entry.name).Nodup := by
  rw [List.map_append, List.nodup_append]
  refine ⟨registry.distinct, by simp, fun a ha b hb => ?_⟩
  simp only [List.map_cons, List.map_nil, List.mem_singleton] at hb
  subst hb
  rintro rfl
  exact h (contains_iff.mpr ha)

/-- Puts an entry behind the others; a name that is taken is refused. -/
def insert (registry : Registry) (entry : Entry) : Except ConfigError Registry :=
  if h : registry.contains entry.name then .error (.duplicateName entry.name)
  else .ok ⟨registry.entries ++ [entry], nodup_concat h⟩

/-- A registry is what it holds. -/
theorem ext {a b : Registry} (h : a.entries = b.entries) : a = b := by
  cases a
  cases b
  cases h
  rfl

/-- Insertion succeeds for the names that are free, and then only adds the entry behind the
others. -/
theorem insert_eq_ok_iff {registry grown : Registry} {entry : Entry} :
    registry.insert entry = .ok grown ↔
      entry.name ∉ registry.names ∧ grown.entries = registry.entries ++ [entry] := by
  rw [← contains_iff, insert]
  by_cases taken : registry.contains entry.name = true
  · simp [taken]
  · rw [dif_neg taken]
    constructor
    · rintro ⟨⟩
      exact ⟨taken, rfl⟩
    · rintro ⟨-, h⟩
      exact congrArg Except.ok (ext h.symm)

/-- Insertion fails for the names that are taken, and says which one it was. -/
theorem insert_eq_error_iff {registry : Registry} {entry : Entry} {error : ConfigError} :
    registry.insert entry = .error error ↔
      entry.name ∈ registry.names ∧ error = .duplicateName entry.name := by
  rw [← contains_iff, insert]
  by_cases taken : registry.contains entry.name = true
  · simp [taken, eq_comm]
  · simp [taken]

/-- The registry with every component changed; names and origins stay. -/
def mapComponents (registry : Registry) (change : Component → Component) : Registry :=
  ⟨registry.entries.map fun e => { e with component := change e.component }, by
    rw [List.map_map]
    exact registry.distinct⟩

/-! ## Roles -/

/-- The first component of a role. -/
def first? (registry : Registry) (role : Role) : Option Component :=
  (registry.entries.map Entry.component).find? (·.role == role)

/-- Whether a component fills a role. -/
def hasRole (registry : Registry) (role : Role) : Bool := (registry.first? role).isSome

/-- The component that counts for a role. -/
def primary (registry : Registry) (role : Role) : Except ConfigError Component :=
  match registry.first? role with
  | some found => .ok found
  | none => .error (.noSuchComponent s!"role '{role.title}'")

/-- The first instance of a role, given how a component shows it. -/
def lookup {α : Type} (registry : Registry) (role : Role)
    (shown : Component → Option (Shared α)) : Except ConfigError (Shared α) :=
  match (registry.first? role).bind shown with
  | some found => .ok found
  | none => .error (.noSuchComponent s!"role '{role.title}'")

/-- The connection factory that counts. -/
def connectionFactory (registry : Registry) : Except ConfigError (Shared ConnectionFactory) :=
  registry.lookup .connectionFactory Component.connectionFactory?

/-- The message converter that counts. -/
def messageConverter (registry : Registry) : Except ConfigError (Shared MessageConverter) :=
  registry.lookup .messageConverter Component.messageConverter?

/-- The template that counts. -/
def template (registry : Registry) : Except ConfigError (Shared Template) :=
  registry.lookup .template Component.template?

/-- The messaging template that counts. -/
def messagingTemplate (registry : Registry) : Except ConfigError (Shared MessagingTemplate) :=
  registry.lookup .messagingTemplate Component.messagingTemplate?

/-- The admin that counts. -/
def admin (registry : Registry) : Except ConfigError (Shared Admin) :=
  registry.lookup .admin Component.admin?

/-- The container factory that counts. -/
def containerFactory (registry : Registry) : Except ConfigError (Shared ContainerFactory) :=
  registry.lookup .containerFactory Component.containerFactory?

/-- The endpoint processor that counts. -/
def endpointProcessor (registry : Registry) : Except ConfigError (Shared EndpointProcessor) :=
  registry.lookup .endpointProcessor Component.endpointProcessor?

/-- The endpoint registry that counts. -/
def endpointRegistry (registry : Registry) : Except ConfigError (Shared EndpointRegistry) :=
  registry.lookup .endpointRegistry Component.endpointRegistry?

/-! ## Instances -/

/-- The name under which an instance is registered first. -/
def nameOf? (registry : Registry) (id : Identity) : Option String :=
  (registry.entries.find? (·.component.id = id)).map Entry.name

/-- The name of the first connection factory that reaches the same place in the same way. -/
def nameLike? (registry : Registry) (factory : ConnectionFactory) : Option String :=
  (registry.entries.find? fun e =>
    e.component.connectionFactory?.any fun c => c.value.looksLike factory).map Entry.name

end Registry

end BrokerWiring
