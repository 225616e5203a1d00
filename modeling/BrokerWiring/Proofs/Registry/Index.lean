import Mathlib.Data.List.Nodup
import BrokerWiring.Component.Index
import BrokerWiring.Proofs.Registry.Growth

/-!
# The index of a registry stays in step

Insertions, of which any may fail, keep an indexed registry in step with the plain one that takes
the same entries: it has the same entries in the same order, and its index leads from each name to
the place of its entry and knows no other name (`InStep`). One insertion preserves that, whether it
fails or not (`InStep.insert`), and so every sequence of insertions does. From it follows all that
can be seen of the two: names that never lead outside, look-ups by name that agree with the
entries, insertions that fail for the names that are taken and change nothing then, and answers
that stay (`Coherent`).
-/

namespace BrokerWiring

/-! ## Plain registries -/

namespace Registry

variable {registry grown : Registry} {entry : Entry} {name : String}

/-- What an insertion comes to, and the registry behind it: one that fails leaves it as it is. -/
def attempt (registry : Registry) (entry : Entry) : Except ConfigError Unit × Registry :=
  match registry.insert entry with
  | .ok grown => (.ok (), grown)
  | .error error => (.error error, registry)

/-- The registry behind insertions, each of which may fail. -/
def insertEach (registry : Registry) (entries : List Entry) : Registry :=
  entries.foldl (fun registry entry => (registry.attempt entry).2) registry

theorem name_of_find? (h : registry.find? name = some entry) : entry.name = name := by
  have named := List.find?_some h
  exact beq_iff_eq.mp named

/-- The entry of a name is the one that has it. -/
theorem find?_eq_some_iff :
    registry.find? name = some entry ↔ entry ∈ registry.entries ∧ entry.name = name := by
  constructor
  · intro h
    exact ⟨List.mem_of_find?_eq_some h, name_of_find? h⟩
  · rintro ⟨hmem, rfl⟩
    cases hfind : registry.find? entry.name with
    | none => exact absurd (List.mem_map_of_mem hmem) (find?_eq_none_iff.mp hfind)
    | some other =>
      exact congrArg some (List.inj_on_of_nodup_map registry.distinct
        (List.mem_of_find?_eq_some hfind) hmem (name_of_find? hfind))

theorem attempt_of_mem (h : entry.name ∈ registry.names) :
    registry.attempt entry = (.error (.duplicateName entry.name), registry) := by
  rw [attempt, insert_eq_error_iff.mpr ⟨h, rfl⟩]

theorem attempt_of_not_mem (h : entry.name ∉ registry.names) :
    ∃ grown, registry.attempt entry = (.ok (), grown) ∧
      grown.entries = registry.entries ++ [entry] := by
  cases hinsert : registry.insert entry with
  | ok grown => exact ⟨grown, by rw [attempt, hinsert], (insert_eq_ok_iff.mp hinsert).2⟩
  | error error => exact absurd (insert_eq_error_iff.mp hinsert).1 h

/-- The entry of a name stays when others come behind. -/
theorem find?_of_growth {more : List Entry} (h : grown.entries = registry.entries ++ more)
    (hfind : registry.find? name = some entry) : grown.find? name = some entry := by
  obtain ⟨hmem, hname⟩ := find?_eq_some_iff.mp hfind
  exact find?_eq_some_iff.mpr ⟨h ▸ List.mem_append_left more hmem, hname⟩

theorem get_of_growth {more : List Entry} (h : grown.entries = registry.entries ++ more)
    {component : Component} (hget : registry.get name = .ok component) :
    grown.get name = .ok component := by
  cases hfind : registry.find? name with
  | none =>
    rw [get, hfind] at hget
    cases hget
  | some entry =>
    rw [get, hfind] at hget
    rw [get, find?_of_growth h hfind]
    exact hget

theorem origin?_of_growth {more : List Entry} (h : grown.entries = registry.entries ++ more)
    {origin : Origin} (horigin : registry.origin? name = some origin) :
    grown.origin? name = some origin := by
  obtain ⟨entry, hfind, horigin⟩ := Option.map_eq_some_iff.mp horigin
  exact Option.map_eq_some_iff.mpr ⟨entry, find?_of_growth h hfind, horigin⟩

/-! ## Roles -/

/-- The component is the first one of its role. -/
def LeadsWith (registry : Registry) (role : Role) (component : Component) : Prop :=
  component.role = role ∧ ∃ before entry after,
    registry.entries = before ++ entry :: after ∧ entry.component = component ∧
      ∀ earlier ∈ before, earlier.component.role ≠ role

theorem first?_eq_some_iff {role : Role} {component : Component} :
    registry.first? role = some component ↔ registry.LeadsWith role component := by
  rw [first?, List.find?_map, Option.map_eq_some_iff]
  simp only [List.find?_eq_some_iff_append, Function.comp_apply, beq_iff_eq, Bool.not_eq_true',
    beq_eq_false_iff_ne]
  constructor
  · rintro ⟨entry, ⟨fills, before, after, hentries, earlier⟩, rfl⟩
    exact ⟨fills, before, entry, after, hentries, rfl, earlier⟩
  · rintro ⟨fills, before, entry, after, hentries, rfl, earlier⟩
    exact ⟨entry, ⟨fills, before, after, hentries, earlier⟩, rfl⟩

/-- What a look-up of a role answers: the first component of the role, or else that there is
none. -/
structure Answers {α : Type} (registry : Registry) (role : Role) (wrap : Shared α → Component)
    (answer : Except ConfigError (Shared α)) : Prop where
  ok_iff (found : Shared α) : answer = .ok found ↔ registry.LeadsWith role (wrap found)
  error_iff (error : ConfigError) : answer = .error error ↔
    registry.hasRole role = false ∧ error = .noSuchComponent s!"role '{role.title}'"

theorem answers_lookup {α : Type} (registry : Registry) {role : Role}
    {shown : Component → Option (Shared α)} {wrap : Shared α → Component}
    (shows : ∀ component found, shown component = some found ↔ component = wrap found)
    (filled : ∀ component : Component, component.role = role → ∃ found, component = wrap found) :
    registry.Answers role wrap (registry.lookup role shown) := by
  cases hfirst : registry.first? role with
  | none =>
    have answer : registry.lookup role shown =
        .error (.noSuchComponent s!"role '{role.title}'") := by
      rw [lookup, hfirst]
      rfl
    constructor
    · intro found
      rw [answer, ← first?_eq_some_iff, hfirst]
      exact ⟨nofun, nofun⟩
    · intro error
      rw [answer, hasRole, hfirst]
      exact ⟨fun h => ⟨rfl, (Except.error.inj h).symm⟩, fun h => congrArg Except.error h.2.symm⟩
  | some component =>
    obtain ⟨first, rfl⟩ := filled component (role_of_first? hfirst)
    have answer : registry.lookup role shown = .ok first := by
      rw [lookup, hfirst, Option.bind_some, (shows _ _).mpr rfl]
    constructor
    · intro found
      rw [answer, ← first?_eq_some_iff, hfirst, Option.some_inj, Except.ok.injEq]
      constructor
      · rintro rfl
        rfl
      · intro same
        exact Option.some.inj (((shows _ _).mpr rfl).symm.trans ((shows _ _).mpr same))
    · intro error
      rw [answer, hasRole, hfirst]
      exact ⟨nofun, fun h => nomatch h.1⟩

/-- What the look-ups of all roles answer. -/
structure RolesAnswered (registry : Registry) : Prop where
  hasRole_iff (role : Role) : registry.hasRole role = true ↔
    ∃ entry ∈ registry.entries, entry.component.role = role
  connectionFactory : registry.Answers .connectionFactory .connectionFactory
    registry.connectionFactory
  messageConverter : registry.Answers .messageConverter .messageConverter
    registry.messageConverter
  template : registry.Answers .template .template registry.template
  messagingTemplate : registry.Answers .messagingTemplate .messagingTemplate
    registry.messagingTemplate
  admin : registry.Answers .admin .admin registry.admin
  containerFactory : registry.Answers .containerFactory .containerFactory
    registry.containerFactory
  endpointProcessor : registry.Answers .endpointProcessor .endpointProcessor
    registry.endpointProcessor
  endpointRegistry : registry.Answers .endpointRegistry .endpointRegistry
    registry.endpointRegistry

theorem rolesAnswered (registry : Registry) : registry.RolesAnswered where
  hasRole_iff role := by
    rw [hasRole, first?, List.find?_map, Option.isSome_map, List.find?_isSome]
    simp only [Function.comp_apply, beq_iff_eq]
  connectionFactory := registry.answers_lookup
    (fun component _ => by cases component <;> simp [Component.connectionFactory?])
    fun component h => by cases component <;> first | exact ⟨_, rfl⟩ | cases h
  messageConverter := registry.answers_lookup
    (fun component _ => by cases component <;> simp [Component.messageConverter?])
    fun component h => by cases component <;> first | exact ⟨_, rfl⟩ | cases h
  template := registry.answers_lookup
    (fun component _ => by cases component <;> simp [Component.template?])
    fun component h => by cases component <;> first | exact ⟨_, rfl⟩ | cases h
  messagingTemplate := registry.answers_lookup
    (fun component _ => by cases component <;> simp [Component.messagingTemplate?])
    fun component h => by cases component <;> first | exact ⟨_, rfl⟩ | cases h
  admin := registry.answers_lookup
    (fun component _ => by cases component <;> simp [Component.admin?])
    fun component h => by cases component <;> first | exact ⟨_, rfl⟩ | cases h
  containerFactory := registry.answers_lookup
    (fun component _ => by cases component <;> simp [Component.containerFactory?])
    fun component h => by cases component <;> first | exact ⟨_, rfl⟩ | cases h
  endpointProcessor := registry.answers_lookup
    (fun component _ => by cases component <;> simp [Component.endpointProcessor?])
    fun component h => by cases component <;> first | exact ⟨_, rfl⟩ | cases h
  endpointRegistry := registry.answers_lookup
    (fun component _ => by cases component <;> simp [Component.endpointRegistry?])
    fun component h => by cases component <;> first | exact ⟨_, rfl⟩ | cases h

/-- A component that leads its role goes on to do so when others come behind. -/
theorem first?_of_growth {more : List Entry} {role : Role} {component : Component}
    (h : grown.entries = registry.entries ++ more)
    (hfirst : registry.first? role = some component) : grown.first? role = some component := by
  rw [first?, h, List.map_append, List.find?_append]
  rw [first?] at hfirst
  rw [hfirst, Option.some_or]

/-- So does what a look-up of its role finds. -/
theorem lookup_of_growth {more : List Entry} {role : Role} {α : Type}
    {shown : Component → Option (Shared α)} {found : Shared α}
    (h : grown.entries = registry.entries ++ more)
    (hlookup : registry.lookup role shown = .ok found) : grown.lookup role shown = .ok found := by
  cases hfirst : registry.first? role with
  | none =>
    rw [lookup, hfirst] at hlookup
    cases hlookup
  | some component =>
    have same : grown.first? role = registry.first? role :=
      (first?_of_growth h hfirst).trans hfirst.symm
    exact (lookup_congr same).trans hlookup

end Registry

namespace IndexedRegistry

variable {indexed : IndexedRegistry} {registry : Registry} {entry : Entry} {name : String}

/-! ## In step -/

/-- The entries are those of the plain registry, and the index leads from each name to its place
and knows no other name. -/
structure InStep (indexed : IndexedRegistry) (registry : Registry) : Prop where
  entries_eq : indexed.entries.toList = registry.entries
  index_iff (name : String) (place : Nat) :
    indexed.index[name]? = some place ↔ registry.names[place]? = some name

namespace InStep

theorem empty : InStep {} .empty where
  entries_eq := rfl
  index_iff name place := by simp [Registry.names, Registry.empty]

/-- The index knows the names that are taken. -/
theorem contains_iff (h : InStep indexed registry) :
    indexed.contains name = true ↔ name ∈ registry.names := by
  rw [contains, ← Std.HashMap.isSome_getElem?_eq_contains, Option.isSome_iff_exists,
    List.mem_iff_getElem?]
  exact exists_congr (h.index_iff name)

/-- A name leads to the entry that has it, or nowhere. -/
theorem slot_eq (h : InStep indexed registry) :
    indexed.slot name = match registry.find? name with
      | none => .vacant
      | some entry => .held entry := by
  unfold slot
  cases hplace : indexed.index[name]? with
  | none =>
    have free : registry.find? name = none := by
      rw [Registry.find?_eq_none_iff, ← h.contains_iff, contains,
        ← Std.HashMap.isSome_getElem?_eq_contains, hplace]
      exact Bool.false_ne_true
    rw [free]
  | some place =>
    have named := (h.index_iff name place).mp hplace
    rw [Registry.names, List.getElem?_map, Option.map_eq_some_iff] at named
    obtain ⟨entry, hentry, hname⟩ := named
    have found : registry.find? name = some entry :=
      Registry.find?_eq_some_iff.mpr ⟨List.mem_of_getElem? hentry, hname⟩
    have stands : indexed.entries[place]? = some entry := by
      rw [← Array.getElem?_toList, h.entries_eq, hentry]
    simp only [found, stands]

/-- A name that is taken is refused by both, and both stay as they are. -/
theorem insert_of_mem (h : InStep indexed registry) (taken : entry.name ∈ registry.names) :
    indexed.insert entry = (.error (.duplicateName entry.name), indexed) :=
  if_pos (h.contains_iff.mpr taken)

/-- A name that is free gets the next place. -/
theorem insert_of_not_mem (h : InStep indexed registry) (free : entry.name ∉ registry.names) :
    indexed.insert entry =
      (.ok (), ⟨indexed.entries.push entry,
        indexed.index.insert entry.name indexed.entries.size⟩) :=
  if_neg fun taken => free (h.contains_iff.mp taken)

/-- What stands at a place behind one more: what stood there before, or the new one at the end. -/
theorem getElem?_concat_eq_some_iff {α : Type} {l : List α} {a b : α} {place : Nat} :
    (l ++ [a])[place]? = some b ↔ l[place]? = some b ∨ place = l.length ∧ a = b := by
  by_cases inside : place < l.length
  · rw [List.getElem?_append_left inside]
    exact (or_iff_left fun last => Nat.ne_of_lt inside last.1).symm
  · have behind : l.length ≤ place := Nat.le_of_not_lt inside
    rw [List.getElem?_append_right behind, List.getElem?_eq_none behind, List.getElem?_singleton]
    simp only [Option.ite_none_right_eq_some, Option.some_inj, reduceCtorEq, false_or]
    exact and_congr_left' (by omega)

/-- What a new entry preserves. -/
theorem push (h : InStep indexed registry) (free : entry.name ∉ registry.names) {grown : Registry}
    (hgrown : grown.entries = registry.entries ++ [entry]) :
    InStep ⟨indexed.entries.push entry, indexed.index.insert entry.name indexed.entries.size⟩
      grown where
  entries_eq := by rw [Array.toList_push, h.entries_eq, hgrown]
  index_iff name place := by
    have size : indexed.entries.size = registry.names.length := by
      rw [← Array.length_toList, h.entries_eq, Registry.names, List.length_map]
    have names : grown.names = registry.names ++ [entry.name] := by
      rw [Registry.names, hgrown, List.map_append]
      rfl
    rw [Std.HashMap.getElem?_insert, names, getElem?_concat_eq_some_iff, size]
    by_cases same : entry.name = name
    · subst same
      rw [if_pos (beq_self_eq_true _)]
      constructor
      · intro hplace
        exact .inr ⟨(Option.some.inj hplace).symm, rfl⟩
      · rintro (before | ⟨rfl, -⟩)
        · exact absurd (List.mem_of_getElem? before) free
        · rfl
    · rw [if_neg (by simpa using same), h.index_iff]
      exact (or_iff_left fun both => same both.2).symm

/-- What one insertion preserves, whether it fails or not; and both registries answer the same. -/
theorem insert (h : InStep indexed registry) (entry : Entry) :
    (indexed.insert entry).1 = (registry.attempt entry).1 ∧
      InStep (indexed.insert entry).2 (registry.attempt entry).2 := by
  by_cases taken : entry.name ∈ registry.names
  · rw [h.insert_of_mem taken, Registry.attempt_of_mem taken]
    exact ⟨rfl, h⟩
  · obtain ⟨grown, hattempt, hgrown⟩ := Registry.attempt_of_not_mem taken
    rw [h.insert_of_not_mem taken, hattempt]
    exact ⟨rfl, h.push taken hgrown⟩

/-- What a sequence of insertions preserves. -/
theorem insertEach (h : InStep indexed registry) (entries : List Entry) :
    InStep (indexed.insertEach entries) (registry.insertEach entries) := by
  induction entries generalizing indexed registry with
  | nil => exact h
  | cons entry rest ih => exact ih (h.insert entry).2

/-! ## What can be seen -/

theorem contains_eq (h : InStep indexed registry) (name : String) :
    indexed.contains name = registry.contains name := by
  rw [Bool.eq_iff_iff, h.contains_iff, Registry.contains_iff]

theorem get?_eq (h : InStep indexed registry) (name : String) :
    indexed.get? name = some (registry.get name) := by
  rw [get?, h.slot_eq, Registry.get]
  cases registry.find? name <;> rfl

theorem origin?_eq (h : InStep indexed registry) (name : String) :
    indexed.origin? name = some (registry.origin? name) := by
  rw [origin?, h.slot_eq, Registry.origin?]
  cases registry.find? name <;> rfl

end InStep

/-- What an insertion does: it fails just for the names that are taken, and then leaves the
registry as it is; else it puts the entry behind the others. -/
structure Inserts (indexed : IndexedRegistry) (entry : Entry) : Prop where
  error_iff (error : ConfigError) : (indexed.insert entry).1 = .error error ↔
    (∃ other ∈ indexed.entries.toList, other.name = entry.name) ∧
      error = .duplicateName entry.name
  unchanged (error : ConfigError) :
    (indexed.insert entry).1 = .error error → (indexed.insert entry).2 = indexed
  appended : (indexed.insert entry).1 = .ok () →
    (indexed.insert entry).2.entries = indexed.entries.push entry
  /-- Whatever a name was answered with stays its answer. -/
  component_stays (name : String) (component : Component) : (indexed.insert entry).1 = .ok () →
    indexed.get? name = some (.ok component) →
    (indexed.insert entry).2.get? name = some (.ok component)
  origin_stays (name : String) (origin : Origin) : (indexed.insert entry).1 = .ok () →
    indexed.origin? name = some (some origin) →
    (indexed.insert entry).2.origin? name = some (some origin)

/-- What look-ups by name come to: a name that an entry has is answered with that entry, any other
is not answered, and none leads outside of the entries. -/
structure Named (indexed : IndexedRegistry) (name : String) : Prop where
  contains_iff : indexed.contains name = true ↔
    ∃ entry ∈ indexed.entries.toList, entry.name = name
  inside (place : Nat) : indexed.slot name ≠ .outside place
  held (entry : Entry) : entry ∈ indexed.entries.toList → entry.name = name →
    indexed.get? name = some (.ok entry.component) ∧
      indexed.origin? name = some (some entry.origin)
  vacant : (∀ entry ∈ indexed.entries.toList, entry.name ≠ name) →
    indexed.get? name = some (.error (.noSuchComponent s!"name '{name}'")) ∧
      indexed.origin? name = some none

/-- An indexed registry and the plain one with the same entries, and all that they answer. -/
structure Coherent (indexed : IndexedRegistry) (registry : Registry) : Prop where
  entries_eq : indexed.entries.toList = registry.entries
  distinct : (indexed.entries.toList.map Entry.name).Nodup
  /-- The index leads from each name to the place of its entry and knows no other name. -/
  index_iff (name : String) (place : Nat) : indexed.index[name]? = some place ↔
    ∃ entry, indexed.entries[place]? = some entry ∧ entry.name = name
  named (name : String) : indexed.Named name
  inserts (entry : Entry) : indexed.Inserts entry
  /-- The plain registry answers each name in the same way. -/
  same (name : String) : indexed.contains name = registry.contains name ∧
    indexed.get? name = some (registry.get name) ∧
    indexed.origin? name = some (registry.origin? name)
  roles : registry.RolesAnswered
  /-- Whatever a role was answered with stays its answer behind an insertion. -/
  roles_stay (entry : Entry) (role : Role) {α : Type} (shown : Component → Option (Shared α))
    (found : Shared α) : registry.lookup role shown = .ok found →
    (registry.attempt entry).2.lookup role shown = .ok found

namespace InStep

theorem named (h : InStep indexed registry) (name : String) : indexed.Named name where
  contains_iff := by
    rw [h.contains_iff, h.entries_eq, Registry.names, List.mem_map]
  inside place := by
    rw [h.slot_eq]
    cases registry.find? name <;> rintro ⟨⟩
  held entry hentry hname := by
    have found : registry.find? name = some entry :=
      Registry.find?_eq_some_iff.mpr ⟨h.entries_eq ▸ hentry, hname⟩
    rw [get?, origin?, h.slot_eq, found]
    exact ⟨rfl, rfl⟩
  vacant free := by
    have none : registry.find? name = none := by
      rw [Registry.find?_eq_none_iff, Registry.names, ← h.entries_eq]
      rintro taken
      obtain ⟨entry, hentry, hname⟩ := List.mem_map.mp taken
      exact free entry hentry hname
    rw [get?, origin?, h.slot_eq, none]
    exact ⟨rfl, rfl⟩

theorem inserts (h : InStep indexed registry) (entry : Entry) : indexed.Inserts entry := by
  have taken_iff : (∃ other ∈ indexed.entries.toList, other.name = entry.name) ↔
      entry.name ∈ registry.names := by
    rw [h.entries_eq, Registry.names, List.mem_map]
  by_cases taken : entry.name ∈ registry.names
  · have refused := h.insert_of_mem taken
    have failed : (indexed.insert entry).1 ≠ .ok () := by
      rw [refused]
      rintro ⟨⟩
    refine ⟨fun error => ?_, fun _ _ => by rw [refused], fun done => absurd done failed,
      fun _ _ done _ => absurd done failed, fun _ _ done _ => absurd done failed⟩
    rw [refused, taken_iff, and_iff_right taken, Except.error.injEq, eq_comm]
  · obtain ⟨grown, -, hgrown⟩ := Registry.attempt_of_not_mem taken
    have grows := h.push taken hgrown
    have done := h.insert_of_not_mem taken
    have succeeded (error : ConfigError) : (indexed.insert entry).1 ≠ .error error := by
      rw [done]
      rintro ⟨⟩
    refine ⟨fun error => iff_of_false (succeeded error) fun both => taken (taken_iff.mp both.1),
      fun error failed => absurd failed (succeeded error), fun _ => by rw [done],
      fun name component _ hget => ?_, fun name origin _ horigin => ?_⟩
    · rw [h.get?_eq, Option.some_inj] at hget
      rw [done, grows.get?_eq, Registry.get_of_growth hgrown hget]
    · rw [h.origin?_eq, Option.some_inj] at horigin
      rw [done, grows.origin?_eq, Registry.origin?_of_growth hgrown horigin]

theorem coherent (h : InStep indexed registry) : Coherent indexed registry where
  entries_eq := h.entries_eq
  distinct := h.entries_eq ▸ registry.distinct
  index_iff name place := by
    rw [h.index_iff, Registry.names, ← h.entries_eq, List.getElem?_map, Array.getElem?_toList,
      Option.map_eq_some_iff]
  named := h.named
  inserts := h.inserts
  same name := ⟨h.contains_eq name, h.get?_eq name, h.origin?_eq name⟩
  roles := registry.rolesAnswered
  roles_stay entry role _ shown found hlookup := by
    by_cases taken : entry.name ∈ registry.names
    · rw [Registry.attempt_of_mem taken]
      exact hlookup
    · obtain ⟨grown, hattempt, hgrown⟩ := Registry.attempt_of_not_mem taken
      rw [hattempt]
      exact Registry.lookup_of_growth hgrown hlookup

end InStep

/-- Whatever is inserted, and whichever insertions fail, the index and the entries give one
picture. -/
theorem coherent_insertEach (entries : List Entry) :
    Coherent (IndexedRegistry.insertEach {} entries) (Registry.empty.insertEach entries) :=
  (InStep.empty.insertEach entries).coherent

end IndexedRegistry

end BrokerWiring
