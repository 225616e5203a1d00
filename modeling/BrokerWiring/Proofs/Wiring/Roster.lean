import Mathlib.Data.List.Basic
import Mathlib.Data.List.Perm.Basic
import BrokerWiring.Wiring.Plan

/-!
# What is due

The contract of a wiring, role by role and read off the declarations alone: `Roster.forRole` says
what has to be registered for a role, and `Roster.all` puts the roles in order. The plan of a wiring
keeps to it (`filterMap_due?_steps`), although it takes the definitions out round after round. A
place in the roster tells everything that comes before it (`Roster.split`): all that is due for the
preceding roles, and what is due earlier for the role itself.
-/

namespace BrokerWiring

/-! ## Lists in blocks -/

/-- A place in a list of blocks lies in one of the blocks. -/
theorem exists_block {α β : Type} {f : α → List β} {xs : List α} {before after : List β} {y : β}
    (h : xs.flatMap f = before ++ y :: after) :
    ∃ earlier x later own others, xs = earlier ++ x :: later ∧ f x = own ++ y :: others ∧
      before = earlier.flatMap f ++ own ∧ after = others ++ later.flatMap f := by
  induction xs generalizing before with
  | nil => simp at h
  | cons x xs ih =>
    rw [List.flatMap_cons, List.append_eq_append_iff] at h
    -- The place lies behind the first block or in it, where the end of it counts as behind.
    rcases h with ⟨front, hbefore, hrest⟩ | ⟨front, hx, hrest⟩
    · obtain ⟨earlier, z, later, own, others, rfl, hz, rfl, rfl⟩ := ih hrest
      exact ⟨x :: earlier, z, later, own, others, rfl, hz, by simp [hbefore], rfl⟩
    · cases front with
      | nil =>
        have hempty : xs.flatMap f = [] ++ y :: after := hrest.symm
        obtain ⟨earlier, z, later, own, others, rfl, hz, hown, rfl⟩ := ih hempty
        refine ⟨x :: earlier, z, later, own, others, rfl, hz, ?_, rfl⟩
        rw [List.append_nil] at hx
        rw [List.flatMap_cons, List.append_assoc, ← hown, List.append_nil, hx]
      | cons z front =>
        obtain ⟨rfl, rfl⟩ := List.cons.inj hrest
        exact ⟨[], x, xs, before, front, rfl, hx, rfl, rfl⟩

/-- Sorting a list into blocks by a key neither loses an element nor doubles one. -/
theorem perm_flatMap_filter {α κ : Type} [DecidableEq κ] (key : α → κ) (xs : List α)
    {keys : List κ} (distinct : keys.Nodup) :
    (keys.flatMap fun k => xs.filter (key · = k)).Perm (xs.filter (key · ∈ keys)) := by
  induction keys with
  | nil => simp
  | cons k keys ih =>
    obtain ⟨hk, distinct⟩ := List.nodup_cons.mp distinct
    have sorted := List.filter_append_perm (fun x => decide (key x = k))
      (xs.filter (key · ∈ k :: keys))
    refine List.Perm.trans ?_ sorted
    rw [List.flatMap_cons, List.filter_filter, List.filter_filter]
    have own : xs.filter (key · = k) =
        xs.filter fun x => decide (key x = k) && decide (key x ∈ k :: keys) :=
      List.filter_congr fun x _ => by by_cases h : key x = k <;> simp [h]
    have others : xs.filter (key · ∈ keys) =
        xs.filter fun x => !decide (key x = k) && decide (key x ∈ k :: keys) :=
      List.filter_congr fun x _ => by by_cases h : key x = k <;> simp [h, hk]
    rw [own, ← others]
    exact (ih distinct).append_left _

/-! ## Declarations -/

/-- The definition that a declaration makes. -/
def Declaration.definition? : Declaration → Option Definition
  | .define definition => some definition
  | .component name made => some (.ofComponent name made)
  | _ => none

/-- What a declaration says about listeners: whether they are wanted. -/
def Declaration.switch? : Declaration → Option Bool
  | .enableListeners => some true
  | .disableListeners => some false
  | _ => none

namespace Definitions

variable {definitions : Definitions} {role : Role}

theorem definitions_foldl_declare (declarations : List Declaration) (start : Definitions) :
    (declarations.foldl declare start).definitions =
      start.definitions ++ declarations.filterMap Declaration.definition? := by
  induction declarations generalizing start with
  | nil => simp
  | cons declaration rest ih =>
    rw [List.foldl_cons, ih]
    cases declaration <;> simp [declare, Declaration.definition?, List.filterMap_cons]

theorem listeners?_foldl_declare (declarations : List Declaration) (start : Definitions) :
    (declarations.foldl declare start).listeners? =
      (declarations.filterMap Declaration.switch?).getLast?.or start.listeners? := by
  induction declarations generalizing start with
  | nil => rfl
  | cons declaration rest ih =>
    rw [List.foldl_cons, ih]
    cases declaration <;>
      simp [declare, Declaration.switch?, List.filterMap_cons, List.getLast?_cons]

theorem ofDeclarations_definitions (declarations : List Declaration) :
    (ofDeclarations declarations).definitions =
      declarations.filterMap Declaration.definition? :=
  definitions_foldl_declare declarations {}

theorem ofDeclarations_listeners? (declarations : List Declaration) :
    (ofDeclarations declarations).listeners? =
      (declarations.filterMap Declaration.switch?).getLast? := by
  rw [ofDeclarations, listeners?_foldl_declare, Option.or_none]

/-- Support for listeners is missing only if they are said not to be wanted. -/
theorem isActive_listenerSupport :
    definitions.listenerSupport.isActive = true ↔ definitions.listeners? ≠ some false := by
  unfold listenerSupport
  split
  · rename_i h
    simp [h, ListenerSupport.isActive]
  · rename_i h
    simp [h, ListenerSupport.isActive]
  · rename_i h
    rw [h]
    split <;> simp [ListenerSupport.isActive]

theorem extract_taken : (definitions.extract role).1 = definitions.ofRole role := by
  simp [extract, ofRole]

/-- Taking the definitions of one role out leaves those of the others. -/
theorem ofRole_extract_left {other : Role} (h : other ≠ role) :
    (definitions.extract role).2.ofRole other = definitions.ofRole other := by
  simp only [extract, ofRole, List.partition_eq_filter_filter, List.filter_filter]
  refine List.filter_congr fun definition _ => ?_
  by_cases hrole : definition.role = other
  · simp [hrole, h]
  · simp [hrole]

end Definitions

/-! ## The roster -/

/-- A component that has to be registered. -/
inductive Due where
  /-- The component of a definition, under its name. -/
  | declared (definition : Definition)
  /-- The standard component of a role, under the conventional name. -/
  | standard (role : Role)

namespace Due

/-- The name to register under. -/
def name : Due → String
  | .declared definition => definition.name
  | .standard role => role.conventionalName

/-- The role to fill. -/
def role : Due → Role
  | .declared definition => definition.role
  | .standard role => role

/-- The definition whose constructor has to run. -/
def definition? : Due → Option Definition
  | .declared definition => some definition
  | .standard _ => none

end Due

/-- The roles that come before a role. -/
def Role.preceding (role : Role) : List Role := Role.order.takeWhile (· ≠ role)

theorem Role.not_mem_preceding (role : Role) : role ∉ role.preceding := by
  cases role <;> decide

namespace Roster

/-- All definitions in the order of their declaration. -/
def definitions (declarations : List Declaration) : List Definition :=
  declarations.filterMap Declaration.definition?

/-- The definitions of a role in the order of their declaration. -/
def definitionsFor (declarations : List Declaration) (role : Role) : List Definition :=
  (definitions declarations).filter (·.role = role)

/-- The last that is said about listeners is that they are not wanted. -/
def ListenersOff (declarations : List Declaration) : Prop :=
  (declarations.filterMap Declaration.switch?).getLast? = some false

instance (declarations : List Declaration) : Decidable (ListenersOff declarations) :=
  inferInstanceAs (Decidable (_ = some false))

/-- Whether the definitions of a role are passed over. -/
def Withheld (dynamic : Bool) (role : Role) : Prop := role = .admin ∧ dynamic = false

instance (dynamic : Bool) (role : Role) : Decidable (Withheld dynamic role) :=
  inferInstanceAs (Decidable (_ ∧ _))

/-- What is due for a role: nothing if it is withheld; what is declared for it, in that order, if
anything is; else its standard component, which converters do not have and listeners have only
while they are not off. -/
def forRole (dynamic : Bool) (declarations : List Declaration) (role : Role) : List Due :=
  if Withheld dynamic role then []
  else if definitionsFor declarations role ≠ [] then
    (definitionsFor declarations role).map .declared
  else if role = .messageConverter ∨ role.servesListeners = true ∧ ListenersOff declarations then []
  else [.standard role]

/-- What is due, role after role. -/
def all (dynamic : Bool) (declarations : List Declaration) : List Due :=
  Role.order.flatMap (forRole dynamic declarations)

/-- The definitions whose constructors are to run, role after role. -/
def callable (dynamic : Bool) (declarations : List Declaration) : List Definition :=
  Role.order.flatMap fun role =>
    if Withheld dynamic role then [] else definitionsFor declarations role

variable {dynamic : Bool} {declarations : List Declaration} {role : Role}

/-- What is due for a role fills it. -/
theorem role_of_mem_forRole {due : Due} (h : due ∈ forRole dynamic declarations role) :
    due.role = role := by
  unfold forRole at h
  split at h
  · simp at h
  · split at h
    · obtain ⟨definition, hmem, rfl⟩ := List.mem_map.mp h
      exact of_decide_eq_true (List.mem_filter.mp hmem).2
    · split at h
      · simp at h
      · rw [List.mem_singleton.mp h]
        rfl

/-- Where one definition is due, so are all of its role and nothing else. -/
theorem forRole_of_declared {definition : Definition}
    (h : .declared definition ∈ forRole dynamic declarations role) :
    forRole dynamic declarations role = (definitionsFor declarations role).map .declared := by
  unfold forRole at h ⊢
  split_ifs at h ⊢ <;> simp_all

/-- Where a standard component is due, nothing else is. -/
theorem forRole_of_standard {other : Role}
    (h : .standard other ∈ forRole dynamic declarations role) :
    other = role ∧ role ≠ .messageConverter ∧
      forRole dynamic declarations role = [.standard role] := by
  unfold forRole at h ⊢
  split_ifs at h ⊢ <;> simp_all

/-- For connection factories and templates something is always due. -/
theorem forRole_ne_nil (h : role = .connectionFactory ∨ role = .template) :
    forRole dynamic declarations role ≠ [] := by
  unfold forRole
  rcases h with rfl | rfl <;> split_ifs <;> simp_all [Withheld, Role.servesListeners]

/-- The standard connection factory is due before all else, unless the caller declares one. -/
theorem exists_all_of_undeclared (h : definitionsFor declarations .connectionFactory = []) :
    ∃ rest, all dynamic declarations = .standard .connectionFactory :: rest := by
  have first : forRole dynamic declarations .connectionFactory =
      [.standard .connectionFactory] := by
    simp [forRole, h, Withheld, Role.servesListeners]
  rw [all, Role.order, List.flatMap_cons, first]
  exact ⟨_, rfl⟩

theorem undeclared_of_standard_mem (h : .standard .connectionFactory ∈ all dynamic declarations) :
    definitionsFor declarations .connectionFactory = [] := by
  obtain ⟨role, -, hdue⟩ := List.mem_flatMap.mp h
  obtain ⟨rfl, -, hall⟩ := forRole_of_standard hdue
  by_contra declared
  have : forRole dynamic declarations .connectionFactory =
      (definitionsFor declarations .connectionFactory).map .declared := by
    simp [forRole, declared, Withheld]
  rw [hall, eq_comm, List.map_eq_singleton_iff] at this
  obtain ⟨_, -, hsame⟩ := this
  cases hsame

theorem filterMap_definition?_forRole :
    (forRole dynamic declarations role).filterMap Due.definition? =
      if Withheld dynamic role then [] else definitionsFor declarations role := by
  unfold forRole
  split_ifs with _ declared <;> simp_all [Due.definition?, List.filterMap_map, Function.comp_def]

theorem filterMap_definition?_all :
    (all dynamic declarations).filterMap Due.definition? = callable dynamic declarations := by
  rw [all, List.filterMap_flatMap, callable]
  exact List.flatMap_congr fun role _ => filterMap_definition?_forRole

/-- The constructors that are to run are those of all definitions that are not withheld, each of
them once. -/
theorem callable_perm :
    (callable dynamic declarations).Perm
      ((definitions declarations).filter fun d => ¬Withheld dynamic d.role) := by
  set kept := (definitions declarations).filter fun d => ¬Withheld dynamic d.role with hkept
  -- Each block of the roster is the definitions of its role among those that are kept.
  have blocks : callable dynamic declarations =
      Role.order.flatMap fun role => kept.filter (·.role = role) := by
    refine List.flatMap_congr fun role _ => ?_
    rw [hkept, List.filter_filter, definitionsFor]
    split_ifs with withheld
    · rw [eq_comm, List.filter_eq_nil_iff]
      intro definition _ h
      simp only [Bool.and_eq_true, decide_eq_true_eq] at h
      exact h.2 (h.1 ▸ withheld)
    · refine List.filter_congr fun definition _ => ?_
      by_cases h : definition.role = role <;> simp [h, withheld]
  have every : kept.filter (·.role ∈ Role.order) = kept :=
    List.filter_eq_self.mpr fun definition _ => decide_eq_true (Role.mem_order _)
  have sorted := perm_flatMap_filter Definition.role kept Role.nodup_order
  rw [every, ← blocks] at sorted
  exact sorted

/-! ## Places in the roster -/

/-- The roles before a place in the order are the preceding ones, and do not come again. -/
theorem preceding_eq {earlier later : List Role} (h : Role.order = earlier ++ role :: later) :
    role.preceding = earlier ∧ ∀ other ∈ role :: later, other ∉ earlier := by
  have distinct := h ▸ Role.nodup_order
  obtain ⟨-, -, apart⟩ := List.nodup_append.mp distinct
  have fresh : ∀ other ∈ role :: later, other ∉ earlier :=
    fun other hlater hearlier => apart other hearlier other hlater rfl
  refine ⟨?_, fresh⟩
  have pass : ∀ other ∈ earlier, decide (other ≠ role) = true :=
    fun other hmem => decide_eq_true fun same => fresh role List.mem_cons_self (same ▸ hmem)
  rw [Role.preceding, h, List.takeWhile_append_of_pos pass]
  simp

/-- What comes before a place in the roster is all that is due for the preceding roles, and what
is due earlier for the role itself; what comes behind is for no preceding role. -/
theorem split {done rest : List Due} {due : Due}
    (h : all dynamic declarations = done ++ due :: rest) :
    (∃ own others, forRole dynamic declarations due.role = own ++ due :: others ∧
        done = due.role.preceding.flatMap (forRole dynamic declarations) ++ own) ∧
      ∀ later ∈ rest, later.role ∉ due.role.preceding := by
  obtain ⟨earlier, role, later, own, others, horder, hown, rfl, rfl⟩ := exists_block h
  have hrole : due.role = role :=
    role_of_mem_forRole (hown ▸ List.mem_append_right own List.mem_cons_self)
  obtain ⟨hpreceding, fresh⟩ := preceding_eq horder
  rw [hrole, hpreceding]
  refine ⟨⟨own, others, hown, rfl⟩, fun next hnext => ?_⟩
  rcases List.mem_append.mp hnext with hnext | hnext
  · have : next.role = role :=
      role_of_mem_forRole (hown ▸ List.mem_append_right own (List.mem_cons_of_mem _ hnext))
    exact this ▸ fresh role List.mem_cons_self
  · obtain ⟨other, hother, hnext⟩ := List.mem_flatMap.mp hnext
    rw [role_of_mem_forRole hnext]
    exact fresh other (List.mem_cons_of_mem _ hother)

end Roster

/-! ## Plans keep to the roster -/

/-- What a step has to register. -/
def Step.due? : Step → Option Due
  | .declared definition => some (.declared definition)
  | .standard role => some (.standard role)
  | .withhold _ => none

namespace Plan

/-- The rounds find the definitions of each role as they were declared. -/
theorem rounds_eq (dynamic listening : Bool) {roles : List Role} (distinct : roles.Nodup)
    (definitions : Definitions) :
    rounds dynamic listening roles definitions =
      roles.flatMap fun role => round dynamic listening role (definitions.ofRole role) := by
  induction roles generalizing definitions with
  | nil => rfl
  | cons role rest ih =>
    obtain ⟨hrole, distinct⟩ := List.nodup_cons.mp distinct
    rw [List.flatMap_cons, ← Definitions.extract_taken]
    show round dynamic listening role (definitions.extract role).1 ++
      rounds dynamic listening rest (definitions.extract role).2 = _
    -- What is left for the later rounds still has all definitions of their roles.
    rw [ih distinct]
    congr 1
    refine List.flatMap_congr fun other hother => ?_
    have hne : other ≠ role := fun same => hrole (same ▸ hother)
    rw [Definitions.ofRole_extract_left hne]

/-- What the steps of a round register is what is due for its role. -/
theorem filterMap_due?_round (dynamic : Bool) (declarations : List Declaration) (role : Role) :
    let definitions := Definitions.ofDeclarations declarations
    (round dynamic definitions.listenerSupport.isActive role
        (definitions.ofRole role)).filterMap Step.due? =
      Roster.forRole dynamic declarations role := by
  intro definitions
  have declared : definitions.ofRole role = Roster.definitionsFor declarations role := by
    show definitions.definitions.filter _ = _
    rw [Definitions.ofDeclarations_definitions]
    rfl
  have listening : definitions.listenerSupport.isActive = true ↔
      ¬Roster.ListenersOff declarations := by
    rw [Definitions.isActive_listenerSupport, Definitions.ofDeclarations_listeners?]
    rfl
  rw [declared]
  unfold round Roster.forRole
  by_cases withheld : Roster.Withheld dynamic role
  · have off : role = .admin ∧ dynamic = false := withheld
    rw [if_pos off, if_pos withheld]
    rfl
  · -- Not withheld: what is declared comes first, and only without it the standard component.
    have on : ¬(role = .admin ∧ dynamic = false) := withheld
    rw [if_neg on, if_neg withheld]
    by_cases any : Roster.definitionsFor declarations role ≠ []
    · rw [if_pos any, if_pos any, List.filterMap_map]
      show List.filterMap (some ∘ Due.declared) _ = _
      rw [List.filterMap_eq_map]
    · rw [if_neg any, if_neg any]
      cases role <;> by_cases off : Roster.ListenersOff declarations <;>
        simp [listening, off, Role.servesListeners, Role.hasStandard, Step.due?]

/-- The plan for declarations registers what is due, in that order. -/
theorem filterMap_due?_steps (dynamic : Bool) (declarations : List Declaration) :
    (steps dynamic (.ofDeclarations declarations)).filterMap Step.due? =
      Roster.all dynamic declarations := by
  rw [steps, rounds_eq _ _ Role.nodup_order, List.filterMap_flatMap, Roster.all]
  exact List.flatMap_congr fun role _ => filterMap_due?_round dynamic declarations role

end Plan

end BrokerWiring
