import Mathlib.Data.List.Induction
import Mathlib.Data.List.Nodup
import BrokerWiring.Proofs.Json.Leaves

/-!
# Ways through a document

What stands at the end of a way of names is told from a document as it is written: of the members
with one name the last counts (`Json.at?`). Taking the value of the document leaves it in place
(`textAt?_value`). As long as no object gives a name twice, the leaves that a walk comes by are the
texts at the ends of all ways (`mem_leafPaths_iff`), and where the names are in order it comes by
them in the order of their ways (`pairwise_leafPaths`).
-/

namespace BrokerWiring

namespace Json

/-! ## What stands at the end of a way -/

/-- The last member with a name. -/
def lastMember? (name : String) (members : List (String × Json)) : Option Json :=
  (members.findRev? fun member => member.1 = name).map (·.2)

/-- What stands at the end of a way. -/
def at? : Json → List String → Option Json
  | document, [] => some document
  | document, name :: rest => (lastMember? name document.children).bind (at? · rest)

/-- The text of a leaf; null and objects have none. -/
def leafText? : Json → Option String
  | .object _ => none
  | .array items => some (",".intercalate (items.filterMap Property.scalarText?))
  | scalar => Property.scalarText? scalar

/-- The text at the end of a way. -/
def textAt? (document : Json) (way : List String) : Option String :=
  (document.at? way).bind leafText?

/-- No object on the way to a leaf gives a name twice. -/
inductive NamesOnce : Json → Prop
  | object {members : List (String × Json)} : (members.map (·.1)).Nodup →
      (∀ member ∈ members, NamesOnce member.2) → NamesOnce (.object members)
  | childless {document : Json} : document.children = [] → NamesOnce document

namespace NamesOnce

variable {document : Json}

theorem nodup_children (h : document.NamesOnce) : (document.children.map (·.1)).Nodup := by
  cases h with
  | object once _ => exact once
  | childless none => exact none ▸ List.nodup_nil

theorem of_mem_children (h : document.NamesOnce) {member : String × Json}
    (hmember : member ∈ document.children) : member.2.NamesOnce := by
  cases h with
  | object _ below => exact below member hmember
  | childless none =>
    rw [none] at hmember
    cases hmember

end NamesOnce

/-- Names in order come once. -/
theorem Tidy.namesOnce {document : Json} (h : document.Tidy) : document.NamesOnce := by
  induction h with
  | object ordered _ ih => exact .object (Keyed.nodup_keys ordered) ih
  | childless none => exact .childless none

/-! ## Last members -/

theorem mem_of_findRev? {α : Type} {p : α → Bool} {l : List α} {a : α}
    (h : l.findRev? p = some a) : a ∈ l ∧ p a = true := by
  rw [List.findRev?_eq_find?_reverse] at h
  exact ⟨List.mem_reverse.mp (List.mem_of_find?_eq_some h), List.find?_some h⟩

theorem exists_findRev? {α : Type} {p : α → Bool} {l : List α} {a : α} (hmem : a ∈ l)
    (ha : p a = true) : ∃ last, l.findRev? p = some last := by
  rw [List.findRev?_eq_find?_reverse, ← Option.isSome_iff_exists, List.find?_isSome]
  exact ⟨a, List.mem_reverse.mpr hmem, ha⟩

variable {name : String} {members : List (String × Json)} {child : Json}

theorem lastMember?_concat (name : String) (members : List (String × Json))
    (member : String × Json) :
    lastMember? name (members ++ [member]) =
      if name = member.1 then some member.2 else lastMember? name members := by
  by_cases same : name = member.1
  · simp [lastMember?, same]
  · have other : ¬member.1 = name := fun h => same h.symm
    simp [lastMember?, same, other]

/-- Inserting members one after another leaves the last one of each name. -/
theorem lookup_insertAll (name : String) (members : List (String × Json)) :
    Keyed.lookup name (Keyed.insertAll members []) = lastMember? name members := by
  induction members using List.reverseRecOn with
  | nil => rfl
  | append_singleton members member ih =>
    have last : Keyed.insertAll (members ++ [member]) [] =
        Keyed.insert member.1 member.2 (Keyed.insertAll members []) := by
      simp [Keyed.insertAll]
    rw [last, Keyed.lookup_insert, lastMember?_concat, ih]

theorem lastMember?_map (change : Json → Json) (name : String) (members : List (String × Json)) :
    lastMember? name (members.map fun member => (member.1, change member.2)) =
      (lastMember? name members).map change := by
  induction members using List.reverseRecOn with
  | nil => rfl
  | append_singleton members member ih =>
    rw [List.map_append, List.map_singleton, lastMember?_concat, lastMember?_concat, ih]
    split
    · rfl
    · rfl

/-- Where each name comes once, every member is the last one of its name. -/
theorem lastMember?_eq_some_iff (once : (members.map (·.1)).Nodup) :
    lastMember? name members = some child ↔ (name, child) ∈ members := by
  constructor
  · intro h
    obtain ⟨other, hother, rfl⟩ := Option.map_eq_some_iff.mp h
    obtain ⟨hmem, hname⟩ := mem_of_findRev? hother
    obtain rfl := of_decide_eq_true hname
    exact hmem
  · intro h
    obtain ⟨other, hother⟩ := exists_findRev? h (p := fun member => member.1 = name)
      (decide_eq_true rfl)
    obtain ⟨hmem, hname⟩ := mem_of_findRev? hother
    have same : other = (name, child) :=
      List.inj_on_of_nodup_map once hmem h (of_decide_eq_true hname)
    rw [lastMember?, hother, same]
    rfl

/-- So a look-up in members that are in order finds the last one of a name. -/
theorem lastMember?_of_ordered (ordered : Keyed.Ordered members) :
    lastMember? name members = Keyed.lookup name members := by
  refine Option.ext fun child => ?_
  rw [lastMember?_eq_some_iff (Keyed.nodup_keys ordered), Keyed.lookup_eq_some_iff ordered]

/-! ## Values -/

theorem valueMembers_eq_map (members : List (String × Json)) :
    valueMembers members = members.map fun member => (member.1, member.2.value) := by
  induction members with
  | nil => rfl
  | cons member rest ih => rw [valueMembers, ih, List.map_cons]

theorem children_value (document : Json) :
    document.value.children =
      Keyed.insertAll (document.children.map fun member => (member.1, member.2.value)) [] := by
  cases document with
  | object members => rw [value, children, children, valueMembers_eq_map]
  | null => rfl
  | bool b => rfl
  | number n => rfl
  | string s => rfl
  | array items => rfl

mutual

/-- The value of a document has the names of every object in order. -/
theorem tidy_value (document : Json) : document.value.Tidy :=
  match document with
  | .object members => by
    rw [value]
    refine .object (Keyed.ordered_insertAll _ Keyed.ordered_nil) fun member hmember => ?_
    rcases Keyed.mem_insertAll hmember with hmember | hmember
    · exact tidy_valueMembers members member hmember
    · cases hmember
  | .null => .childless rfl
  | .bool _ => .childless rfl
  | .number _ => .childless rfl
  | .string _ => .childless rfl
  | .array _ => .childless rfl

theorem tidy_valueMembers (members : List (String × Json)) :
    ∀ member ∈ valueMembers members, member.2.Tidy :=
  match members with
  | [] => nofun
  | (name, item) :: rest => by
    rw [valueMembers]
    exact List.forall_mem_cons.mpr ⟨tidy_value item, tidy_valueMembers rest⟩

end

theorem at?_value (document : Json) (way : List String) :
    document.value.at? way = (document.at? way).map value := by
  induction way generalizing document with
  | nil => rfl
  | cons name rest ih =>
    have last : lastMember? name document.value.children =
        (lastMember? name document.children).map value := by
      rw [lastMember?_of_ordered (tidy_value document).ordered_children, children_value,
        lookup_insertAll, lastMember?_map]
    rw [at?, at?, last]
    cases lastMember? name document.children with
    | none => rfl
    | some child => exact ih child

theorem scalarText?_value (document : Json) :
    Property.scalarText? document.value = Property.scalarText? document := by
  cases document with
  | object members => rfl
  | null => rfl
  | bool b => rfl
  | number n => rfl
  | string s => rfl
  | array items => rfl

theorem filterMap_scalarText?_valueItems (items : List Json) :
    (valueItems items).filterMap Property.scalarText? = items.filterMap Property.scalarText? := by
  induction items with
  | nil => rfl
  | cons item rest ih =>
    rw [valueItems, List.filterMap_cons, List.filterMap_cons, scalarText?_value, ih]

theorem leafText?_value (document : Json) : document.value.leafText? = document.leafText? := by
  cases document with
  | array items => rw [value, leafText?, leafText?, filterMap_scalarText?_valueItems]
  | object members => rfl
  | null => rfl
  | bool b => rfl
  | number n => rfl
  | string s => rfl

/-- Taking the value of a document leaves the texts where they are. -/
theorem textAt?_value (document : Json) (way : List String) :
    document.value.textAt? way = document.textAt? way := by
  rw [textAt?, textAt?, at?_value]
  cases document.at? way with
  | none => rfl
  | some found => exact leafText?_value found

end Json

/-! ## The walk -/

namespace Property

variable {document : Json} {way : List String} {text : String}

/-- A leaf is below a name just if the name comes first on its way. -/
theorem mem_under_iff {name : String} {leaves : List (List String × String)}
    {leaf : List String × String} :
    leaf ∈ under name leaves ↔ ∃ rest, leaf.1 = name :: rest ∧ (rest, leaf.2) ∈ leaves := by
  rw [under, List.mem_map]
  constructor
  · rintro ⟨below, hbelow, rfl⟩
    exact ⟨below.1, rfl, hbelow⟩
  · rintro ⟨rest, hway, hrest⟩
    exact ⟨_, hrest, Prod.ext hway.symm rfl⟩

theorem mem_leafPaths_nil_iff :
    ([], text) ∈ leafPaths document ↔ document.leafText? = some text := by
  cases document with
  | object members =>
    rw [leafPaths, memberLeafPaths_eq_flatMap, List.mem_flatMap]
    simp [mem_under_iff, Json.leafText?]
  | null => simp [leafPaths, Json.leafText?, scalarText?]
  | bool b => simp [leafPaths, Json.leafText?, scalarText?, eq_comm]
  | number n => simp [leafPaths, Json.leafText?, scalarText?, eq_comm]
  | string s => simp [leafPaths, Json.leafText?, scalarText?, eq_comm]
  | array items => simp [leafPaths, Json.leafText?, eq_comm]

theorem mem_leafPaths_cons_iff {name : String} :
    (name :: way, text) ∈ leafPaths document ↔
      ∃ child, (name, child) ∈ document.children ∧ (way, text) ∈ leafPaths child := by
  cases document with
  | object members =>
    rw [leafPaths, memberLeafPaths_eq_flatMap, List.mem_flatMap]
    simp only [mem_under_iff, List.cons.injEq]
    constructor
    · rintro ⟨member, hmember, rest, ⟨rfl, rfl⟩, below⟩
      exact ⟨member.2, hmember, below⟩
    · rintro ⟨child, hchild, below⟩
      exact ⟨_, hchild, _, ⟨rfl, rfl⟩, below⟩
  | null => simp [leafPaths, Json.children]
  | bool b => simp [leafPaths, Json.children]
  | number n => simp [leafPaths, Json.children]
  | string s => simp [leafPaths, Json.children]
  | array items => simp [leafPaths, Json.children]

/-- A walk comes by the texts at the ends of all ways. -/
theorem mem_leafPaths_iff (once : document.NamesOnce) :
    (way, text) ∈ leafPaths document ↔ document.textAt? way = some text := by
  induction way generalizing document with
  | nil => exact mem_leafPaths_nil_iff
  | cons name rest ih =>
    rw [mem_leafPaths_cons_iff, Json.textAt?, Json.at?, Option.bind_assoc, Option.bind_eq_some_iff]
    refine exists_congr fun child => ?_
    rw [Json.lastMember?_eq_some_iff once.nodup_children]
    exact and_congr_right fun hchild => ih (once.of_mem_children hchild)

/-- Where the names are in order, a walk comes by the leaves in the order of their ways. -/
theorem pairwise_leafPaths (tidy : document.Tidy) :
    (leafPaths document).Pairwise fun leaf later => leaf.1 < later.1 := by
  induction tidy with
  | @object members ordered _ ih =>
    rw [leafPaths, memberLeafPaths_eq_flatMap, List.pairwise_flatMap]
    constructor
    · intro member hmember
      refine List.pairwise_map.mpr ((ih member hmember).imp fun hlt => ?_)
      exact List.cons_lt_cons_iff.mpr (.inr ⟨rfl, hlt⟩)
    · refine ordered.imp fun {member other} hlt leaf hleaf later hlater => ?_
      obtain ⟨_, hway, -⟩ := mem_under_iff.mp hleaf
      obtain ⟨_, hother, -⟩ := mem_under_iff.mp hlater
      rw [hway, hother]
      exact List.cons_lt_cons_iff.mpr (.inl hlt)
  | @childless document none =>
    cases document with
    | object members =>
      obtain rfl : members = [] := none
      exact .nil
    | null => exact .nil
    | bool b => exact List.pairwise_singleton _ _
    | number n => exact List.pairwise_singleton _ _
    | string s => exact List.pairwise_singleton _ _
    | array items => exact List.pairwise_singleton _ _

end Property

end BrokerWiring
