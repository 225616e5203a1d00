import Mathlib.Data.List.Perm.Basic
import BrokerWiring.Proofs.Property.Document

/-!
# Documents from their leaves

A document can be built text by text, each at the end of a way of names (`Json.ofLeaves`). Where no
way leads through the end of another one, nothing is written over, so the leaves of the document are
just what was put into it, in the order of the walk (`leafPaths_ofLeaves`). A flat object is the
case of ways with one name (`leafPaths_flatObject`).
-/

namespace BrokerWiring

open Property (leafPaths memberLeafPaths memberLeafPaths_eq_flatMap under)

/-- Neither of two ways leads through the end of the other. -/
def Apart (way other : List String) : Prop := ¬way <+: other ∧ ¬other <+: way

theorem Apart.symm {way other : List String} (h : Apart way other) : Apart other way := ⟨h.2, h.1⟩

theorem Apart.of_cons {name : String} {way other : List String}
    (h : Apart (name :: way) (name :: other)) : Apart way other :=
  ⟨fun through => h.1 ((List.prefix_cons_inj name).mpr through),
    fun through => h.2 ((List.prefix_cons_inj name).mpr through)⟩

namespace Json

/-! ## Building -/

/-- The members of an object; any other tree has none. -/
def children : Json → List (String × Json)
  | .object members => members
  | _ => []

/-- Puts a text at the end of a way; objects are made where there are none. -/
def setAt (text : String) : List String → Json → Json
  | [], _ => .string text
  | name :: rest, document =>
    let child := (Keyed.lookup name document.children).getD .null
    .object (Keyed.insert name (setAt text rest child) document.children)

/-- The object with a text at the end of each way. -/
def ofLeaves (leaves : List (List String × String)) : Json :=
  leaves.foldl (fun document leaf => document.setAt leaf.2 leaf.1) (.object [])

/-- The object whose members are pairs of a name and a text. -/
def flatObject (pairs : List (String × String)) : Json :=
  .object (Keyed.insertAll (pairs.map fun pair => (pair.1, .string pair.2)) [])

/-- In every object on the way to a leaf the names are in order. -/
inductive Tidy : Json → Prop
  | object {members : List (String × Json)} : Keyed.Ordered members →
      (∀ member ∈ members, Tidy member.2) → Tidy (.object members)
  | childless {document : Json} : document.children = [] → Tidy document

namespace Tidy

variable {document : Json}

theorem ordered_children (h : document.Tidy) : Keyed.Ordered document.children := by
  cases h with
  | object ordered _ => exact ordered
  | childless none => exact none ▸ Keyed.ordered_nil

theorem of_mem_children (h : document.Tidy) {member : String × Json}
    (hmember : member ∈ document.children) : member.2.Tidy := by
  cases h with
  | object _ tidy => exact tidy member hmember
  | childless none =>
    rw [none] at hmember
    cases hmember

/-- What stands at a name is tidy, also if nothing does. -/
theorem child (h : document.Tidy) (name : String) :
    ((Keyed.lookup name document.children).getD .null).Tidy := by
  cases hlookup : Keyed.lookup name document.children with
  | none => exact .childless rfl
  | some child =>
    exact h.of_mem_children ((Keyed.lookup_eq_some_iff h.ordered_children).mp hlookup)

theorem setAt (h : document.Tidy) (text : String) (way : List String) :
    (document.setAt text way).Tidy := by
  induction way generalizing document with
  | nil => exact .childless rfl
  | cons name rest ih =>
    refine .object (Keyed.ordered_insert _ _ h.ordered_children) fun member hmember => ?_
    rcases Keyed.mem_insert hmember with rfl | hmember
    · exact ih (h.child name)
    · exact h.of_mem_children hmember

end Tidy

end Json

/-! ## Leaves of what was built -/

namespace Property

variable {document : Json}

/-- A document without a text of its own has the leaves of its members. -/
theorem leafPaths_eq_memberLeafPaths (h : ∀ leaf ∈ leafPaths document, leaf.1 ≠ []) :
    leafPaths document = memberLeafPaths document.children := by
  cases document with
  | null => rfl
  | object members => rfl
  | array items => exact absurd rfl (h _ (List.mem_singleton_self _))
  | string s => exact absurd rfl (h _ (List.mem_singleton_self _))
  | bool b => exact absurd rfl (h _ (List.mem_singleton_self _))
  | number n => exact absurd rfl (h _ (List.mem_singleton_self _))

/-- The leaves of a document with nothing above them are those below one name and the others. -/
theorem exists_perm_leafPaths (tidy : document.Tidy) (name : String)
    (hbelow : ∀ leaf ∈ leafPaths document, leaf.1 ≠ []) :
    ∃ others,
      (leafPaths document).Perm
        (under name (leafPaths ((Keyed.lookup name document.children).getD .null)) ++ others) ∧
      ∀ child, (memberLeafPaths (Keyed.insert name child document.children)).Perm
        (under name (leafPaths child) ++ others) := by
  obtain ⟨others, hold, hnew⟩ := Keyed.exists_perm_insert name tidy.ordered_children
  refine ⟨memberLeafPaths others, ?_, fun child => ?_⟩
  · have parts := hold.flatMap_right fun member => under member.1 (leafPaths member.2)
    rw [leafPaths_eq_memberLeafPaths hbelow, memberLeafPaths_eq_flatMap]
    cases hlookup : Keyed.lookup name document.children with
    | none =>
      rw [hlookup] at parts
      rw [memberLeafPaths_eq_flatMap]
      exact parts
    | some child =>
      rw [hlookup] at parts
      rw [memberLeafPaths_eq_flatMap]
      exact parts
  · have parts := (hnew child).flatMap_right fun member => under member.1 (leafPaths member.2)
    rw [memberLeafPaths_eq_flatMap, memberLeafPaths_eq_flatMap]
    exact parts

/-- Putting a text at the end of a way that is apart from all others adds one leaf. -/
theorem leafPaths_setAt (tidy : document.Tidy) (text : String) {way : List String}
    (apart : ∀ leaf ∈ leafPaths document, Apart way leaf.1) :
    (leafPaths (document.setAt text way)).Perm ((way, text) :: leafPaths document) := by
  induction way generalizing document with
  | nil =>
    -- The empty way leads through the end of every other, so there is none.
    have bare : leafPaths document = [] :=
      List.eq_nil_iff_forall_not_mem.mpr fun leaf hleaf => (apart leaf hleaf).1 List.nil_prefix
    rw [bare]
    exact .rfl
  | cons name rest ih =>
    have hbelow : ∀ leaf ∈ leafPaths document, leaf.1 ≠ [] := by
      intro leaf hleaf empty
      exact (apart leaf hleaf).2 (empty ▸ List.nil_prefix)
    obtain ⟨others, hold, hnew⟩ := exists_perm_leafPaths tidy name hbelow
    have inner : ∀ leaf ∈ leafPaths ((Keyed.lookup name document.children).getD .null),
        Apart rest leaf.1 := by
      intro leaf hleaf
      have below : (name :: leaf.1, leaf.2) ∈ leafPaths document :=
        hold.mem_iff.mpr (List.mem_append_left _ (List.mem_map_of_mem hleaf))
      exact (apart _ below).of_cons
    have changed := (ih (tidy.child name) inner).map fun leaf => (name :: leaf.1, leaf.2)
    exact ((hnew _).trans (changed.append_right others)).trans (hold.symm.cons _)

/-- What is built along ways that are apart adds its leaves to those of the document. -/
theorem leafPaths_foldl_setAt (tidy : document.Tidy) {leaves : List (List String × String)}
    (distinct : leaves.Pairwise fun leaf other => Apart leaf.1 other.1)
    (apart : ∀ leaf ∈ leaves, ∀ other ∈ leafPaths document, Apart leaf.1 other.1) :
    (leafPaths (leaves.foldl (fun document leaf => document.setAt leaf.2 leaf.1) document)).Perm
      (leaves ++ leafPaths document) := by
  induction leaves generalizing document with
  | nil => exact .rfl
  | cons leaf rest ih =>
    obtain ⟨hleaf, hrest⟩ := List.pairwise_cons.mp distinct
    have added := leafPaths_setAt tidy leaf.2 (apart leaf List.mem_cons_self)
    have still : ∀ next ∈ rest, ∀ other ∈ leafPaths (document.setAt leaf.2 leaf.1),
        Apart next.1 other.1 := by
      intro next hnext other hother
      rcases List.mem_cons.mp (added.mem_iff.mp hother) with rfl | hother
      · exact (hleaf next hnext).symm
      · exact apart next (List.mem_cons_of_mem _ hnext) other hother
    have built := ih (tidy.setAt leaf.2 leaf.1) hrest still
    exact (built.trans (added.append_left rest)).trans List.perm_middle

/-- The leaves of what is built along ways that are apart are what was put at their ends. -/
theorem leafPaths_ofLeaves {leaves : List (List String × String)}
    (distinct : leaves.Pairwise fun leaf other => Apart leaf.1 other.1) :
    (leafPaths (.ofLeaves leaves)).Perm leaves := by
  have childless : Json.Tidy (.object []) := .childless rfl
  have built := leafPaths_foldl_setAt childless distinct nofun
  rwa [leafPaths, memberLeafPaths, List.append_nil] at built

example : Json.ofLeaves [(["ssl", "store"], "ca"), (["host"], "mq"), (["ssl", "key"], "id")] =
    .object [("host", .string "mq"),
      ("ssl", .object [("key", .string "id"), ("store", .string "ca")])] := by
  rfl

/-- Members are set one after another. -/
theorem flatObject_eq_ofLeaves (pairs : List (String × String)) :
    Json.flatObject pairs = .ofLeaves (pairs.map fun pair => ([pair.1], pair.2)) := by
  have built (members : List (String × Json)) :
      Json.object (Keyed.insertAll (pairs.map fun pair => (pair.1, .string pair.2)) members) =
        (pairs.map fun pair => ([pair.1], pair.2)).foldl
          (fun document leaf => document.setAt leaf.2 leaf.1) (.object members) := by
    induction pairs generalizing members with
    | nil => rfl
    | cons pair rest ih => exact ih _
  exact built []

/-- A flat object with distinct names has its members for leaves. -/
theorem leafPaths_flatObject {pairs : List (String × String)} (distinct : (pairs.map (·.1)).Nodup) :
    (leafPaths (.flatObject pairs)).Perm (pairs.map fun pair => ([pair.1], pair.2)) := by
  rw [flatObject_eq_ofLeaves]
  refine leafPaths_ofLeaves (List.pairwise_map.mpr ((List.pairwise_map.mp distinct).imp ?_))
  intro pair other differ
  constructor
  · intro through
    exact differ (List.cons_prefix_cons.mp through).1
  · intro through
    exact differ (List.cons_prefix_cons.mp through).1.symm

end Property

end BrokerWiring
