import Mathlib.Data.List.Basic
import BrokerWiring.Proofs.Property.Key

/-!
# Segments of keys

A key is cut at its dots. Relaxing a key keeps them (`count_relaxed`) and may be done before or
behind the cuts (`splitOn_dot_relaxed`). So a scope can be taken off a key by the number of its
segments as well as by the characters of its canonical form (`ofList_behindDots`), in one step or in
several (`behindDots_add`).
-/

namespace BrokerWiring.Property

/-- The segments of a key. -/
def segments (key : String) : List String := (key.toList.splitOn '.').map String.ofList

/-- A key without its first `n` segments. -/
def dropSegments (n : Nat) (key : String) : String := ".".intercalate ((segments key).drop n)

/-- Segments with dots between them are the text that they were cut from. -/
theorem intercalate_splitOn_dot (cs : List Char) :
    ".".intercalate ((cs.splitOn '.').map String.ofList) = String.ofList cs := by
  have back : String.toList ∘ String.ofList = id := funext fun _ => String.toList_ofList
  rw [← String.toList_inj, String.toList_intercalate, List.map_map, back, List.map_id,
    String.toList_ofList, String.toList_ofList]
  exact List.intercalate_splitOn '.'

theorem intercalate_segments (key : String) : ".".intercalate (segments key) = key := by
  rw [segments, intercalate_splitOn_dot, String.ofList_toList]

/-- What has no dot in it stands in front of the first piece. -/
theorem splitOn_dot_append {front : List Char} (absent : '.' ∉ front) (cs : List Char) :
    (front ++ cs).splitOn '.' = (cs.splitOn '.').modifyHead (front ++ ·) := by
  induction front with
  | nil => exact (congrFun List.modifyHead_id _).symm
  | cons c front ih =>
    obtain ⟨hc, hfront⟩ := not_or.mp (List.mem_cons.not.mp absent)
    have other : ¬(c == '.') = true := by simpa using Ne.symm hc
    rw [List.cons_append, List.splitOn_cons_eq_if_modifyHead, if_neg other, ih hfront,
      List.modifyHead_modifyHead]
    rfl

/-! ## The number of segments -/

theorem length_splitOn_dot (cs : List Char) : (cs.splitOn '.').length = cs.count '.' + 1 := by
  induction cs with
  | nil => rfl
  | cons c cs ih =>
    rw [List.splitOn_cons_eq_if_modifyHead]
    by_cases hdot : c = '.'
    · subst hdot
      rw [if_pos (beq_self_eq_true _), List.length_cons, ih, List.count_cons_self]
    · rw [if_neg (by simpa using hdot), List.length_modifyHead, ih, List.count_cons_of_ne hdot]

theorem length_segments (key : String) : (segments key).length = key.toList.count '.' + 1 := by
  rw [segments, List.length_map, length_splitOn_dot]

/-- Relaxing a key keeps its dots. -/
theorem count_relaxed (cs : List Char) : (relaxed cs).count '.' = cs.count '.' := by
  induction cs with
  | nil => rfl
  | cons c cs ih =>
    by_cases hdot : c = '.'
    · subst hdot
      rw [relaxed_cons_dot, List.count_cons_self, List.count_cons_self, ih]
    · have absent : '.' ∉ relaxedChar c := fun h => hdot (dot_mem_relaxedChar.mp h)
      rw [relaxed_cons, List.count_append, List.count_eq_zero_of_not_mem absent, Nat.zero_add, ih,
        List.count_cons_of_ne hdot]

/-- Cutting at the dots and relaxing may change places. -/
theorem splitOn_dot_relaxed (cs : List Char) :
    (relaxed cs).splitOn '.' = (cs.splitOn '.').map relaxed := by
  induction cs with
  | nil => rfl
  | cons c cs ih =>
    rw [List.splitOn_cons_eq_if_modifyHead]
    by_cases hdot : c = '.'
    · subst hdot
      rw [relaxed_cons_dot, List.splitOn_cons_eq_if_modifyHead, if_pos (beq_self_eq_true _),
        if_pos (beq_self_eq_true _), List.map_cons, ih]
      rfl
    · have absent : '.' ∉ relaxedChar c := fun h => hdot (dot_mem_relaxedChar.mp h)
      rw [relaxed_cons, splitOn_dot_append absent, ih, if_neg (by simpa using hdot)]
      obtain ⟨first, rest, hpieces⟩ := List.exists_cons_of_ne_nil (List.splitOn_ne_nil '.' cs)
      rw [hpieces]
      simp [relaxed_cons]

/-- A text can be cut at any of its dots. -/
theorem exists_eq_append_dot {n : Nat} {cs : List Char} (h : n < cs.count '.') :
    ∃ lead rest, cs = lead ++ '.' :: rest ∧ lead.count '.' = n := by
  induction cs generalizing n with
  | nil => cases h
  | cons c cs ih =>
    by_cases hdot : c = '.'
    · subst hdot
      rw [List.count_cons_self] at h
      cases n with
      | zero => exact ⟨[], cs, rfl, rfl⟩
      | succ n =>
        obtain ⟨lead, rest, rfl, hlead⟩ := ih (Nat.lt_of_succ_lt_succ h)
        exact ⟨'.' :: lead, rest, rfl, by rw [List.count_cons_self, hlead]⟩
    · rw [List.count_cons_of_ne hdot] at h
      obtain ⟨lead, rest, rfl, hlead⟩ := ih h
      exact ⟨c :: lead, rest, rfl, by rw [List.count_cons_of_ne hdot, hlead]⟩

/-- Where there are dots enough, what is behind them is what is left without the segments in front
of them. -/
theorem ofList_behindDots {n : Nat} {key : String} (h : n < key.toList.count '.') :
    String.ofList (behindDots (n + 1) key.toList) = dropSegments (n + 1) key := by
  obtain ⟨lead, rest, hkey, rfl⟩ := exists_eq_append_dot h
  have cut : (segments key).drop (lead.count '.' + 1) = (rest.splitOn '.').map String.ofList := by
    rw [segments, hkey, List.splitOn_append_cons_self, List.map_append]
    refine List.drop_left' ?_
    rw [List.length_map, length_splitOn_dot]
  rw [dropSegments, cut, hkey, behindDots_append, intercalate_splitOn_dot]

/-! ## Two scopes in a row -/

theorem behindDots_of_dropWhile {cs : List Char} (h : cs.dropWhile (· != '.') = []) (n : Nat) :
    behindDots n cs = cs := by
  cases n with
  | zero => rfl
  | succ n => rw [behindDots, h]

theorem behindDots_add (m n : Nat) (cs : List Char) :
    behindDots (m + n) cs = behindDots n (behindDots m cs) := by
  induction m generalizing cs with
  | zero => rw [Nat.zero_add, behindDots]
  | succ m ih =>
    rw [Nat.succ_add, behindDots, behindDots]
    cases hrest : cs.dropWhile (· != '.') with
    | nil => exact (behindDots_of_dropWhile hrest n).symm
    | cons dot rest => exact ih rest

end BrokerWiring.Property
