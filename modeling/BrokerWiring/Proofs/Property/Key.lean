import Mathlib.Data.List.Basic
import Mathlib.Data.List.TakeWhile
import BrokerWiring.Property.Key
import BrokerWiring.Proofs.Text.LowerCase

/-!
# Segments of relaxed keys

Relaxing a key works on each character alone and keeps the dots, so it may be done before a key is
cut at its dots or behind that (`relaxed_behindDots`): the two ways in which a scope is taken off
a property, by the characters of its canonical key and by the dots of its spelling, come to the same
key.
-/

namespace BrokerWiring.Property

theorem dot_mem_relaxedChar {c : Char} : '.' ∈ relaxedChar c ↔ c = '.' := by
  unfold relaxedChar
  split
  · rename_i dropped
    constructor
    · intro h
      cases h
    · rintro rfl
      exact absurd dropped (by decide)
  · exact Text.mem_lowerChar_iff (by decide) (by decide)

theorem relaxed_cons (c : Char) (cs : List Char) :
    relaxed (c :: cs) = relaxedChar c ++ relaxed cs :=
  List.flatMap_cons

theorem relaxed_cons_dot (cs : List Char) : relaxed ('.' :: cs) = '.' :: relaxed cs := by
  rw [relaxed_cons, relaxedChar, if_neg (by decide)]
  rfl

/-- Lowering a character first does not change what it counts for. -/
theorem relaxed_lowerChar (c : Char) : relaxed (Text.lowerChar c) = relaxedChar c := by
  have image_relaxed {image : Char} (h : image ∈ Text.lowerChar c) (kept : ¬(c = '-' ∨ c = '_')) :
      relaxedChar image = [image] := by
    have apart : ¬(image = '-' ∨ image = '_') := by
      rintro (rfl | rfl)
      · exact kept (.inl ((Text.mem_lowerChar_iff (by decide) (by decide)).mp h))
      · exact kept (.inr ((Text.mem_lowerChar_iff (by decide) (by decide)).mp h))
    rw [relaxedChar, if_neg apart, Text.lowerChar_of_mem h]
  by_cases dropped : c = '-' ∨ c = '_'
  · rcases dropped with rfl | rfl <;> decide
  · rw [relaxed, List.flatMap_congr fun image h => image_relaxed h dropped, List.flatMap_singleton',
      relaxedChar, if_neg dropped]

/-- What was relaxed stays as it is. -/
theorem relaxed_relaxed (cs : List Char) : relaxed (relaxed cs) = relaxed cs := by
  have image (c : Char) : relaxed (relaxedChar c) = relaxedChar c := by
    by_cases dropped : c = '-' ∨ c = '_'
    · rw [relaxedChar, if_pos dropped]
      rfl
    · rw [relaxedChar, if_neg dropped, relaxed_lowerChar, relaxedChar, if_neg dropped]
  rw [relaxed, relaxed, List.flatMap_assoc]
  exact List.flatMap_congr fun c _ => image c

/-- What stands in front of the first dot is relaxed on its own. -/
theorem dropWhile_relaxed (cs : List Char) :
    (relaxed cs).dropWhile (· != '.') = relaxed (cs.dropWhile (· != '.')) := by
  induction cs with
  | nil => rfl
  | cons c cs ih =>
    by_cases hdot : c = '.'
    · subst hdot
      rw [relaxed_cons_dot]
      exact (relaxed_cons_dot cs).symm
    · have passed : ∀ image ∈ relaxedChar c, (image != '.') = true := by
        intro image himage
        rw [bne_iff_ne]
        rintro rfl
        exact hdot (dot_mem_relaxedChar.mp himage)
      have skip : (c :: cs).dropWhile (· != '.') = cs.dropWhile (· != '.') := by simp [hdot]
      rw [relaxed_cons, List.dropWhile_append_of_pos passed, ih, skip]

theorem behindDots_cons_dot (n : Nat) (cs : List Char) :
    behindDots (n + 1) ('.' :: cs) = behindDots n cs := rfl

/-- Other characters do not count, as long as a dot comes behind them. -/
theorem behindDots_cons_of_ne {c : Char} {cs : List Char} (n : Nat) (hc : c ≠ '.')
    (hdot : '.' ∈ cs) : behindDots (n + 1) (c :: cs) = behindDots (n + 1) cs := by
  have skip : (c :: cs).dropWhile (· != '.') = cs.dropWhile (· != '.') := by simp [hc]
  have met : cs.dropWhile (· != '.') ≠ [] := by
    rw [ne_eq, List.dropWhile_eq_nil_iff]
    exact fun none => absurd (none '.' hdot) (by decide)
  rw [behindDots, behindDots, skip]
  cases hrest : cs.dropWhile (· != '.') with
  | nil => exact absurd hrest met
  | cons dot rest => rfl

/-- Cutting a key at its dots and relaxing it may change places. -/
theorem relaxed_behindDots (n : Nat) (cs : List Char) :
    relaxed (behindDots n cs) = behindDots n (relaxed cs) := by
  induction n generalizing cs with
  | zero => rfl
  | succ n ih =>
    rw [behindDots, behindDots, dropWhile_relaxed]
    -- Behind the first dot, if there is one, both go on with what is left.
    cases hrest : cs.dropWhile (· != '.') with
    | nil => rfl
    | cons dot rest =>
      obtain rfl : dot = '.' := by simpa [hrest] using List.head?_dropWhile_not (· != '.') cs
      rw [relaxed_cons_dot]
      exact ih rest

/-- What stands behind a scope is behind as many dots as the scope has, and one more. -/
theorem behindDots_append (lead rest : List Char) :
    behindDots (lead.count '.' + 1) (lead ++ '.' :: rest) = rest := by
  induction lead with
  | nil => rfl
  | cons c lead ih =>
    by_cases hdot : c = '.'
    · subst hdot
      rw [List.count_cons_self, List.cons_append, behindDots_cons_dot, ih]
    · have hrest : '.' ∈ lead ++ '.' :: rest := by simp
      rw [List.count_cons_of_ne hdot, List.cons_append, behindDots_cons_of_ne _ hdot hrest, ih]

/-! ## Canonical keys -/

theorem toList_canonicalKey (key : String) :
    (canonicalKey key).toList = relaxed key.toList := String.toList_ofList

/-- A key below a scope has the canonical forms of both with the dot between them. -/
theorem toList_canonicalKey_below (scope key : String) :
    (canonicalKey (scope ++ "." ++ key)).toList =
      (canonicalKey scope).toList ++ '.' :: (canonicalKey key).toList := by
  simp [toList_canonicalKey, relaxed_append, relaxed_cons_dot]

end BrokerWiring.Property
