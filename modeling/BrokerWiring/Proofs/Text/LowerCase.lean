import BrokerWiring.Text.LowerCase

/-!
# Lower case keeps punctuation apart

Lowering a character gives letters, or the character itself: an image that is no lower-case letter
is its own origin (`eq_of_mem_lowerChar`). So no dot, hyphen or underscore comes out of a character
that is none (`mem_lowerChar_iff`). And what was lowered once stays as it is (`lowerChar_of_mem`).
-/

namespace BrokerWiring.Text

/-! ## The tables -/

/-- The images of a run are code points of characters, behind the capital letters of ASCII and the
signs that follow them. -/
def CaseRun.Sound (image : Nat → Nat) (run : CaseRun) : Prop :=
  0x60 < image run.first ∧
    (image run.last < 0xD800 ∨ 0xDFFF < image run.first ∧ image run.last < 0x110000)

instance (image : Nat → Nat) (run : CaseRun) : Decidable (run.Sound image) :=
  inferInstanceAs (Decidable (_ ∧ _))

theorem sound_risingRuns : ∀ run ∈ risingRuns, run.Sound (· + run.distance) := by decide +kernel

theorem sound_fallingRuns : ∀ run ∈ fallingRuns, run.Sound (· - run.distance) := by decide +kernel

/-- Where the images of a run keep the order of code points, they all are sound. -/
theorem CaseRun.Sound.of_covers {image : Nat → Nat} {run : CaseRun} {n : Nat}
    (hsound : run.Sound image) (monotone : ∀ a b, a ≤ b → image a ≤ image b)
    (hcovers : run.covers n = true) : 0x60 < image n ∧ (image n).isValidChar := by
  simp only [covers, Bool.and_eq_true, decide_eq_true_eq] at hcovers
  have hfirst := monotone _ _ hcovers.1.1
  have hlast := monotone _ _ hcovers.1.2
  simp only [Sound] at hsound
  simp only [Nat.isValidChar]
  omega

/-- Beyond ASCII a code point of a character is lowered to one, and never to a capital letter of
ASCII or a sign. -/
theorem lowerCode_sound {n : Nat} (valid : n.isValidChar) (beyond : 0x80 ≤ n) :
    0x60 < lowerCode n ∧ (lowerCode n).isValidChar := by
  unfold lowerCode
  split
  · rename_i run hrun
    have hcovers : run.covers n = true := by simpa using List.find?_some hrun
    have hsound := sound_risingRuns run (List.mem_of_find?_eq_some hrun)
    exact hsound.of_covers (fun a b h => by omega) hcovers
  · split
    · rename_i run hrun
      have hcovers : run.covers n = true := by simpa using List.find?_some hrun
      have hsound := sound_fallingRuns run (List.mem_of_find?_eq_some hrun)
      exact hsound.of_covers (fun a b h => by omega) hcovers
    · exact ⟨by omega, valid⟩

/-! ## Characters -/

theorem toNat_ofNat_of_valid {n : Nat} (valid : n.isValidChar) : (Char.ofNat n).toNat = n := by
  rw [Char.ofNat, dif_pos valid]
  rfl

/-- What lowering gives is a character behind the capitals of ASCII, or the one that was lowered. -/
theorem eq_of_mem_lowerChar {c image : Char} (h : image ∈ lowerChar c) (low : image.toNat ≤ 0x60) :
    image = c := by
  unfold lowerChar at h
  split at h
  · rename_i ascii
    split at h
    · rename_i capital
      rw [List.mem_singleton] at h
      have bounds : 65 ≤ c.toNat ∧ c.toNat ≤ 90 := capital
      have valid : (c.toNat + 32).isValidChar := by
        simp only [Nat.isValidChar]
        omega
      rw [h, toNat_ofNat_of_valid valid] at low
      omega
    · exact List.mem_singleton.mp h
  · rename_i beyond
    split at h
    · -- The letter i and the dot above it.
      rcases List.mem_cons.mp h with rfl | h
      · exact absurd low (by decide)
      · rw [List.mem_singleton.mp h] at low
        exact absurd low (by decide)
    · have sound : 0x60 < lowerCode c.toNat ∧ (lowerCode c.toNat).isValidChar :=
        lowerCode_sound c.valid (Nat.le_of_not_lt beyond)
      rw [List.mem_singleton.mp h, toNat_ofNat_of_valid sound.2] at low
      exact absurd sound.1 (Nat.not_lt_of_le low)

/-- A sign of ASCII comes out of itself alone. -/
theorem mem_lowerChar_iff {c sign : Char} (h : lowerChar sign = [sign]) (low : sign.toNat ≤ 0x60) :
    sign ∈ lowerChar c ↔ c = sign := by
  constructor
  · intro hmem
    exact (eq_of_mem_lowerChar hmem low).symm
  · rintro rfl
    rw [h]
    exact List.mem_singleton.mpr rfl

/-! ## Lowering twice -/

/-- The images of `run`, counted from `start` on, are not covered by `other`: they lie on one side
of it, or between the code points of which it covers every second. -/
def CaseRun.misses (start : Nat) (run other : CaseRun) : Bool :=
  (start + (run.last - run.first)).blt other.first || other.last.blt start ||
    (other.step == 2 && (run.step == 2 || run.first == run.last) && (start + other.first) % 2 == 1)

/-- The runs of what lowering changes. Capital I with a dot above is a run of its own. -/
def changedRuns : List CaseRun := ⟨0x130, 0x130, 1, 0⟩ :: (risingRuns ++ fallingRuns)

theorem misses_risingRuns : (risingRuns.all fun run =>
    changedRuns.all (run.misses (run.first + run.distance))) = true := by decide +kernel

theorem misses_fallingRuns : (fallingRuns.all fun run =>
    changedRuns.all (run.misses (run.first - run.distance))) = true := by decide +kernel

theorem CaseRun.covers_eq_false {start n : Nat} {run other : CaseRun}
    (hmisses : run.misses start other = true) (hcovers : run.covers n = true) :
    other.covers (start + (n - run.first)) = false := by
  simp only [misses, Bool.or_eq_true, Bool.and_eq_true, beq_iff_eq, Nat.blt_eq] at hmisses
  simp only [covers, Bool.and_eq_true, decide_eq_true_eq, beq_iff_eq] at hcovers
  rw [Bool.eq_false_iff]
  intro covered
  simp only [covers, Bool.and_eq_true, decide_eq_true_eq, beq_iff_eq] at covered
  obtain ⟨⟨hfirst, hlast⟩, hstep⟩ := hcovers
  obtain ⟨⟨hfirst', hlast'⟩, hstep'⟩ := covered
  rcases hmisses with (before | behind) | ⟨⟨every, single⟩, odd⟩
  · omega
  · omega
  · -- The places of both runs are even or odd throughout, and not alike.
    rw [every] at hstep'
    rcases single with every' | single
    · rw [every'] at hstep
      omega
    · omega

/-- A code point is fixed if no run covers it. -/
def Fixed (n : Nat) : Prop := ∀ run ∈ changedRuns, run.covers n = false

theorem Fixed.lowerCode_eq {n : Nat} (h : Fixed n) : lowerCode n = n := by
  have rising : risingRuns.find? (·.covers n) = none := List.find?_eq_none.mpr fun run hrun => by
    simp [h run (List.mem_cons_of_mem _ (List.mem_append_left _ hrun))]
  have falling : fallingRuns.find? (·.covers n) = none := List.find?_eq_none.mpr fun run hrun => by
    simp [h run (List.mem_cons_of_mem _ (List.mem_append_right _ hrun))]
  rw [lowerCode, rising, falling]

theorem Fixed.of_misses {start n : Nat} {run : CaseRun}
    (hmisses : changedRuns.all (run.misses start) = true) (hcovers : run.covers n = true) :
    Fixed (start + (n - run.first)) := fun other hother =>
  CaseRun.covers_eq_false (List.all_eq_true.mp hmisses other hother) hcovers

/-- The image of a code point is fixed. -/
theorem fixed_lowerCode {n : Nat} (plain : n ≠ 0x130) : Fixed (lowerCode n) := by
  have first_le {run : CaseRun} (hcovers : run.covers n = true) : run.first ≤ n := by
    simp only [CaseRun.covers, Bool.and_eq_true, decide_eq_true_eq] at hcovers
    exact hcovers.1.1
  cases hrising : risingRuns.find? (·.covers n) with
  | some run =>
    have hcovers : run.covers n = true := by simpa using List.find?_some hrising
    have hmem := List.mem_of_find?_eq_some hrising
    have image : lowerCode n = run.first + run.distance + (n - run.first) := by
      have := first_le hcovers
      simp only [lowerCode, hrising]
      omega
    rw [image]
    exact .of_misses (List.all_eq_true.mp misses_risingRuns run hmem) hcovers
  | none =>
    cases hfalling : fallingRuns.find? (·.covers n) with
    | some run =>
      have hcovers : run.covers n = true := by simpa using List.find?_some hfalling
      have hmem := List.mem_of_find?_eq_some hfalling
      have image : lowerCode n = run.first - run.distance + (n - run.first) := by
        have := first_le hcovers
        have sound : 0x60 < run.first - run.distance := (sound_fallingRuns run hmem).1
        simp only [lowerCode, hrising, hfalling]
        omega
      rw [image]
      exact .of_misses (List.all_eq_true.mp misses_fallingRuns run hmem) hcovers
    | none =>
      simp only [lowerCode, hrising, hfalling]
      intro run hrun
      rcases List.mem_cons.mp hrun with rfl | hrun
      · simp only [CaseRun.covers, Bool.and_eq_false_iff, decide_eq_false_iff_not]
        omega
      · rcases List.mem_append.mp hrun with hrun | hrun
        · simpa using List.find?_eq_none.mp hrising run hrun
        · simpa using List.find?_eq_none.mp hfalling run hrun

/-- Behind the capital letters of ASCII, fixed code points are those of small characters. -/
theorem lowerChar_of_fixed {c : Char} (h : Fixed c.toNat) (behind : 0x60 < c.toNat) :
    lowerChar c = [c] := by
  rw [lowerChar]
  by_cases ascii : c.toNat < 0x80
  · have small : ¬('A' ≤ c ∧ c ≤ 'Z') := fun capital => by
      have : c.toNat ≤ 90 := capital.2
      omega
    rw [if_pos ascii, if_neg small]
  · have plain : c.toNat ≠ 0x130 := by
      intro dotted
      have := h _ List.mem_cons_self
      rw [dotted] at this
      exact absurd this (by decide)
    rw [if_neg ascii, if_neg plain, h.lowerCode_eq, Char.ofNat_toNat]

/-- A character that lowering gives is its own lower case. -/
theorem lowerChar_of_mem {c image : Char} (h : image ∈ lowerChar c) :
    lowerChar image = [image] := by
  unfold lowerChar at h
  split at h
  · rename_i ascii
    rw [List.mem_singleton] at h
    split at h
    · rename_i capital
      have bounds : 65 ≤ c.toNat ∧ c.toNat ≤ 90 := capital
      have checked : ∀ n ∈ List.range' 65 26,
          lowerChar (Char.ofNat (n + 32)) = [Char.ofNat (n + 32)] := by decide
      rw [h]
      exact checked c.toNat (List.mem_range'_1.mpr (by omega))
    · rename_i small
      rw [h, lowerChar, if_pos ascii, if_neg small]
  · rename_i beyond
    split at h
    · rcases List.mem_cons.mp h with rfl | h
      · decide
      · rw [List.mem_singleton.mp h]
        decide +kernel
    · rename_i plain
      have sound : 0x60 < lowerCode c.toNat ∧ (lowerCode c.toNat).isValidChar :=
        lowerCode_sound c.valid (Nat.le_of_not_lt beyond)
      have code : image.toNat = lowerCode c.toNat := by
        rw [List.mem_singleton.mp h, toNat_ofNat_of_valid sound.2]
      exact lowerChar_of_fixed (code ▸ fixed_lowerCode plain) (code ▸ sound.1)

end BrokerWiring.Text
