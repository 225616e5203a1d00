import Mathlib.Data.List.Forall2
import BrokerWiring.Proofs.Text.Trimming
import BrokerWiring.Settings.Binding

/-!
# What the forms of values read back

The decimal digits of a number that fits, a flag in any mixture of letter cases and the word of an
acknowledge mode have the form that their keys ask for, and they are read as what was written.
-/

namespace BrokerWiring

namespace Text

/-! ## Words -/

/-- A character is a given letter, small or capital. -/
def IsLetter (c letter : Char) : Prop := c = letter ∨ c = letter.toUpper

instance : DecidableRel IsLetter := fun c letter =>
  inferInstanceAs (Decidable (c = letter ∨ c = letter.toUpper))

/-- A text is a given word, in any mixture of letter cases. -/
def IsWord (text word : String) : Prop := List.Forall₂ IsLetter text.toList word.toList

instance : DecidableRel IsWord := fun text word =>
  inferInstanceAs (Decidable (List.Forall₂ IsLetter text.toList word.toList))

/-- What a letter of `true` or `false` needs to be read, in either case. -/
theorem IsLetter.readable {c letter : Char} (h : IsLetter c letter)
    (hletter : letter ∈ "truefals".toList) :
    isWhiteSpace c = false ∧ c ≠ 'Σ' ∧ lowerChar c = [letter] := by
  have checked : "truefals".toList.all (fun letter => [letter, letter.toUpper].all fun c =>
      !isWhiteSpace c && c != 'Σ' && lowerChar c == [letter]) = true := by decide +kernel
  have hc := List.all_eq_true.mp (List.all_eq_true.mp checked letter hletter) c
    (by simpa [IsLetter] using h)
  simpa [and_assoc] using hc

/-- Letters of `true` and `false` in either case have no white space among them, and lowering them
gives the small ones, whatever comes before. -/
theorem lowerBehind_of_isLetter {cs letters : List Char} (h : List.Forall₂ IsLetter cs letters)
    (hletters : letters ⊆ "truefals".toList) :
    (∀ c ∈ cs, isWhiteSpace c = false) ∧ ∀ before, lowerBehind before cs = letters := by
  induction h with
  | nil => exact ⟨nofun, fun _ => rfl⟩
  | cons hletter _ ih =>
    obtain ⟨first, others⟩ := List.cons_subset.mp hletters
    obtain ⟨solid, hsigma, hlower⟩ := hletter.readable first
    obtain ⟨rest, lowered⟩ := ih others
    refine ⟨List.forall_mem_cons.mpr ⟨solid, rest⟩, fun before => ?_⟩
    rw [lowerBehind, if_neg hsigma, hlower, lowered, List.singleton_append]

/-- A word made of letters of `true` and `false` is read in any letter case. -/
theorem IsWord.lowerText_trim {text word : String} (h : IsWord text word)
    (hword : word.toList ⊆ "truefals".toList) :
    lowerText (trim text) = word := by
  obtain ⟨solid, lowered⟩ := lowerBehind_of_isLetter h hword
  rw [trim_of_all solid, lowerText, lowered, String.ofList_toList]

end Text

namespace Settings

/-! ## Numbers -/

theorem isWhiteSpace_of_isDigit {c : Char} (h : c.isDigit = true) :
    Text.isWhiteSpace c = false := by
  obtain ⟨low, high⟩ : 48 ≤ c.toNat ∧ c.toNat ≤ 57 := Char.isDigit_iff_toNat.mp h
  simp [Text.isWhiteSpace]
  omega

theorem le_ofDigitChars (cs : List Char) (value : Nat) : value ≤ Nat.ofDigitChars 10 cs value := by
  induction cs generalizing value with
  | nil => exact Nat.le_refl _
  | cons c rest ih =>
    rw [Nat.ofDigitChars_cons]
    exact Nat.le_trans (by omega) (ih _)

/-- Digits are read as the number that they make up behind those that came before, if it fits. -/
theorem digitsWithin_of_le {bound : Nat} {cs : List Char} (hdigits : ∀ c ∈ cs, c.isDigit = true)
    {value : Nat} (hbound : Nat.ofDigitChars 10 cs value ≤ bound) :
    digitsWithin bound value cs = .ok (Nat.ofDigitChars 10 cs value) := by
  induction cs generalizing value with
  | nil => rfl
  | cons c rest ih =>
    have digit : '0' ≤ c ∧ c ≤ '9' := Char.isDigit_iff_toNat.mp (hdigits c List.mem_cons_self)
    have next : 10 * value + (c.toNat - '0'.toNat) = value * 10 + (c.toNat - 48) := by
      rw [Nat.mul_comm]
      rfl
    rw [Nat.ofDigitChars_cons, next] at hbound ⊢
    -- What has been read so far is at most what it comes to in the end.
    have fits : ¬bound < value * 10 + (c.toNat - 48) :=
      Nat.not_lt.mpr (Nat.le_trans (le_ofDigitChars rest _) hbound)
    rw [digitsWithin, if_pos digit]
    simp only [if_neg fits]
    exact ih (fun c hc => hdigits c (List.mem_cons_of_mem _ hc)) hbound

/-- A text of digits has no sign in front. -/
theorem numeralWithin_of_digits {bound : Nat} {cs : List Char}
    (hdigits : ∀ c ∈ cs, c.isDigit = true) (hcs : cs ≠ []) :
    numeralWithin bound cs = digitsWithin bound 0 cs := by
  cases cs with
  | nil => exact absurd rfl hcs
  | cons c rest =>
    have unsigned : c ≠ '+' := by
      rintro rfl
      exact absurd (hdigits '+' List.mem_cons_self) (by decide)
    unfold numeralWithin
    split <;> simp_all

/-- The decimal digits of a number that fits are read as that number. -/
theorem natForm_repr {bound n : Nat} (h : n ≤ bound) : natForm bound (Nat.repr n) = .ok n := by
  have hdigits : ∀ c ∈ (Nat.repr n).toList, c.isDigit = true := by
    rw [Nat.toList_repr]
    exact fun c hc => Nat.isDigit_of_mem_toDigits (by omega) (by omega) hc
  have solid : ∀ c ∈ (Nat.repr n).toList, Text.isWhiteSpace c = false := fun c hc =>
    isWhiteSpace_of_isDigit (hdigits c hc)
  have hnumber : Nat.ofDigitChars 10 (Nat.repr n).toList 0 = n := by
    rw [Nat.toList_repr, Nat.ofDigitChars_ten_toDigits]
  have written : (Nat.repr n).toList ≠ [] := by
    rw [Nat.toList_repr]
    exact Nat.toDigits_ne_nil
  rw [natForm, Text.trim_of_all solid, numeralWithin_of_digits hdigits written,
    digitsWithin_of_le hdigits (hnumber.symm ▸ h), hnumber]
  rfl

theorem shortForm_repr (n : UInt16) : shortForm (Nat.repr n.toNat) = .ok n := by
  have fits : n.toNat ≤ UInt16.size - 1 := Nat.le_pred_of_lt n.toNat_lt
  rw [shortForm, natForm_repr fits]
  simp [Except.map]

theorem longForm_repr (n : UInt32) : longForm (Nat.repr n.toNat) = .ok n := by
  have fits : n.toNat ≤ UInt32.size - 1 := Nat.le_pred_of_lt n.toNat_lt
  rw [longForm, natForm_repr fits]
  simp [Except.map]

/-! ## Flags and modes -/

theorem flagForm_of_isWord {text : String} {b : Bool}
    (h : Text.IsWord text (if b then "true" else "false")) : flagForm text = .ok b := by
  rw [flagForm]
  cases b with
  | true => simp [h.lowerText_trim (by decide)]
  | false => simp [h.lowerText_trim (by decide)]

theorem modeForm_word (mode : AcknowledgeMode) : modeForm mode.word = .ok mode := by
  cases mode <;> decide +kernel

end Settings

end BrokerWiring
