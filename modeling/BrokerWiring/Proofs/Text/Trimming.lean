import BrokerWiring.Text.WhiteSpace

/-!
# What trimming leaves

Trimming a text leaves the one text that stands in it between white space and neither begins nor
ends with any (`trim_eq_iff`). So there is nothing to trim off such a text: one that is made of
other characters (`trim_of_all`), or one that was trimmed before (`trim_trim`).
-/

namespace BrokerWiring.Text

/-- A core stands in a text with white space around it, and has none at its own ends. -/
structure TrimsTo (text core : String) : Prop where
  around : ∃ before behind : String, text = before ++ core ++ behind ∧
    (∀ c ∈ before.toList, isWhiteSpace c = true) ∧ ∀ c ∈ behind.toList, isWhiteSpace c = true
  begins : ∀ c ∈ core.toList.head?, isWhiteSpace c = false
  ends : ∀ c ∈ core.toList.getLast?, isWhiteSpace c = false

variable {cs front : List Char} {text core : String}

/-! ## One end -/

theorem trimStart_eq_self (h : ∀ c ∈ cs.head?, isWhiteSpace c = false) : trimStart cs = cs := by
  cases cs with
  | nil => rfl
  | cons c rest => rw [trimStart, List.dropWhile_cons_of_neg (by simp [h c rfl])]

theorem trimEnd_eq_self (h : ∀ c ∈ cs.getLast?, isWhiteSpace c = false) : trimEnd cs = cs := by
  have back : trimStart cs.reverse = cs.reverse :=
    trimStart_eq_self (by rwa [List.head?_reverse])
  show (trimStart cs.reverse).reverse = cs
  rw [back, List.reverse_reverse]

/-- White space in front is dropped together. -/
theorem trimStart_append (h : ∀ c ∈ front, isWhiteSpace c = true) (cs : List Char) :
    trimStart (front ++ cs) = trimStart cs := List.dropWhile_append_of_pos h

theorem trimEnd_append (cs : List Char) {behind : List Char}
    (h : ∀ c ∈ behind, isWhiteSpace c = true) : trimEnd (cs ++ behind) = trimEnd cs := by
  have swapped : trimStart (behind.reverse ++ cs.reverse) = trimStart cs.reverse :=
    trimStart_append (fun c hc => h c (List.mem_reverse.mp hc)) _
  show (trimStart (cs ++ behind).reverse).reverse = (trimStart cs.reverse).reverse
  rw [List.reverse_append, swapped]

/-- What is dropped in front is white space, and what is left does not begin with any. -/
theorem exists_trimStart (cs : List Char) :
    ∃ before, cs = before ++ trimStart cs ∧ (∀ c ∈ before, isWhiteSpace c = true) ∧
      ∀ c ∈ (trimStart cs).head?, isWhiteSpace c = false := by
  refine ⟨cs.takeWhile isWhiteSpace, List.takeWhile_append_dropWhile.symm,
    fun c hc => List.all_eq_true.mp List.all_takeWhile c hc, fun c hc => ?_⟩
  have met := List.head?_dropWhile_not isWhiteSpace cs
  rw [← trimStart, Option.mem_def.mp hc] at met
  exact met

theorem exists_trimEnd (cs : List Char) :
    ∃ behind, cs = trimEnd cs ++ behind ∧ (∀ c ∈ behind, isWhiteSpace c = true) ∧
      ∀ c ∈ (trimEnd cs).getLast?, isWhiteSpace c = false := by
  obtain ⟨behind, hsplit, hwhite, hsolid⟩ := exists_trimStart cs.reverse
  refine ⟨behind.reverse, ?_, fun c hc => hwhite c (List.mem_reverse.mp hc), ?_⟩
  · rw [trimEnd, ← List.reverse_append, ← trimStart, ← hsplit, List.reverse_reverse]
  · rw [trimEnd, List.getLast?_reverse]
    exact hsolid

/-! ## Both ends -/

/-- Trimming at the end leaves the beginning as it is. -/
theorem head?_trimEnd {c : Char} (h : c ∈ (trimEnd cs).head?) : c ∈ cs.head? := by
  obtain ⟨behind, hsplit, -⟩ := exists_trimEnd cs
  rw [hsplit, List.head?_append, Option.mem_def.mp h]
  rfl

theorem TrimsTo.trim_eq (h : TrimsTo text core) : trim text = core := by
  obtain ⟨⟨before, behind, rfl, hbefore, hbehind⟩, begins, ends⟩ := h
  rw [trim, String.toList_append, String.toList_append, List.append_assoc,
    trimStart_append hbefore]
  cases hcore : core.toList with
  | nil =>
    have gone : trimStart behind.toList = [] := by
      rw [← List.append_nil behind.toList, trimStart_append hbehind]
      rfl
    rw [List.nil_append, gone, ← String.toList_inj, hcore]
    rfl
  | cons c rest =>
    rw [hcore] at begins ends
    have stays : trimStart (c :: rest ++ behind.toList) = c :: rest ++ behind.toList :=
      trimStart_eq_self (by simpa using begins)
    rw [stays, trimEnd_append _ hbehind, trimEnd_eq_self ends, ← hcore, String.ofList_toList]

theorem trimsTo_trim (text : String) : TrimsTo text (trim text) := by
  obtain ⟨before, hfront, hbefore, begins⟩ := exists_trimStart text.toList
  obtain ⟨behind, hback, hbehind, ends⟩ := exists_trimEnd (trimStart text.toList)
  refine ⟨⟨String.ofList before, String.ofList behind, ?_, by simpa, by simpa⟩, ?_, ?_⟩
  · rw [← String.toList_inj, trim]
    simp only [String.toList_append, String.toList_ofList, List.append_assoc]
    rw [← hback, ← hfront]
  · rw [trim, String.toList_ofList]
    exact fun c hc => begins c (head?_trimEnd hc)
  · rw [trim, String.toList_ofList]
    exact ends

/-- Trimming leaves what stands between white space without any at its own ends. -/
theorem trim_eq_iff : trim text = core ↔ TrimsTo text core := by
  constructor
  · rintro rfl
    exact trimsTo_trim text
  · exact TrimsTo.trim_eq

/-! ## Trimmed texts -/

theorem trim_eq_self (begins : ∀ c ∈ text.toList.head?, isWhiteSpace c = false)
    (ends : ∀ c ∈ text.toList.getLast?, isWhiteSpace c = false) : trim text = text :=
  trim_eq_iff.mpr ⟨⟨"", "", by simp, nofun, nofun⟩, begins, ends⟩

/-- Nothing is trimmed off a text without white space. -/
theorem trim_of_all (h : ∀ c ∈ text.toList, isWhiteSpace c = false) : trim text = text :=
  trim_eq_self (fun c hc => h c (List.mem_of_mem_head? hc))
    fun c hc => h c (List.mem_of_mem_getLast? hc)

/-- A trimmed text has no white space around it. -/
theorem trim_trim (text : String) : trim (trim text) = trim text :=
  trim_eq_self (trimsTo_trim text).begins (trimsTo_trim text).ends

end BrokerWiring.Text
