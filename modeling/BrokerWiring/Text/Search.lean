/-!
# Finding a text in another one
-/

namespace BrokerWiring.Text

/-- Whether `part` stands somewhere in a list of characters. -/
def occursIn (part : List Char) : List Char → Bool
  | [] => part.isEmpty
  | c :: rest => part.isPrefixOf (c :: rest) || occursIn part rest

/-- Whether one text stands somewhere in another one. -/
def mentions (whole part : String) : Bool := occursIn part.toList whole.toList

/-- A text occurs exactly where it can be cut out. -/
theorem occursIn_iff {part whole : List Char} :
    occursIn part whole = true ↔ ∃ before behind, whole = before ++ part ++ behind := by
  induction whole with
  | nil =>
    cases part with
    | nil => exact ⟨fun _ => ⟨[], [], rfl⟩, fun _ => rfl⟩
    | cons c part =>
      refine ⟨fun h => by simp [occursIn] at h, fun ⟨before, behind, h⟩ => ?_⟩
      cases before <;> simp at h
  | cons c rest ih =>
    simp only [occursIn, Bool.or_eq_true, List.isPrefixOf_iff_prefix, ih]
    constructor
    · rintro (⟨behind, h⟩ | ⟨before, behind, h⟩)
      · exact ⟨[], behind, h.symm⟩
      · exact ⟨c :: before, behind, by rw [h]; rfl⟩
    · rintro ⟨before, behind, h⟩
      cases before with
      | nil => exact .inl ⟨behind, h.symm⟩
      | cons d before =>
        simp only [List.cons_append, List.cons.injEq] at h
        exact .inr ⟨before, behind, h.2⟩

end BrokerWiring.Text
