import BrokerWiring.Proofs.Text.Decoding

/-!
# Positions in a stored text

A text is stored as its bytes and cut at byte positions. A position is good for that if it lies
between two characters, and whether it does can be seen from the byte that it stands in front of
(`isBoundary_encodeText_iff`): inside a character every byte is one that goes on with it. So cutting
at a position succeeds just if the text is two texts of which the first takes that many bytes
(`splitAt?_eq_some_iff`).
-/

namespace BrokerWiring.Utf8

/-- A byte that stands inside a character. -/
def continues (b : UInt8) : Bool := 0x80 ≤ b.toNat && b.toNat < 0xC0

/-- Whether a position is the end of a byte string or stands in front of a byte that begins a
character. -/
def isBoundary (bytes : List UInt8) (position : Nat) : Bool :=
  match bytes[position]? with
  | some b => !continues b
  | none => position == bytes.length

/-- The two parts of a text on either side of a byte position; nothing if the position lies inside
a character or beyond the end. -/
def splitAt? (text : String) (position : Nat) : Option (String × String) :=
  let bytes := encodeText text
  if isBoundary bytes position then
    match decodeText (bytes.take position), decodeText (bytes.drop position) with
    | .ok front, .ok behind => some (front, behind)
    | _, _ => none
  else none

/-! ## Boundaries -/

/-- Of the bytes of a character the first one begins it and all others continue it. -/
theorem exists_encodeChar_eq_cons (c : Char) :
    ∃ lead tails, encodeChar c = lead :: tails ∧ continues lead = false ∧
      ∀ b ∈ tails, continues b = true := by
  have valid : c.toNat.isValidChar := c.valid
  simp only [Nat.isValidChar] at valid
  have begins {n : Nat} (fits : n < 256) (outside : n < 0x80 ∨ 0xC0 ≤ n) :
      continues n.toUInt8 = false := by
    rw [continues, toNat_toUInt8 fits, Bool.and_eq_false_iff, decide_eq_false_iff_not,
      decide_eq_false_iff_not]
    omega
  have tail (n : Nat) : continues (0x80 + n % 64).toUInt8 = true := by
    rw [continues, toNat_toUInt8 (by omega), Bool.and_eq_true, decide_eq_true_eq,
      decide_eq_true_eq]
    omega
  dsimp only [encodeChar]
  split_ifs with one two three
  · exact ⟨_, _, rfl, begins (by omega) (.inl one), nofun⟩
  all_goals
    refine ⟨_, _, rfl, begins (by omega) (by omega), ?_⟩
    simp only [List.forall_mem_cons, tail, true_and]
    exact nofun

/-- Behind some bytes, positions count from there on. -/
theorem isBoundary_append (front bytes : List UInt8) (position : Nat) :
    isBoundary (front ++ bytes) (front.length + position) = isBoundary bytes position := by
  have shifted : (front ++ bytes)[front.length + position]? = bytes[position]? := by
    rw [List.getElem?_append_right (Nat.le_add_right ..), Nat.add_sub_cancel_left]
  rw [isBoundary, isBoundary, shifted]
  cases bytes[position]? with
  | some b => rfl
  | none => simp [Bool.beq_eq_decide_eq]

/-- A position is a boundary if a whole number of characters stands in front of it. -/
theorem isBoundary_encode_iff {cs : List Char} {position : Nat} :
    isBoundary (encode cs) position = true ↔
      ∃ front behind, cs = front ++ behind ∧ (encode front).length = position := by
  induction cs generalizing position with
  | nil =>
    have atEnd : isBoundary (encode []) position = true ↔ position = 0 := by
      simp [isBoundary, encode]
    rw [atEnd]
    constructor
    · rintro rfl
      exact ⟨[], [], rfl, rfl⟩
    · rintro ⟨front, behind, hsplit, rfl⟩
      rw [(List.append_eq_nil_iff.mp hsplit.symm).1]
      rfl
  | cons c cs ih =>
    obtain ⟨lead, tails, hbytes, hlead, htails⟩ := exists_encodeChar_eq_cons c
    rw [encode_cons]
    constructor
    · intro h
      by_cases whole : (encodeChar c).length ≤ position
      · obtain ⟨more, rfl⟩ := Nat.exists_eq_add_of_le whole
        rw [isBoundary_append, ih] at h
        obtain ⟨front, behind, rfl, rfl⟩ := h
        exact ⟨c :: front, behind, rfl, by rw [encode_cons, List.length_append]⟩
      · rw [Nat.not_le, hbytes, List.length_cons] at whole
        cases position with
        | zero => exact ⟨[], c :: cs, rfl, rfl⟩
        | succ inside =>
          -- The position stands in front of a byte that continues the character.
          have within : inside < tails.length := Nat.lt_of_succ_lt_succ whole
          have met : (encodeChar c ++ encode cs)[inside + 1]? = some tails[inside] := by
            rw [hbytes, List.cons_append, List.getElem?_cons_succ,
              List.getElem?_append_left within, List.getElem?_eq_getElem within]
          simp only [isBoundary, met, htails _ (List.getElem_mem within)] at h
          cases h
    · rintro ⟨front, behind, hsplit, rfl⟩
      cases front with
      | nil =>
        have first : (encodeChar c ++ encode cs)[0]? = some lead := by
          rw [hbytes]
          rfl
        show isBoundary (encodeChar c ++ encode cs) 0 = true
        simp only [isBoundary, first, hlead, Bool.not_false]
      | cons _ front =>
        obtain ⟨rfl, rfl⟩ := List.cons.inj hsplit
        rw [encode_cons, List.length_append, isBoundary_append, ih]
        exact ⟨front, behind, rfl, rfl⟩

variable {text : String} {position : Nat}

theorem isBoundary_encodeText_iff :
    isBoundary (encodeText text) position = true ↔
      ∃ front behind : String, text = front ++ behind ∧ (encodeText front).length = position := by
  rw [encodeText, isBoundary_encode_iff]
  constructor
  · rintro ⟨front, behind, hsplit, rfl⟩
    refine ⟨String.ofList front, String.ofList behind, ?_, by simp [encodeText]⟩
    rw [← String.toList_inj, hsplit]
    simp
  · rintro ⟨front, behind, rfl, rfl⟩
    exact ⟨front.toList, behind.toList, String.toList_append, rfl⟩

/-! ## Cuts -/

theorem encodeText_injective {a b : String} (h : encodeText a = encodeText b) : a = b := by
  have read := decodeText_eq_ok_iff.mpr h
  rw [decodeText_eq_ok_iff.mpr rfl] at read
  exact (Except.ok.inj read).symm

/-- A text is cut at a byte position just if its first part takes that many bytes. -/
theorem splitAt?_eq_some_iff {front behind : String} :
    splitAt? text position = some (front, behind) ↔
      text = front ++ behind ∧ (encodeText front).length = position := by
  constructor
  · intro h
    rw [splitAt?] at h
    split at h
    · rename_i boundary
      split at h
      · rename_i read read' hfront hbehind
        obtain ⟨rfl, rfl⟩ := Prod.mk.inj (Option.some.inj h)
        rw [decodeText_eq_ok_iff] at hfront hbehind
        obtain ⟨_, _, rfl, rfl⟩ := isBoundary_encodeText_iff.mp boundary
        refine ⟨encodeText_injective ?_, ?_⟩
        · rw [encodeText_append read, hfront, hbehind, List.take_append_drop]
        · rw [hfront, encodeText_append, List.take_left]
      · cases h
    · cases h
  · rintro ⟨rfl, rfl⟩
    have boundary : isBoundary (encodeText (front ++ behind)) (encodeText front).length = true :=
      isBoundary_encodeText_iff.mpr ⟨front, behind, rfl, rfl⟩
    have read (text : String) : decodeText (encodeText text) = .ok text :=
      decodeText_eq_ok_iff.mpr rfl
    rw [splitAt?, if_pos boundary, encodeText_append, List.take_left, List.drop_left, read, read]

end BrokerWiring.Utf8
