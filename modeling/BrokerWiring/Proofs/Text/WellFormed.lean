import BrokerWiring.Proofs.Text.Decoding

/-!
# The language of UTF-8

Which byte strings are UTF-8 is said here without reading or writing any. The bytes of a character
have one of four patterns, whose free bits make up a code point (`Pattern`), and the code point is
one of a character that needs all of these bytes (`IsCharacter`). A byte string is well formed if it
is a row of such characters, with nothing left over (`WellFormed`). These are the byte strings that
texts are written as (`wellFormed_iff`), and so those that are read (`exists_decodeText_iff`).
-/

namespace BrokerWiring.Utf8

/-- The high bits of a byte are those of `mark` and its low bits, of which there is room for `room`
values, are `bits`. -/
def Marked (mark room : Nat) (b : UInt8) (bits : Nat) : Prop := b.toNat = mark + bits ∧ bits < room

/-- The bytes behind the first one of a character have six free bits. -/
abbrev Tail : UInt8 → Nat → Prop := Marked 0x80 64

/-- The four patterns of the bytes of a character: the least code point that needs as many bytes,
the bytes, and the code point that their free bits make up. -/
inductive Pattern : Nat → List UInt8 → Nat → Prop
  | one {b : UInt8} {x : Nat} : Marked 0 0x80 b x → Pattern 0 [b] x
  | two {b b₁ : UInt8} {x x₁ : Nat} : Marked 0xC0 32 b x → Tail b₁ x₁ →
      Pattern 0x80 [b, b₁] (x * 64 + x₁)
  | three {b b₁ b₂ : UInt8} {x x₁ x₂ : Nat} : Marked 0xE0 16 b x → Tail b₁ x₁ → Tail b₂ x₂ →
      Pattern 0x800 [b, b₁, b₂] ((x * 64 + x₁) * 64 + x₂)
  | four {b b₁ b₂ b₃ : UInt8} {x x₁ x₂ x₃ : Nat} : Marked 0xF0 8 b x → Tail b₁ x₁ →
      Tail b₂ x₂ → Tail b₃ x₃ → Pattern 0x10000 [b, b₁, b₂, b₃] (((x * 64 + x₁) * 64 + x₂) * 64 + x₃)

/-- The bytes of a character with this code point. -/
structure IsCharacter (bytes : List UInt8) (code : Nat) : Prop where
  /-- No overlong form: fewer bytes would not do. -/
  shortest : ∃ least, Pattern least bytes code ∧ least ≤ code
  /-- No surrogate. -/
  unpaired : code < 0xD800 ∨ 0xDFFF < code
  /-- Nothing above U+10FFFF. -/
  within : code ≤ 0x10FFFF

/-- A row of whole characters. -/
inductive WellFormed : List UInt8 → Prop
  | nil : WellFormed []
  | cons {bytes rest : List UInt8} {code : Nat} :
      IsCharacter bytes code → WellFormed rest → WellFormed (bytes ++ rest)

/-! ## Characters -/

variable {bytes : List UInt8} {code : Nat}

theorem Marked.eq_toUInt8 {mark room bits : Nat} {b : UInt8} (h : Marked mark room b bits) :
    b = (mark + bits).toUInt8 := Utf8.eq_toUInt8 b h.1

theorem marked_toUInt8 (mark room : Nat) {bits : Nat} (h : bits < room)
    (fits : mark + bits < 256) : Marked mark room (mark + bits).toUInt8 bits :=
  ⟨toNat_toUInt8 fits, h⟩

theorem tail_toUInt8 (n : Nat) : Tail (0x80 + n % 64).toUInt8 (n % 64) :=
  marked_toUInt8 0x80 64 (by omega) (by omega)

/-- The bytes that are written for a character have the pattern for its code point. -/
theorem isCharacter_encodeChar (c : Char) : IsCharacter (encodeChar c) c.toNat := by
  have valid : c.toNat.isValidChar := c.valid
  simp only [Nat.isValidChar] at valid
  refine ⟨?_, by omega, by omega⟩
  dsimp only [encodeChar]
  generalize c.toNat = n at valid
  split_ifs with one two three
  · have lead := marked_toUInt8 0 0x80 one (by omega)
    rw [Nat.zero_add] at lead
    exact ⟨0, .one lead, Nat.zero_le n⟩
  · have value : n = n / 64 * 64 + n % 64 := by omega
    have lead : Marked 0xC0 32 (0xC0 + n / 64).toUInt8 (n / 64) :=
      marked_toUInt8 _ _ (by omega) (by omega)
    have pattern := Pattern.two lead (tail_toUInt8 n)
    rw [← value] at pattern
    exact ⟨0x80, pattern, by omega⟩
  · have value : n = (n / 4096 * 64 + n / 64 % 64) * 64 + n % 64 := by omega
    have lead : Marked 0xE0 16 (0xE0 + n / 4096).toUInt8 (n / 4096) :=
      marked_toUInt8 _ _ (by omega) (by omega)
    have pattern := Pattern.three lead (tail_toUInt8 (n / 64)) (tail_toUInt8 n)
    rw [← value] at pattern
    exact ⟨0x800, pattern, by omega⟩
  · have value : n = ((n / 262144 * 64 + n / 4096 % 64) * 64 + n / 64 % 64) * 64 + n % 64 := by
      omega
    have lead : Marked 0xF0 8 (0xF0 + n / 262144).toUInt8 (n / 262144) :=
      marked_toUInt8 _ _ (by omega) (by omega)
    have pattern :=
      Pattern.four lead (tail_toUInt8 (n / 4096)) (tail_toUInt8 (n / 64)) (tail_toUInt8 n)
    rw [← value] at pattern
    exact ⟨0x10000, pattern, by omega⟩

/-- The bytes of a character are those that are written for it. -/
theorem IsCharacter.eq_encodeChar (h : IsCharacter bytes code) :
    bytes = encodeChar (Char.ofNat code) := by
  obtain ⟨⟨least, pattern, hleast⟩, unpaired, within⟩ := h
  have valid : code.isValidChar := by
    simp only [Nat.isValidChar]
    omega
  rw [encodeChar_ofNat valid]
  cases pattern with
  | one hb =>
    have fits := hb.2
    rw [if_pos fits, hb.eq_toUInt8, Nat.zero_add]
  | @two b b₁ x x₁ hb h₁ =>
    have fits := hb.2
    have fits₁ := h₁.2
    rw [if_neg (by omega), if_pos (by omega), hb.eq_toUInt8, h₁.eq_toUInt8,
      show (x * 64 + x₁) / 64 = x by omega, show (x * 64 + x₁) % 64 = x₁ by omega]
  | @three b b₁ b₂ x x₁ x₂ hb h₁ h₂ =>
    have fits := hb.2
    have fits₁ := h₁.2
    have fits₂ := h₂.2
    rw [if_neg (by omega), if_neg (by omega), if_pos (by omega), hb.eq_toUInt8, h₁.eq_toUInt8,
      h₂.eq_toUInt8, show ((x * 64 + x₁) * 64 + x₂) / 4096 = x by omega,
      show ((x * 64 + x₁) * 64 + x₂) / 64 % 64 = x₁ by omega,
      show ((x * 64 + x₁) * 64 + x₂) % 64 = x₂ by omega]
  | @four b b₁ b₂ b₃ x x₁ x₂ x₃ hb h₁ h₂ h₃ =>
    have fits := hb.2
    have fits₁ := h₁.2
    have fits₂ := h₂.2
    have fits₃ := h₃.2
    rw [if_neg (by omega), if_neg (by omega), if_neg (by omega), hb.eq_toUInt8, h₁.eq_toUInt8,
      h₂.eq_toUInt8, h₃.eq_toUInt8,
      show (((x * 64 + x₁) * 64 + x₂) * 64 + x₃) / 262144 = x by omega,
      show (((x * 64 + x₁) * 64 + x₂) * 64 + x₃) / 4096 % 64 = x₁ by omega,
      show (((x * 64 + x₁) * 64 + x₂) * 64 + x₃) / 64 % 64 = x₂ by omega,
      show (((x * 64 + x₁) * 64 + x₂) * 64 + x₃) % 64 = x₃ by omega]

/-! ## Texts -/

theorem wellFormed_encode (cs : List Char) : WellFormed (encode cs) := by
  induction cs with
  | nil => exact .nil
  | cons c cs ih =>
    rw [encode_cons]
    exact .cons (isCharacter_encodeChar c) ih

/-- The well-formed byte strings are those that texts are written as. -/
theorem wellFormed_iff : WellFormed bytes ↔ ∃ text, encodeText text = bytes := by
  constructor
  · intro h
    induction h with
    | nil => exact ⟨"", rfl⟩
    | @cons bytes rest code hcharacter _ ih =>
      obtain ⟨text, rfl⟩ := ih
      refine ⟨String.ofList (Char.ofNat code :: text.toList), ?_⟩
      rw [encodeText, String.toList_ofList, encode_cons, ← hcharacter.eq_encodeChar, encodeText]
  · rintro ⟨text, rfl⟩
    exact wellFormed_encode text.toList

/-- A byte string is read as a text just if it is well formed. -/
theorem exists_decodeText_iff : (∃ text, decodeText bytes = .ok text) ↔ WellFormed bytes := by
  simp only [decodeText_eq_ok_iff, wellFormed_iff]

end BrokerWiring.Utf8
