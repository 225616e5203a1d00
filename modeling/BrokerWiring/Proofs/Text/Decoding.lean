import Mathlib.Tactic.SplitIfs
import BrokerWiring.Proofs.Outcome
import BrokerWiring.Proofs.Text.LowerCase
import BrokerWiring.Proofs.Text.Utf8

/-!
# Reading UTF-8 undoes writing it

A byte string is read as a text just if writing the text gives the bytes (`decodeText_eq_ok_iff`).
So nothing is read that was not written in this way, and what is read can be written back without
loss. Reading goes byte by byte. What it does with one whole character is computed from the lead
byte and the bytes behind it, once for the way from a character to its bytes
(`decodeFrom_encodeChar_append`) and once for the way back (`exists_encodeChar_of_ok`).
-/

namespace BrokerWiring.Utf8

open Outcome

/-! ## Bytes -/

theorem toNat_toUInt8 {n : Nat} (h : n < 256) : n.toUInt8.toNat = n := Nat.mod_eq_of_lt h

theorem eq_toUInt8 (b : UInt8) {n : Nat} (h : b.toNat = n) : b = n.toUInt8 := by
  rw [← h]
  exact UInt8.ofNat_toNat.symm

/-- The bytes of a character that has more than one are all above those of ASCII. -/
theorem toNat_of_mem_encodeChar {c : Char} {b : UInt8} (hb : b ∈ encodeChar c) :
    (c.toNat < 0x80 ∧ b.toNat = c.toNat) ∨ 0x80 ≤ b.toNat := by
  have valid : c.toNat.isValidChar := c.valid
  simp only [Nat.isValidChar] at valid
  dsimp only [encodeChar] at hb
  have high {n : Nat} (low : 0x80 ≤ n) (fits : n < 256) : 0x80 ≤ n.toUInt8.toNat := by
    rw [toNat_toUInt8 fits]
    exact low
  split_ifs at hb with one two three
  · left
    rw [List.mem_singleton.mp hb, toNat_toUInt8 (by omega)]
    exact ⟨one, rfl⟩
  all_goals
    right
    simp only [List.mem_cons, List.not_mem_nil, or_false] at hb
  · rcases hb with rfl | rfl <;> exact high (by omega) (by omega)
  · rcases hb with rfl | rfl | rfl <;> exact high (by omega) (by omega)
  · rcases hb with rfl | rfl | rfl | rfl <;> exact high (by omega) (by omega)

/-! ## Lead bytes -/

theorem of?_two : ∀ k < 32, 2 ≤ k → Lead.of? (0xC0 + k) = some ⟨k, 1, 0x80, 0xBF⟩ := by decide

/-- No overlong form follows the least of these lead bytes, and no surrogate the one for `D`. -/
theorem of?_three : ∀ k < 16, Lead.of? (0xE0 + k) =
    some ⟨k, 2, if k = 0 then 0xA0 else 0x80, if k = 13 then 0x9F else 0xBF⟩ := by decide

/-- No overlong form follows the least of these lead bytes, and nothing above U+10FFFF the
greatest. -/
theorem of?_four : ∀ k < 5, Lead.of? (0xF0 + k) =
    some ⟨k, 3, if k = 0 then 0x90 else 0x80, if k = 4 then 0x8F else 0xBF⟩ := by decide

/-- A lead byte is one of these. -/
theorem lead_cases {b : Nat} {lead : Lead} (h : Lead.of? b = some lead) :
    (b < 0x80 ∧ lead = ⟨b, 0, 0x80, 0xBF⟩) ∨ (∃ k < 32, 2 ≤ k ∧ b = 0xC0 + k) ∨
      (∃ k < 16, b = 0xE0 + k) ∨ ∃ k < 5, b = 0xF0 + k := by
  by_cases one : b < 0x80
  · rw [Lead.of?, if_pos one] at h
    exact .inl ⟨one, (Option.some.inj h).symm⟩
  · by_cases two : b < 0xE0
    · by_cases stray : b < 0xC2
      · rw [Lead.of?, if_neg one, if_pos stray] at h
        cases h
      · exact .inr (.inl ⟨b - 0xC0, by omega, by omega, by omega⟩)
    · by_cases three : b < 0xF0
      · exact .inr (.inr (.inl ⟨b - 0xE0, by omega, by omega⟩))
      · by_cases four : b < 0xF5
        · exact .inr (.inr (.inr ⟨b - 0xF0, by omega, by omega⟩))
        · simp only [Lead.of?] at h
          rw [if_neg one, if_neg (by omega), if_neg two, if_neg (by omega), if_neg (by omega),
            if_neg three, if_neg (by omega), if_neg (by omega), if_neg (by omega)] at h
          cases h

/-! ## One byte -/

variable {index : Nat} {b : UInt8} {bytes rest : List UInt8} {begun : Begun} {cs : List Char}

/-- A byte that is a whole character. -/
theorem decodeFrom_single {bits low high : Nat} (h : Lead.of? b.toNat = some ⟨bits, 0, low, high⟩) :
    decodeFrom index none (b :: rest) =
      (decodeFrom (index + 1) none rest).map (Char.ofNat bits :: ·) := by
  rw [decodeFrom, h]
  rfl

/-- A byte that more bytes follow. -/
theorem decodeFrom_lead {bits tails low high : Nat}
    (h : Lead.of? b.toNat = some ⟨bits, tails + 1, low, high⟩) :
    decodeFrom index none (b :: rest) =
      decodeFrom index (some ⟨bits, tails + 1, low, high, 1⟩) rest := by
  rw [decodeFrom, h]
  rfl

theorem decodeFrom_tail (h : begun.low ≤ b.toNat ∧ b.toNat ≤ begun.high) :
    decodeFrom index (some begun) (b :: rest) =
      if begun.owed = 1 then
        (decodeFrom (index + begun.taken + 1) none rest).map
          (Char.ofNat (begun.value * 64 + (b.toNat - 0x80)) :: ·)
      else decodeFrom index (some ⟨begun.value * 64 + (b.toNat - 0x80), begun.owed - 1, 0x80, 0xBF,
        begun.taken + 1⟩) rest := by
  rw [decodeFrom, if_pos h]

/-- The last byte of a character. -/
theorem decodeFrom_last {value low high taken : Nat} (h : low ≤ b.toNat ∧ b.toNat ≤ high) :
    decodeFrom index (some ⟨value, 1, low, high, taken⟩) (b :: rest) =
      (decodeFrom (index + taken + 1) none rest).map
        (Char.ofNat (value * 64 + (b.toNat - 0x80)) :: ·) :=
  decodeFrom_tail h

/-- A byte with more behind it. -/
theorem decodeFrom_next {value owed low high taken : Nat} (h : low ≤ b.toNat ∧ b.toNat ≤ high) :
    decodeFrom index (some ⟨value, owed + 2, low, high, taken⟩) (b :: rest) =
      decodeFrom index
        (some ⟨value * 64 + (b.toNat - 0x80), owed + 1, 0x80, 0xBF, taken + 1⟩) rest :=
  decodeFrom_tail h

/-- A character that has begun goes on with a byte in its range. -/
theorem exists_tail_of_ok (h : decodeFrom index (some begun) bytes = .ok cs) :
    ∃ b rest, bytes = b :: rest ∧ begun.low ≤ b.toNat ∧ b.toNat ≤ begun.high := by
  cases bytes with
  | nil => cases h
  | cons b rest =>
    by_cases fits : begun.low ≤ b.toNat ∧ b.toNat ≤ begun.high
    · exact ⟨b, rest, rfl, fits⟩
    · rw [decodeFrom, if_neg fits] at h
      cases h

/-! ## One character -/

/-- A whole character is read as what it was written for. -/
theorem decodeFrom_encodeChar_append (index : Nat) (c : Char) (rest : List UInt8) :
    ∃ next, decodeFrom index none (encodeChar c ++ rest) =
      (decodeFrom next none rest).map (c :: ·) := by
  have valid : c.toNat.isValidChar := c.valid
  simp only [Nat.isValidChar] at valid
  have back : Char.ofNat c.toNat = c := Char.ofNat_toNat c
  -- Every byte behind the lead byte has six bits of the character above `0x80`.
  have tail (n : Nat) : (0x80 + n % 64).toUInt8.toNat = 0x80 + n % 64 := toNat_toUInt8 (by omega)
  have range (n : Nat) : 0x80 ≤ (0x80 + n % 64).toUInt8.toNat ∧
      (0x80 + n % 64).toUInt8.toNat ≤ 0xBF := by
    rw [tail]
    omega
  dsimp only [encodeChar]
  generalize c.toNat = n at valid back
  split_ifs with one two three
  · have lead : Lead.of? n.toUInt8.toNat = some ⟨n, 0, 0x80, 0xBF⟩ := by
      rw [toNat_toUInt8 (by omega), Lead.of?, if_pos one]
    refine ⟨index + 1, ?_⟩
    rw [List.cons_append, List.nil_append, decodeFrom_single lead, back]
  · have lead : Lead.of? (0xC0 + n / 64).toUInt8.toNat = some ⟨n / 64, 1, 0x80, 0xBF⟩ := by
      rw [toNat_toUInt8 (by omega), of?_two _ (by omega) (by omega)]
    have value : n / 64 * 64 + (0x80 + n % 64 - 0x80) = n := by omega
    refine ⟨index + 1 + 1, ?_⟩
    rw [List.cons_append, List.cons_append, List.nil_append, decodeFrom_lead lead,
      decodeFrom_last (range n), tail, value, back]
  · have lead : Lead.of? (0xE0 + n / 4096).toUInt8.toNat = some ⟨n / 4096, 2,
        if n / 4096 = 0 then 0xA0 else 0x80, if n / 4096 = 13 then 0x9F else 0xBF⟩ := by
      rw [toNat_toUInt8 (by omega), of?_three _ (by omega)]
    have second : (if n / 4096 = 0 then 0xA0 else 0x80) ≤ (0x80 + n / 64 % 64).toUInt8.toNat ∧
        (0x80 + n / 64 % 64).toUInt8.toNat ≤ if n / 4096 = 13 then 0x9F else 0xBF := by
      rw [tail]
      constructor <;> split_ifs <;> omega
    have value : (n / 4096 * 64 + (0x80 + n / 64 % 64 - 0x80)) * 64 +
        (0x80 + n % 64 - 0x80) = n := by
      omega
    refine ⟨index + (1 + 1) + 1, ?_⟩
    rw [List.cons_append, List.cons_append, List.cons_append, List.nil_append,
      decodeFrom_lead lead, decodeFrom_next second, decodeFrom_last (range n),
      tail, tail, value, back]
  · have lead : Lead.of? (0xF0 + n / 262144).toUInt8.toNat = some ⟨n / 262144, 3,
        if n / 262144 = 0 then 0x90 else 0x80, if n / 262144 = 4 then 0x8F else 0xBF⟩ := by
      rw [toNat_toUInt8 (by omega), of?_four _ (by omega)]
    have second : (if n / 262144 = 0 then 0x90 else 0x80) ≤
          (0x80 + n / 4096 % 64).toUInt8.toNat ∧
        (0x80 + n / 4096 % 64).toUInt8.toNat ≤ if n / 262144 = 4 then 0x8F else 0xBF := by
      rw [tail]
      constructor <;> split_ifs <;> omega
    have value : ((n / 262144 * 64 + (0x80 + n / 4096 % 64 - 0x80)) * 64 +
        (0x80 + n / 64 % 64 - 0x80)) * 64 + (0x80 + n % 64 - 0x80) = n := by
      omega
    refine ⟨index + (1 + 1 + 1) + 1, ?_⟩
    rw [List.cons_append, List.cons_append, List.cons_append, List.cons_append, List.nil_append,
      decodeFrom_lead lead, decodeFrom_next second,
      decodeFrom_next (range (n / 64)), decodeFrom_last (range n), tail, tail, tail, value, back]

/-- The bytes of the character with a code point. -/
theorem encodeChar_ofNat {n : Nat} (h : n.isValidChar) : encodeChar (Char.ofNat n) =
    if n < 0x80 then [n.toUInt8]
    else if n < 0x800 then [(0xC0 + n / 64).toUInt8, (0x80 + n % 64).toUInt8]
    else if n < 0x10000 then
      [(0xE0 + n / 4096).toUInt8, (0x80 + n / 64 % 64).toUInt8, (0x80 + n % 64).toUInt8]
    else
      [(0xF0 + n / 262144).toUInt8, (0x80 + n / 4096 % 64).toUInt8, (0x80 + n / 64 % 64).toUInt8,
        (0x80 + n % 64).toUInt8] := by
  dsimp only [encodeChar]
  rw [Text.toNat_ofNat_of_valid h]

theorem encodeChar_two {k : Nat} {b b₁ : UInt8} (least : 2 ≤ k) (most : k < 32)
    (hb : b.toNat = 0xC0 + k) (h₁ : 0x80 ≤ b₁.toNat ∧ b₁.toNat ≤ 0xBF) :
    encodeChar (Char.ofNat (k * 64 + (b₁.toNat - 0x80))) = [b, b₁] := by
  rw [encodeChar_ofNat (.inl (by omega)), if_neg (by omega), if_pos (by omega),
    ← eq_toUInt8 b (by omega), ← eq_toUInt8 b₁ (by omega)]

/-- The range of the second byte keeps out what has fewer bytes, and the surrogates. -/
theorem encodeChar_three {k : Nat} {b b₁ b₂ : UInt8} (most : k < 16) (hb : b.toNat = 0xE0 + k)
    (h₁ : (if k = 0 then 0xA0 else 0x80) ≤ b₁.toNat ∧
      b₁.toNat ≤ if k = 13 then 0x9F else 0xBF)
    (h₂ : 0x80 ≤ b₂.toNat ∧ b₂.toNat ≤ 0xBF) :
    encodeChar (Char.ofNat ((k * 64 + (b₁.toNat - 0x80)) * 64 + (b₂.toNat - 0x80))) =
      [b, b₁, b₂] := by
  have valid : ((k * 64 + (b₁.toNat - 0x80)) * 64 + (b₂.toNat - 0x80)).isValidChar := by
    simp only [Nat.isValidChar]
    split_ifs at h₁ <;> omega
  have wide : 0x800 ≤ (k * 64 + (b₁.toNat - 0x80)) * 64 + (b₂.toNat - 0x80) := by
    split_ifs at h₁ <;> omega
  have tail : 0x80 ≤ b₁.toNat ∧ b₁.toNat ≤ 0xBF := by
    split_ifs at h₁ <;> omega
  rw [encodeChar_ofNat valid, if_neg (by omega), if_neg (by omega), if_pos (by omega),
    ← eq_toUInt8 b (by omega), ← eq_toUInt8 b₁ (by omega), ← eq_toUInt8 b₂ (by omega)]

/-- The range of the second byte keeps out what has fewer bytes, and what is above U+10FFFF. -/
theorem encodeChar_four {k : Nat} {b b₁ b₂ b₃ : UInt8} (most : k < 5) (hb : b.toNat = 0xF0 + k)
    (h₁ : (if k = 0 then 0x90 else 0x80) ≤ b₁.toNat ∧ b₁.toNat ≤ if k = 4 then 0x8F else 0xBF)
    (h₂ : 0x80 ≤ b₂.toNat ∧ b₂.toNat ≤ 0xBF) (h₃ : 0x80 ≤ b₃.toNat ∧ b₃.toNat ≤ 0xBF) :
    encodeChar (Char.ofNat (((k * 64 + (b₁.toNat - 0x80)) * 64 + (b₂.toNat - 0x80)) * 64 +
      (b₃.toNat - 0x80))) = [b, b₁, b₂, b₃] := by
  have wide : 0x10000 ≤ ((k * 64 + (b₁.toNat - 0x80)) * 64 + (b₂.toNat - 0x80)) * 64 +
        (b₃.toNat - 0x80) ∧
      ((k * 64 + (b₁.toNat - 0x80)) * 64 + (b₂.toNat - 0x80)) * 64 +
        (b₃.toNat - 0x80) < 0x110000 := by
    split_ifs at h₁ <;> omega
  have tail : 0x80 ≤ b₁.toNat ∧ b₁.toNat ≤ 0xBF := by
    split_ifs at h₁ <;> omega
  rw [encodeChar_ofNat (.inr (by omega)), if_neg (by omega), if_neg (by omega),
    if_neg (by omega), ← eq_toUInt8 b (by omega), ← eq_toUInt8 b₁ (by omega),
    ← eq_toUInt8 b₂ (by omega), ← eq_toUInt8 b₃ (by omega)]

/-- What is read begins with a whole character. -/
theorem exists_encodeChar_of_ok (h : decodeFrom index none (b :: rest) = .ok cs) :
    ∃ c others next behind, b :: rest = encodeChar c ++ behind ∧ cs = c :: others ∧
      decodeFrom next none behind = .ok others := by
  cases hlead : Lead.of? b.toNat with
  | none =>
    rw [decodeFrom, hlead] at h
    cases h
  | some lead =>
    rcases lead_cases hlead with ⟨hb, rfl⟩ | ⟨k, hk, least, hb⟩ | ⟨k, hk, hb⟩ | ⟨k, hk, hb⟩
    · rw [decodeFrom_single hlead, map_eq_ok_iff] at h
      obtain ⟨others, hrest, rfl⟩ := h
      have spelled : encodeChar (Char.ofNat b.toNat) = [b] := by
        rw [encodeChar_ofNat (.inl (by omega)), if_pos hb, ← eq_toUInt8 b rfl]
      exact ⟨_, others, _, rest, by rw [spelled]; rfl, rfl, hrest⟩
    · obtain rfl := Option.some.inj ((of?_two k hk least).symm.trans (hb ▸ hlead))
      rw [decodeFrom_lead hlead] at h
      obtain ⟨b₁, rest, rfl, h₁⟩ := exists_tail_of_ok h
      rw [decodeFrom_last h₁, map_eq_ok_iff] at h
      obtain ⟨others, hrest, rfl⟩ := h
      exact ⟨_, others, _, rest, by rw [encodeChar_two least hk hb h₁]; rfl, rfl, hrest⟩
    · obtain rfl := Option.some.inj ((of?_three k hk).symm.trans (hb ▸ hlead))
      rw [decodeFrom_lead hlead] at h
      obtain ⟨b₁, rest, rfl, h₁⟩ := exists_tail_of_ok h
      rw [decodeFrom_next h₁] at h
      obtain ⟨b₂, rest, rfl, h₂⟩ := exists_tail_of_ok h
      rw [decodeFrom_last h₂, map_eq_ok_iff] at h
      obtain ⟨others, hrest, rfl⟩ := h
      exact ⟨_, others, _, rest, by rw [encodeChar_three hk hb h₁ h₂]; rfl, rfl, hrest⟩
    · obtain rfl := Option.some.inj ((of?_four k hk).symm.trans (hb ▸ hlead))
      rw [decodeFrom_lead hlead] at h
      obtain ⟨b₁, rest, rfl, h₁⟩ := exists_tail_of_ok h
      rw [decodeFrom_next h₁] at h
      obtain ⟨b₂, rest, rfl, h₂⟩ := exists_tail_of_ok h
      rw [decodeFrom_next h₂] at h
      obtain ⟨b₃, rest, rfl, h₃⟩ := exists_tail_of_ok h
      rw [decodeFrom_last h₃, map_eq_ok_iff] at h
      obtain ⟨others, hrest, rfl⟩ := h
      exact ⟨_, others, _, rest, by rw [encodeChar_four hk hb h₁ h₂ h₃]; rfl, rfl, hrest⟩

/-! ## Texts -/

theorem decodeFrom_encode (index : Nat) (cs : List Char) :
    decodeFrom index none (encode cs) = .ok cs := by
  induction cs generalizing index with
  | nil => rfl
  | cons c cs ih =>
    obtain ⟨next, h⟩ := decodeFrom_encodeChar_append index c (encode cs)
    rw [encode_cons]
    exact h.trans (by rw [ih]; rfl)

theorem encode_of_decodeFrom (h : decodeFrom index none bytes = .ok cs) : encode cs = bytes := by
  -- A character is read from at least one byte, so what is behind it is shorter.
  induction hlength : bytes.length using Nat.strongRecOn generalizing index bytes cs with
  | ind length ih =>
    cases bytes with
    | nil =>
      cases h
      rfl
    | cons b rest =>
      obtain ⟨c, others, next, behind, hbytes, rfl, hbehind⟩ := exists_encodeChar_of_ok h
      have shorter : behind.length < length := by
        have taken := List.length_pos_iff.mpr (encodeChar_ne_nil c)
        rw [← hlength, hbytes, List.length_append]
        omega
      rw [hbytes, ← ih _ shorter hbehind rfl, encode_cons]

/-- A text is read from just the bytes that it is written with. -/
theorem decodeText_eq_ok_iff {bytes : List UInt8} {text : String} :
    decodeText bytes = .ok text ↔ encodeText text = bytes := by
  rw [decodeText, map_eq_ok_iff]
  constructor
  · rintro ⟨cs, h, rfl⟩
    rw [encodeText, String.toList_ofList]
    exact encode_of_decodeFrom h
  · rintro rfl
    exact ⟨text.toList, decodeFrom_encode 0 text.toList, String.ofList_toList⟩

end BrokerWiring.Utf8
