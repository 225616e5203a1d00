import Mathlib.Tactic.SplitIfs
import BrokerWiring.Text.Utf8

/-!
# The order of texts is the order of their bytes

Texts are compared by their code points. UTF-8 keeps that order: the lead byte grows with the length
of a character, and the bits of a code point stand in its bytes with the highest first. So whatever
is in increasing order as texts is in increasing order as byte strings (`encodeText_lt_encodeText`).
-/

namespace BrokerWiring.Utf8

/-! ## Bytes of characters -/

theorem encode_cons (c : Char) (cs : List Char) : encode (c :: cs) = encodeChar c ++ encode cs :=
  List.flatMap_cons

theorem encode_append (cs ds : List Char) : encode (cs ++ ds) = encode cs ++ encode ds :=
  List.flatMap_append

theorem encodeText_append (a b : String) : encodeText (a ++ b) = encodeText a ++ encodeText b := by
  rw [encodeText, String.toList_append, encode_append, encodeText, encodeText]

theorem encodeChar_of_lt {c : Char} (h : c.toNat < 0x80) : encodeChar c = [c.toNat.toUInt8] :=
  if_pos h

theorem encodeChar_ne_nil (c : Char) : encodeChar c ≠ [] := by
  dsimp only [encodeChar]
  split_ifs <;> simp

/-! ## Order -/

/-- Byte strings are compared at the first byte in which they differ. -/
theorem cons_lt_cons_of_le {a b : Nat} {xs ys : List UInt8} (hb : b < 256) (hle : a ≤ b)
    (hrest : a = b → xs < ys) : a.toUInt8 :: xs < b.toUInt8 :: ys := by
  rw [List.cons_lt_cons_iff]
  by_cases same : a = b
  · exact .inr ⟨congrArg Nat.toUInt8 same, hrest same⟩
  · left
    rw [UInt8.lt_iff_toNat_lt]
    show a % 256 < b % 256
    omega

/-- A smaller character has smaller bytes, whatever follows them. -/
theorem encodeChar_append_lt {c d : Char} (h : c < d) (xs ys : List UInt8) :
    encodeChar c ++ xs < encodeChar d ++ ys := by
  have hlt : c.toNat < d.toNat := h
  have hd : d.toNat < 0x110000 := by
    have valid : d.toNat.isValidChar := d.valid
    simp only [Nat.isValidChar] at valid
    omega
  dsimp only [encodeChar]
  split_ifs
  all_goals refine cons_lt_cons_of_le (by omega) (by omega) fun lead => ?_
  -- The lead bytes are the same only in characters of the same length, two or more.
  all_goals try omega
  · exact cons_lt_cons_of_le (by omega) (by omega) fun _ => by omega
  · exact cons_lt_cons_of_le (by omega) (by omega) fun _ =>
      cons_lt_cons_of_le (by omega) (by omega) fun _ => by omega
  · exact cons_lt_cons_of_le (by omega) (by omega) fun _ =>
      cons_lt_cons_of_le (by omega) (by omega) fun _ =>
        cons_lt_cons_of_le (by omega) (by omega) fun _ => by omega

theorem encode_lt_encode {cs ds : List Char} (h : cs < ds) : encode cs < encode ds := by
  induction cs generalizing ds with
  | nil =>
    cases ds with
    | nil => exact absurd h (List.not_lt_nil _)
    | cons d ds =>
      obtain ⟨byte, rest, hbytes⟩ := List.exists_cons_of_ne_nil (encodeChar_ne_nil d)
      rw [encode_cons, hbytes]
      exact List.nil_lt_cons _ _
  | cons c cs ih =>
    cases ds with
    | nil => exact absurd h (List.not_lt_nil _)
    | cons d ds =>
      rw [encode_cons, encode_cons]
      rcases List.cons_lt_cons_iff.mp h with hlt | ⟨rfl, hrest⟩
      · exact encodeChar_append_lt hlt _ _
      · exact List.append_left_lt (ih hrest)

/-- Texts in increasing order are in increasing order as byte strings. -/
theorem encodeText_lt_encodeText {a b : String} (h : a < b) : encodeText a < encodeText b :=
  encode_lt_encode (String.lt_iff.mp h)

end BrokerWiring.Utf8
