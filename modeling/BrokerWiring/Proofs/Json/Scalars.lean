import Mathlib.Tactic.SplitIfs
import BrokerWiring.Json.Printer
import BrokerWiring.Json.Reader
import BrokerWiring.Proofs.Settings.Forms
import BrokerWiring.Proofs.Text.Decoding

/-!
# Written strings and integers are read back

What is written for a string is read as the string, whatever follows its closing quote
(`stringText_written`). A character stands as its own bytes or as an escape; either is read as the
bytes of the character (`stringBytes_plain`, `escape_written`), so that what is collected is the
UTF-8 of the whole string.

The digits of an integer that 64 bits hold are read as the integer, whatever follows them that does
not go on with a number (`numberBehindSign_written`).
-/

namespace BrokerWiring.Json

open Utf8 (encode encodeChar encode_cons encode_append encodeChar_of_lt toNat_of_mem_encodeChar)

/-! ## Strings -/

/-- A byte that stands for itself inside a string. -/
def Plain (b : UInt8) : Prop := b ≠ 0x22 ∧ b ≠ 0x5C ∧ ¬ b < 0x20

/-- Bytes that stand for themselves are taken one by one. -/
theorem stringBytes_plain {taken : List UInt8} (h : ∀ b ∈ taken, Plain b) (fuel : Nat)
    (bytes : List UInt8) :
    stringBytes (fuel + taken.length) (taken ++ bytes) =
      (stringBytes fuel bytes).map fun (tail, rest) => (taken ++ tail, rest) := by
  induction taken with
  | nil =>
    show stringBytes fuel bytes = _
    cases stringBytes fuel bytes <;> rfl
  | cons b others ih =>
    obtain ⟨⟨quote, backslash, control⟩, hothers⟩ := List.forall_mem_cons.mp h
    show stringBytes (fuel + others.length + 1) (b :: (others ++ bytes)) = _
    rw [stringBytes, if_neg quote, if_neg backslash, if_neg control, ih hothers]
    cases stringBytes fuel bytes <;> rfl

/-- An escape is taken in one step. -/
theorem stringBytes_escape {bytes image rest : List UInt8} (h : escape bytes = .ok (image, rest))
    (fuel : Nat) :
    stringBytes (fuel + 1) (0x5C :: bytes) =
      (stringBytes fuel rest).map fun (tail, rest) => (image ++ tail, rest) := by
  rw [stringBytes, if_neg (by decide), if_pos rfl, h]
  show (do let (tail, rest) ← stringBytes fuel rest; .ok (image ++ tail, rest)) = _
  cases stringBytes fuel rest <;> rfl

theorem hexValue?_hexDigit (n : Nat) :
    encodeChar (Text.hexDigit n) = [(Text.hexDigit n).toNat.toUInt8] ∧
      Text.hexValue? (Text.hexDigit n).toNat.toUInt8 = some (n % 16) := by
  have digits : ∀ d < 16, encodeChar (Text.hexDigit d) = [(Text.hexDigit d).toNat.toUInt8] ∧
      Text.hexValue? (Text.hexDigit d).toNat.toUInt8 = some d := by decide
  have same : Text.hexDigit n = Text.hexDigit (n % 16) := by
    rw [Text.hexDigit, Text.hexDigit, Nat.mod_mod]
  rw [same]
  exact digits (n % 16) (Nat.mod_lt n (by decide))

theorem hexUnit_hexPadded {n : Nat} (h : n < 65536) (rest : List UInt8) :
    hexUnit (encode (Text.hexPadded n 4) ++ rest) = .ok (n, rest) := by
  have value : ((n / 16 / 16 / 16 % 16 * 16 + n / 16 / 16 % 16) * 16 + n / 16 % 16) * 16 +
      n % 16 = n := by omega
  simp only [Text.hexPadded, List.nil_append, List.cons_append, encode_cons,
    (hexValue?_hexDigit _).1]
  show hexUnit (_ :: _ :: _ :: _ :: rest) = _
  rw [hexUnit]
  simp only [(hexValue?_hexDigit _).2, value]

/-- The escape that is written for a control character without a letter of its own. -/
theorem escape_hexPadded {c : Char} (h : c.toNat < 0x20) (rest : List UInt8) :
    escape (0x75 :: encode (Text.hexPadded c.toNat 4) ++ rest) = .ok (encodeChar c, rest) := by
  have single : isTrailing c.toNat = false ∧ isLeading c.toNat = false := by
    simp only [isTrailing, isLeading, Bool.and_eq_false_iff, decide_eq_false_iff_not]
    omega
  rw [List.cons_append, escape]
  show (if (0x75 : UInt8) = 0x75 then _ else _) = _
  rw [if_pos rfl, hexEscape, hexUnit_hexPadded (by omega)]
  show Except.map _ (if isTrailing c.toNat then _ else if !isLeading c.toNat then _ else _) = _
  rw [single.1, single.2, Char.ofNat_toNat]
  rfl

/-- A character does not stand for itself inside a string. -/
def Special (c : Char) : Prop := c = '"' ∨ c = '\\' ∨ c.toNat < 0x20

/-- The escape of a character is read as its bytes. -/
theorem escape_written {c : Char} (h : Special c) (rest : List UInt8) :
    ∃ letters, encode (escaped c) = 0x5C :: letters ∧
      escape (letters ++ rest) = .ok (encodeChar c, rest) := by
  unfold escaped
  split_ifs with mark high line tab back bell feed
  · rcases mark with rfl | rfl
    · exact ⟨[0x22], rfl, rfl⟩
    · exact ⟨[0x5C], rfl, rfl⟩
  · rcases h with quote | backslash | control
    · exact absurd (.inl quote) mark
    · exact absurd (.inr backslash) mark
    · exact absurd high (by omega)
  · exact line ▸ ⟨[0x6E], rfl, rfl⟩
  · exact tab ▸ ⟨[0x74], rfl, rfl⟩
  · exact back ▸ ⟨[0x72], rfl, rfl⟩
  · obtain rfl : c = Char.ofNat 8 := by rw [← bell, Char.ofNat_toNat]
    exact ⟨[0x62], rfl, rfl⟩
  · obtain rfl : c = Char.ofNat 12 := by rw [← feed, Char.ofNat_toNat]
    exact ⟨[0x66], rfl, rfl⟩
  · exact ⟨0x75 :: encode (Text.hexPadded c.toNat 4), rfl, escape_hexPadded (by omega) rest⟩

/-- Any other character is written as it is, in bytes that stand for themselves. -/
theorem escaped_of_not_special {c : Char} (h : ¬ Special c) :
    escaped c = [c] ∧ ∀ b ∈ encodeChar c, Plain b := by
  simp only [Special, not_or] at h
  obtain ⟨quote, backslash, control⟩ := h
  refine ⟨by rw [escaped, if_neg (by simp [quote, backslash]), if_pos (by omega)], ?_⟩
  intro b hb
  have other {d : Char} (hd : d.toNat < 0x80) (hc : c ≠ d) : b ≠ d.toNat.toUInt8 := by
    rintro rfl
    rw [← Char.toNat_inj.ne] at hc
    rcases toNat_of_mem_encodeChar hb with ⟨-, same⟩ | high
    · rw [Utf8.toNat_toUInt8 (by omega)] at same
      exact hc same.symm
    · rw [Utf8.toNat_toUInt8 (by omega)] at high
      omega
  refine ⟨other (d := '"') (by decide) quote, other (d := '\\') (by decide) backslash, ?_⟩
  rw [UInt8.lt_iff_toNat_lt]
  show ¬ b.toNat < 32
  rcases toNat_of_mem_encodeChar hb with ⟨-, same⟩ | high <;> omega

/-- What is written for characters is read as their bytes, up to the closing quote. -/
theorem stringBytes_written (cs : List Char) (rest : List UInt8) {fuel : Nat}
    (enough : (encode (cs.flatMap escaped)).length < fuel) :
    stringBytes fuel (encode (cs.flatMap escaped) ++ 0x22 :: rest) = .ok (encode cs, rest) := by
  induction cs generalizing fuel with
  | nil =>
    cases fuel with
    | zero => exact absurd enough (Nat.not_lt_zero _)
    | succ fuel => rfl
  | cons c cs ih =>
    rw [List.flatMap_cons, encode_append, List.length_append] at enough
    rw [List.flatMap_cons, encode_append, List.append_assoc, encode_cons]
    by_cases special : Special c
    · obtain ⟨letters, hbytes, hescape⟩ :=
        escape_written special (encode (cs.flatMap escaped) ++ 0x22 :: rest)
      rw [hbytes, List.length_cons] at enough
      obtain ⟨left, rfl⟩ : ∃ left, fuel = left + 1 := ⟨fuel - 1, by omega⟩
      rw [hbytes, List.cons_append, stringBytes_escape hescape, ih (by omega)]
      rfl
    · obtain ⟨same, plain⟩ := escaped_of_not_special special
      have hbytes : encode (escaped c) = encodeChar c := by
        rw [same, encode_cons]
        exact List.append_nil _
      rw [hbytes] at enough
      obtain ⟨left, rfl⟩ : ∃ left, fuel = left + (encodeChar c).length :=
        ⟨fuel - (encodeChar c).length, by omega⟩
      rw [hbytes, stringBytes_plain plain, ih (by omega)]
      rfl

/-- A written string is read back. -/
theorem stringText_written (s : String) (rest : List UInt8) :
    stringText (encode (s.toList.flatMap escaped) ++ 0x22 :: rest) = .ok (s, rest) := by
  have enough : (encode (s.toList.flatMap escaped)).length <
      (encode (s.toList.flatMap escaped) ++ 0x22 :: rest).length := by
    rw [List.length_append, List.length_cons]
    omega
  have decoded : Utf8.decodeText (encode s.toList) = .ok s := Utf8.decodeText_eq_ok_iff.mpr rfl
  rw [stringText, stringBytes_written _ _ enough]
  dsimp only [bind, Except.bind]
  rw [decoded]

/-! ## Integers -/

/-- No number goes on with these bytes. -/
def EndsNumber (bytes : List UInt8) : Prop :=
  ∀ b ∈ bytes.head?, digit? b = none ∧ b ≠ 0x2E ∧ b ≠ 0x65 ∧ b ≠ 0x45

theorem digit?_of_isDigit {c : Char} (h : c.isDigit = true) :
    encodeChar c = [c.toNat.toUInt8] ∧ digit? c.toNat.toUInt8 = some (c.toNat - 48) := by
  obtain ⟨low, high⟩ : 48 ≤ c.toNat ∧ c.toNat ≤ 57 := Char.isDigit_iff_toNat.mp h
  have back : c.toNat.toUInt8.toNat = c.toNat := Utf8.toNat_toUInt8 (by omega)
  refine ⟨encodeChar_of_lt (by omega), ?_⟩
  rw [digit?, if_pos, back]
  rw [UInt8.le_iff_toNat_le, UInt8.le_iff_toNat_le, back]
  exact ⟨low, high⟩

/-- Digits are taken as long as what they make up fits. -/
theorem takeDigits_written {cs : List Char} (hdigits : ∀ c ∈ cs, c.isDigit = true)
    {significand : Nat} (hfits : Nat.ofDigitChars 10 cs significand ≤ greatestSignificand)
    (count : Nat) {rest : List UInt8} (hrest : EndsNumber rest) :
    takeDigits significand count (encode cs ++ rest) =
      (Nat.ofDigitChars 10 cs significand, count + cs.length, rest) := by
  induction cs generalizing significand count with
  | nil =>
    cases rest with
    | nil => rfl
    | cons b behind =>
      show takeDigits significand count (b :: behind) = _
      rw [takeDigits, (hrest b rfl).1]
      rfl
  | cons c cs ih =>
    obtain ⟨hc, hcs⟩ := List.forall_mem_cons.mp hdigits
    obtain ⟨byte, digit⟩ := digit?_of_isDigit hc
    have next : 10 * significand + (c.toNat - '0'.toNat) = significand * 10 + (c.toNat - 48) := by
      rw [Nat.mul_comm]
      rfl
    rw [Nat.ofDigitChars_cons, next] at hfits ⊢
    -- What has been taken so far is at most what it comes to in the end.
    have fits : significand * 10 + (c.toNat - 48) ≤ greatestSignificand :=
      Nat.le_trans (Settings.le_ofDigitChars cs _) hfits
    rw [encode_cons, byte, List.singleton_append, List.cons_append, takeDigits, digit]
    simp only [if_pos fits]
    rw [ih hcs hfits, List.length_cons, Nat.add_assoc, Nat.add_comm 1]

theorem skipDigits_of_endsNumber {bytes : List UInt8} (h : EndsNumber bytes) :
    skipDigits 0 bytes = (0, bytes) := by
  cases bytes with
  | nil => rfl
  | cons b rest => rw [skipDigits, (h b rfl).1]

theorem behindInteger_of_endsNumber {bytes : List UInt8} (h : EndsNumber bytes) (negative : Bool)
    (significand : Nat) :
    behindInteger negative significand 0 bytes = .ok (wholeNumber negative significand, bytes) := by
  cases bytes with
  | nil => rfl
  | cons b rest =>
    obtain ⟨-, point, small, capital⟩ := h b rfl
    have plain : startsExponent (b :: rest) = false := by
      simp [startsExponent, small, capital]
    rw [behindInteger, if_neg point, plain]
    rfl

/-- The digits of a number begin with a zero only if it is zero. -/
theorem toDigits_eq_cons {n : Nat} (h : 0 < n) :
    ∃ c cs, Nat.toDigits 10 n = c :: cs ∧ c ≠ '0' := by
  induction n using Nat.strongRecOn with
  | ind n ih =>
    by_cases small : n < 10
    · refine ⟨_, [], Nat.toDigits_of_lt_base small, fun zero => ?_⟩
      exact absurd (Nat.digitChar_eq_zero.mp zero) (by omega)
    · obtain ⟨c, cs, hdigits, first⟩ := ih (n / 10) (by omega) (by omega)
      refine ⟨c, cs ++ [(n % 10).digitChar], ?_, first⟩
      rw [Nat.toDigits_of_base_le (by decide) (by omega), hdigits, List.cons_append]

/-- The bytes of the digits of a number begin with one for a digit. -/
theorem exists_encode_repr (n : Nat) : ∃ b behind, encode (Nat.repr n).toList = b :: behind ∧
    (digit? b).isSome = true := by
  have hdigits : ∀ c ∈ Nat.toDigits 10 n, c.isDigit = true := fun c hc =>
    Nat.isDigit_of_mem_toDigits (by omega) (by omega) hc
  rw [Nat.toList_repr]
  obtain ⟨c, cs, h⟩ := List.exists_cons_of_ne_nil (Nat.toDigits_ne_nil (n := n) (b := 10))
  obtain ⟨byte, digit⟩ := digit?_of_isDigit (hdigits c (h ▸ List.mem_cons_self))
  refine ⟨c.toNat.toUInt8, encode cs, ?_, by rw [digit]; rfl⟩
  rw [h, encode_cons, byte, List.singleton_append]

/-- A number that begins with another digit than zero is read digit by digit. -/
theorem numberBehindSign_cons (negative : Bool) {b : UInt8} {d significand count dropped : Nat}
    {bytes rest behind : List UInt8} (first : digit? b = some (d + 1))
    (taken : takeDigits (d + 1) 1 bytes = (significand, count, rest))
    (skipped : skipDigits 0 rest = (dropped, behind)) :
    numberBehindSign negative (b :: bytes) = behindInteger negative significand dropped behind := by
  simp only [numberBehindSign, first, taken, skipped]

/-- The digits of a number that 64 bits hold are read as the number. -/
theorem numberBehindSign_written (negative : Bool) {n : Nat} (h : n < UInt64.size)
    {rest : List UInt8} (hrest : EndsNumber rest) :
    numberBehindSign negative (encode (Nat.repr n).toList ++ rest) =
      .ok (wholeNumber negative n, rest) := by
  rw [Nat.toList_repr]
  by_cases zero : n = 0
  · subst zero
    show numberBehindSign negative (0x30 :: rest) = _
    cases rest with
    | nil => rfl
    | cons b behind =>
      have ended : (digit? b).isSome = false := by
        rw [(hrest b rfl).1]
        rfl
      show (if (digit? b).isSome then _ else behindInteger negative 0 0 (b :: behind)) = _
      rw [ended]
      exact behindInteger_of_endsNumber hrest negative 0
  · obtain ⟨c, cs, hchars, first⟩ := toDigits_eq_cons (Nat.pos_of_ne_zero zero)
    have hdigits : ∀ d ∈ c :: cs, d.isDigit = true := fun d hd =>
      Nat.isDigit_of_mem_toDigits (by omega) (by omega) (hchars ▸ hd)
    obtain ⟨hc, hcs⟩ := List.forall_mem_cons.mp hdigits
    obtain ⟨byte, digit⟩ := digit?_of_isDigit hc
    have low : 48 ≤ c.toNat := (Char.isDigit_iff_toNat.mp hc).1
    have nonzero : c.toNat ≠ 48 := fun same => first (Char.toNat_inj.mp same)
    obtain ⟨d, hd⟩ : ∃ d, c.toNat - 48 = d + 1 := ⟨c.toNat - 49, by omega⟩
    rw [hd] at digit
    have number : Nat.ofDigitChars 10 cs (d + 1) = n := by
      have all := Nat.ofDigitChars_ten_toDigits (n := n)
      rw [hchars, Nat.ofDigitChars_cons, Nat.mul_zero, Nat.zero_add] at all
      exact hd ▸ all
    have fits : Nat.ofDigitChars 10 cs (d + 1) ≤ greatestSignificand :=
      number ▸ Nat.le_pred_of_lt h
    rw [hchars, encode_cons, byte, List.singleton_append, List.cons_append,
      numberBehindSign_cons negative digit (takeDigits_written hcs fits 1 hrest)
        (skipDigits_of_endsNumber hrest), number]
    exact behindInteger_of_endsNumber hrest negative n

end BrokerWiring.Json
