import BrokerWiring.Message.Converter
import BrokerWiring.Proofs.Json.Scalars
import BrokerWiring.Proofs.Json.Ways

/-!
# Written values are read back, up to a depth

A value without floating-point numbers is read back from its text as long as arrays and objects
nest no deeper in it than the reader goes; otherwise the reader stops because of that and for no
other reason. `Takes` says both at once of the text of a part, whatever follows it, and a whole is
taken just if its parts are (`Takes.bind`). So one induction over the value carries both
(`Integral.readsBack`).

A message of the JSON converter therefore holds its payload up to that depth
(`MessageConverter.json_ofMessage_toMessage`). Nothing in the writer knows of a limit.
-/

namespace BrokerWiring.Json

open Utf8 (encode encodeText encode_cons encode_append encodeChar_of_lt)

/-! ## Values without floating-point numbers -/

/-- A value in which every number is an integer that 64 bits hold, with its sign or without one. As
a value it has the names of each object in order. -/
inductive Integral : Json → Prop
  | null : Integral .null
  | bool (b : Bool) : Integral (.bool b)
  | natural {n : Nat} : n < Nat.pow 2 64 → Integral (.number (.natural n))
  | negative {n : Nat} : 0 < n → n ≤ Nat.pow 2 63 → Integral (.number (.negative n))
  | string (s : String) : Integral (.string s)
  | array {items : List Json} : (∀ item ∈ items, Integral item) → Integral (.array items)
  | object {members : List (String × Json)} : Keyed.Ordered members →
      (∀ member ∈ members, Integral member.2) → Integral (.object members)

/-- Inserting members that are in order leaves them as they are. -/
theorem insertAll_of_ordered {members : List (String × Json)} (h : Keyed.Ordered members) :
    Keyed.insertAll members [] = members := by
  refine Keyed.eq_of_lookup (Keyed.ordered_insertAll members Keyed.ordered_nil) h fun key => ?_
  rw [Keyed.lookup_insertAll h, Keyed.lookup_nil, Option.or_none]

theorem valueItems_eq_map (items : List Json) : valueItems items = items.map value := by
  induction items with
  | nil => rfl
  | cons item rest ih => rw [valueItems, ih, List.map_cons]

/-- Such a tree is its own value. -/
theorem Integral.value_eq {json : Json} (h : json.Integral) : json.value = json := by
  induction h with
  | null => rfl
  | bool => rfl
  | natural => rfl
  | negative => rfl
  | string => rfl
  | array _ ih => rw [value, valueItems_eq_map, List.map_congr_left ih, List.map_id']
  | @object members ordered _ ih =>
    have same : ∀ member ∈ members, (member.1, member.2.value) = member := fun member hmember =>
      Prod.ext rfl (ih member hmember)
    rw [value, valueMembers_eq_map, List.map_congr_left same, List.map_id',
      insertAll_of_ordered ordered]

/-! ## Readers that stop at a depth -/

/-- What a reader makes of a written part: it takes it and leaves what follows if the part `fits`,
and else stops because of the depth. -/
structure Takes {α : Type} (fits : Prop) (found : α) (rest : List UInt8)
    (outcome : Except Failure (α × List UInt8)) : Prop where
  ok : fits → outcome = .ok (found, rest)
  error : ¬ fits → ∃ left, outcome = .error ⟨.nestedTooDeep, left⟩

namespace Takes

variable {α β : Type} {fits more : Prop} {found : α} {result : β} {rest behind : List UInt8}
  {outcome : Except Failure (α × List UInt8)}

theorem of_ok (h : outcome = .ok (found, rest)) : Takes True found rest outcome :=
  ⟨fun _ => h, fun no => absurd trivial no⟩

theorem congr (h : Takes fits found rest outcome) (same : more ↔ fits) :
    Takes more found rest outcome :=
  ⟨fun yes => h.ok (same.mp yes), fun no => h.error fun yes => no (same.mpr yes)⟩

theorem map (h : Takes fits found rest outcome) (wrap : α → β) :
    Takes fits (wrap found) rest (outcome.map fun (a, rest) => (wrap a, rest)) where
  ok yes := by
    rw [h.ok yes]
    rfl
  error no := by
    obtain ⟨left, failed⟩ := h.error no
    exact ⟨left, by rw [failed]; rfl⟩

/-- Two parts one behind the other fit if both do. -/
theorem bind {next : α × List UInt8 → Except Failure (β × List UInt8)}
    (h : Takes fits found rest outcome) (hnext : Takes more result behind (next (found, rest))) :
    Takes (fits ∧ more) result behind (outcome >>= next) where
  ok both := by
    rw [h.ok both.1]
    exact hnext.ok both.2
  error no := by
    by_cases first : fits
    · obtain ⟨left, failed⟩ := hnext.error fun second => no ⟨first, second⟩
      exact ⟨left, by rw [h.ok first]; exact failed⟩
    · obtain ⟨left, failed⟩ := h.error first
      exact ⟨left, by rw [failed]; rfl⟩

/-- A part in front of others fits if it does and they do. -/
theorem cons {others : List α} (next : List UInt8 → Except Failure (List α × List UInt8))
    (h : Takes fits found rest outcome) (hnext : Takes more others behind (next rest)) :
    Takes (fits ∧ more) (found :: others) behind (do
      let (first, rest) ← outcome
      let (others, rest) ← next rest
      .ok (first :: others, rest)) := by
  have both : Takes (more ∧ True) (found :: others) behind (do
      let (others, rest) ← next rest
      .ok (found :: others, rest)) := hnext.bind (of_ok rfl)
  exact h.bind (both.congr (iff_of_eq (and_true more).symm))

end Takes

/-! ## Parts of arrays and objects -/

theorem skipBlanks_cons {b : UInt8} (h : isBlank b = false) (rest : List UInt8) :
    skipBlanks (b :: rest) = b :: rest := by
  rw [skipBlanks, List.dropWhile_cons_of_neg (by rw [h]; exact Bool.false_ne_true)]

/-- A byte that a value may begin with: no blank, and not the end of an array. -/
def Begins (b : UInt8) : Prop := isBlank b = false ∧ b ≠ 0x5D

instance : DecidablePred Begins := fun _ => inferInstanceAs (Decidable (_ ∧ _))

/-- How a value is written and read: its text begins as a value does, and whatever follows, it is
taken if it nests no deeper than `depth`. -/
structure ReadsBack (depth : Nat) (json : Json) : Prop where
  begins : ∃ b behind, encode json.chars = b :: behind ∧ Begins b
  takes : ∀ rest, EndsNumber rest →
    Takes (json.depth ≤ depth) json rest (valueWithin depth (encode json.chars ++ rest))

theorem encode_comma (cs : List Char) : encode (',' :: cs) = 0x2C :: encode cs := rfl

theorem endsNumber_items (items : List Json) (rest : List UInt8) :
    EndsNumber (encode (itemsChars items) ++ rest) := by
  cases items <;> (rintro b ⟨⟩; decide)

theorem endsNumber_members (members : List (String × Json)) (rest : List UInt8) :
    EndsNumber (encode (membersChars members) ++ rest) := by
  rcases members with _ | ⟨⟨name, item⟩, others⟩ <;> (rintro b ⟨⟩; decide)

/-- Every item takes at least one byte. -/
theorem length_lt_items (items : List Json) :
    items.length < (encode (itemsChars items)).length := by
  induction items with
  | nil => exact Nat.one_pos
  | cons item rest ih =>
    rw [itemsChars, List.cons_append, encode_comma, encode_append, List.length_cons,
      List.length_cons, List.length_append]
    omega

theorem length_lt_members (members : List (String × Json)) :
    members.length < (encode (membersChars members)).length := by
  induction members with
  | nil => exact Nat.one_pos
  | cons member rest ih =>
    obtain ⟨name, item⟩ := member
    rw [membersChars, List.cons_append, List.cons_append, encode_comma, encode_append,
      encode_append, List.length_cons, List.length_cons, List.length_append, List.length_append]
    omega

/-- The items behind the first one, and the closing bracket. -/
theorem takes_itemsBehind {depth : Nat} {items : List Json}
    (h : ∀ item ∈ items, item.ReadsBack depth) {fuel : Nat} (enough : items.length < fuel)
    (rest : List UInt8) :
    Takes (depthItems items ≤ depth) items rest
      (itemsBehind (valueWithin depth) fuel (encode (itemsChars items) ++ rest)) := by
  induction items generalizing fuel with
  | nil =>
    obtain ⟨left, rfl⟩ : ∃ left, fuel = left + 1 := ⟨fuel - 1, by omega⟩
    exact (Takes.of_ok rfl).congr (iff_true_intro (Nat.zero_le _))
  | cons item others ih =>
    obtain ⟨left, rfl⟩ : ∃ left, fuel = left + 1 := ⟨fuel - 1, by omega⟩
    obtain ⟨hitem, hothers⟩ := List.forall_mem_cons.mp h
    obtain ⟨b, behind, hbytes, blank, closing⟩ := hitem.begins
    have first := hitem.takes (encode (itemsChars others) ++ rest) (endsNumber_items others rest)
    have tail := ih hothers (Nat.lt_of_succ_lt_succ enough)
    have written : encode (itemsChars (item :: others)) ++ rest =
        0x2C :: (encode item.chars ++ (encode (itemsChars others) ++ rest)) := by
      rw [itemsChars, List.cons_append, encode_comma, encode_append, List.cons_append,
        List.append_assoc]
    rw [hbytes, List.cons_append] at first
    rw [written, hbytes, List.cons_append, itemsBehind, skipBlanks_cons (by decide)]
    simp only [skipBlanks_cons blank, if_neg closing]
    exact (first.cons (itemsBehind _ left) tail).congr Nat.max_le

/-- The items between the brackets. -/
theorem takes_items {depth : Nat} {found : List Json} (h : ∀ item ∈ found, item.ReadsBack depth)
    (rest : List UInt8) :
    Takes (depthItems found ≤ depth) found rest
      (items (valueWithin depth) ((encode (chars (.array found))).tail ++ rest)) := by
  cases found with
  | nil => exact (Takes.of_ok rfl).congr (iff_true_intro (Nat.zero_le _))
  | cons item others =>
    obtain ⟨hitem, hothers⟩ := List.forall_mem_cons.mp h
    obtain ⟨b, behind, hbytes, blank, closing⟩ := hitem.begins
    have first := hitem.takes (encode (itemsChars others) ++ rest) (endsNumber_items others rest)
    have enough : others.length < (encode (itemsChars others) ++ rest).length + 1 := by
      have := length_lt_items others
      rw [List.length_append]
      omega
    have inside : (encode (chars (.array (item :: others)))).tail ++ rest =
        encode item.chars ++ (encode (itemsChars others) ++ rest) := by
      rw [chars, List.cons_append, encode_cons, encodeChar_of_lt (by decide),
        List.singleton_append, List.tail_cons, encode_append, List.append_assoc]
    rw [hbytes, List.cons_append] at first
    rw [inside, hbytes, List.cons_append, items, skipBlanks_cons blank]
    show Takes _ _ _ (if b = 0x5D then _ else _)
    rw [if_neg closing]
    exact (first.cons (fun rest => itemsBehind _ (rest.length + 1) rest)
      (takes_itemsBehind hothers enough rest)).congr Nat.max_le

/-- A member behind the opening quote of its name. -/
theorem takes_member {depth : Nat} (name : String) {json : Json} (h : json.ReadsBack depth)
    {rest : List UInt8} (hrest : EndsNumber rest) :
    Takes (json.depth ≤ depth) (name, json) rest
      (member (valueWithin depth) (encode (name.toList.flatMap escaped) ++
        0x22 :: 0x3A :: (encode json.chars ++ rest))) := by
  rw [member, stringText_written]
  have both : Takes (json.depth ≤ depth ∧ True) (name, json) rest
      (valueWithin depth (encode json.chars ++ rest) >>= fun found =>
        .ok ((name, found.1), found.2)) := (h.takes rest hrest).bind (.of_ok rfl)
  exact both.congr (iff_of_eq (and_true _).symm)

theorem encode_stringChars (s : String) :
    encode (stringChars s) = 0x22 :: (encode (s.toList.flatMap escaped) ++ [0x22]) := by
  rw [stringChars, List.cons_append, encode_cons, encode_append]
  rfl

/-- A written member behind the brace or the comma in front of it. -/
theorem encode_member (name : String) (json : Json) (cs : List Char) (rest : List UInt8) :
    encode (stringChars name ++ ':' :: json.chars ++ cs) ++ rest =
      0x22 :: (encode (name.toList.flatMap escaped) ++
        0x22 :: 0x3A :: (encode json.chars ++ (encode cs ++ rest))) := by
  have colon : encode (':' :: json.chars) = 0x3A :: encode json.chars := rfl
  rw [encode_append, encode_append, colon, encode_stringChars]
  simp only [List.cons_append, List.append_assoc, List.nil_append]

/-- The members behind the first one, and the closing brace. -/
theorem takes_membersBehind {depth : Nat} {members : List (String × Json)}
    (h : ∀ member ∈ members, member.2.ReadsBack depth) {fuel : Nat}
    (enough : members.length < fuel) (rest : List UInt8) :
    Takes (depthMembers members ≤ depth) members rest
      (membersBehind (valueWithin depth) fuel (encode (membersChars members) ++ rest)) := by
  induction members generalizing fuel with
  | nil =>
    obtain ⟨left, rfl⟩ : ∃ left, fuel = left + 1 := ⟨fuel - 1, by omega⟩
    exact (Takes.of_ok rfl).congr (iff_true_intro (Nat.zero_le _))
  | cons member others ih =>
    obtain ⟨name, item⟩ := member
    obtain ⟨left, rfl⟩ : ∃ left, fuel = left + 1 := ⟨fuel - 1, by omega⟩
    obtain ⟨hitem, hothers⟩ := List.forall_mem_cons.mp h
    have first := takes_member name hitem (endsNumber_members others rest)
    have tail := ih hothers (Nat.lt_of_succ_lt_succ enough)
    have written : encode (membersChars ((name, item) :: others)) ++ rest =
        0x2C :: (encode (stringChars name ++ ':' :: item.chars ++ membersChars others) ++ rest) :=
      rfl
    rw [written, encode_member, membersBehind, skipBlanks_cons (by decide)]
    exact (first.cons (membersBehind _ left) tail).congr Nat.max_le

/-- The members between the braces. -/
theorem takes_members {depth : Nat} {found : List (String × Json)}
    (h : ∀ member ∈ found, member.2.ReadsBack depth) (rest : List UInt8) :
    Takes (depthMembers found ≤ depth) found rest
      (members (valueWithin depth) ((encode (chars (.object found))).tail ++ rest)) := by
  cases found with
  | nil => exact (Takes.of_ok rfl).congr (iff_true_intro (Nat.zero_le _))
  | cons member others =>
    obtain ⟨name, item⟩ := member
    obtain ⟨hitem, hothers⟩ := List.forall_mem_cons.mp h
    have first := takes_member name hitem (endsNumber_members others rest)
    have enough : others.length < (encode (membersChars others) ++ rest).length + 1 := by
      have := length_lt_members others
      rw [List.length_append]
      omega
    have inside : (encode (chars (.object ((name, item) :: others)))).tail ++ rest =
        encode (stringChars name ++ ':' :: item.chars ++ membersChars others) ++ rest := rfl
    rw [inside, encode_member, Json.members, skipBlanks_cons (by decide)]
    exact (first.cons (fun rest => membersBehind _ (rest.length + 1) rest)
      (takes_membersBehind hothers enough rest)).congr Nat.max_le

/-! ## Values -/

/-- Behind a first byte that opens neither an array nor an object there is a scalar, at any
depth. -/
theorem ReadsBack.of_scalar {json : Json} {b : UInt8} {behind : List UInt8}
    (bytes : encode json.chars = b :: behind) (begins : Begins b) (opens : b ≠ 0x5B ∧ b ≠ 0x7B)
    (flat : json.depth = 0)
    (h : ∀ rest, EndsNumber rest → scalar b (behind ++ rest) = .ok (json, rest)) (depth : Nat) :
    json.ReadsBack depth where
  begins := ⟨b, behind, bytes, begins⟩
  takes rest hrest := by
    have found : valueWithin depth (encode json.chars ++ rest) = .ok (json, rest) := by
      rw [bytes, List.cons_append, valueWithin, skipBlanks_cons begins.1]
      show (if b = 0x5B ∨ b = 0x7B then _ else scalar b (behind ++ rest)) = _
      rw [if_neg (not_or.mpr opens), h rest hrest]
    exact (Takes.of_ok found).congr (iff_true_intro (flat ▸ Nat.zero_le depth))

/-- An array fits into one level more than its items do. -/
theorem takes_array {found : List Json} {nested : Nat} {bytes rest : List UInt8}
    (h : ∀ depth, Takes (nested ≤ depth) found rest (items (valueWithin depth) bytes))
    (depth : Nat) :
    Takes (nested + 1 ≤ depth) (.array found) rest (valueWithin depth (0x5B :: bytes)) := by
  cases depth with
  -- The bracket alone is turned down here, whatever the items are.
  | zero => exact ⟨fun no => absurd no (Nat.not_succ_le_zero nested), fun _ => ⟨_, rfl⟩⟩
  | succ depth => exact ((h depth).map Json.array).congr Nat.succ_le_succ_iff

/-- An object fits into one level more than its members do. -/
theorem takes_object {found : List (String × Json)} {nested : Nat} {bytes rest : List UInt8}
    (h : ∀ depth, Takes (nested ≤ depth) found rest (members (valueWithin depth) bytes))
    (depth : Nat) :
    Takes (nested + 1 ≤ depth) (.object found) rest (valueWithin depth (0x7B :: bytes)) := by
  cases depth with
  | zero => exact ⟨fun no => absurd no (Nat.not_succ_le_zero nested), fun _ => ⟨_, rfl⟩⟩
  | succ depth => exact ((h depth).map Json.object).congr Nat.succ_le_succ_iff

/-- Every such value is read back, at any depth that it fits into. -/
theorem Integral.readsBack {json : Json} (h : json.Integral) :
    ∀ depth, json.ReadsBack depth := by
  induction h with
  | null => exact .of_scalar rfl (by decide) (by decide) rfl fun _ _ => rfl
  | bool b => cases b <;> exact .of_scalar rfl (by decide) (by decide) rfl fun _ _ => rfl
  | @natural n small =>
    obtain ⟨b, behind, bytes, digit⟩ := exists_encode_repr n
    -- The first byte is that of a digit, so it is none of those that tell the other kinds.
    have ne (other : UInt8) (hother : (digit? other).isSome = false) : b ≠ other := by
      rintro rfl
      rw [hother] at digit
      exact Bool.false_ne_true digit
    have blank : isBlank b = false := by
      simp [isBlank, ne 0x20 rfl, ne 0x0A rfl, ne 0x09 rfl, ne 0x0D rfl]
    refine .of_scalar bytes ⟨blank, ne _ rfl⟩ ⟨ne _ rfl, ne _ rfl⟩ rfl fun rest hrest => ?_
    rw [scalar, if_neg (ne _ rfl), if_neg (ne _ rfl), if_neg (ne _ rfl), if_neg (ne _ rfl),
      if_pos digit, ← List.cons_append, ← bytes, numberBehindSign_written false small hrest]
    rfl
  | @negative n positive small =>
    refine .of_scalar rfl (by decide) (by decide) rfl fun rest hrest => ?_
    have whole : wholeNumber true n = .negative n := by
      rw [wholeNumber, if_neg (by decide), if_pos ⟨positive, small⟩]
    show Except.map _ (numberBehindSign true (encode (Nat.repr n).toList ++ rest)) = _
    rw [numberBehindSign_written true (Nat.lt_of_le_of_lt small (by decide)) hrest, whole]
    rfl
  | string s =>
    refine .of_scalar (encode_stringChars s) (by decide) (by decide) rfl fun rest _ => ?_
    rw [List.append_assoc, List.singleton_append]
    show Except.map _ (stringText _) = _
    rw [stringText_written]
    rfl
  | @array items _ ih =>
    have bytes : encode (chars (.array items)) = 0x5B :: (encode (chars (.array items))).tail := by
      cases items <;> rfl
    refine fun depth => ⟨⟨_, _, bytes, by decide⟩, fun rest _ => ?_⟩
    rw [bytes, List.cons_append]
    exact takes_array (fun depth => takes_items (fun item hitem => ih item hitem depth) rest) depth
  | @object members _ _ ih =>
    have bytes : encode (chars (.object members)) =
        0x7B :: (encode (chars (.object members))).tail := by
      rcases members with _ | ⟨⟨name, item⟩, others⟩ <;> rfl
    refine fun depth => ⟨⟨_, _, bytes, by decide⟩, fun rest _ => ?_⟩
    rw [bytes, List.cons_append]
    exact takes_object
      (fun depth => takes_members (fun member hmember => ih member hmember depth) rest) depth

/-! ## Whole texts -/

theorem encodeText_text (json : Json) : encodeText json.text = encode json.chars := by
  rw [encodeText, text, String.toList_ofList]

/-- The text of such a value is read as the value if it nests no deeper than the limit. -/
theorem Integral.read_text {json : Json} (h : json.Integral) (shallow : json.depth ≤ depthLimit) :
    read (encodeText json.text) = .ok json := by
  have taken := ((h.readsBack depthLimit).takes [] (by rintro b ⟨⟩)).ok shallow
  rw [List.append_nil] at taken
  rw [encodeText_text, read, written, taken]
  exact congrArg Except.ok h.value_eq

/-- Otherwise the reader stops because it nests too deep. -/
theorem Integral.read_text_of_deep {json : Json} (h : json.Integral)
    (deep : ¬ json.depth ≤ depthLimit) :
    ∃ fault, read (encodeText json.text) = .error fault ∧ fault.flaw = .nestedTooDeep := by
  obtain ⟨left, failed⟩ := ((h.readsBack depthLimit).takes [] (by rintro b ⟨⟩)).error deep
  rw [List.append_nil] at failed
  rw [encodeText_text, read, written, failed]
  exact ⟨_, rfl, rfl⟩

/-- A scalar inside so many arrays. -/
def nested : Nat → Json
  | 0 => .null
  | n + 1 => .array [nested n]

theorem depth_nested (n : Nat) : (nested n).depth = n := by
  induction n with
  | zero => rfl
  | succ n ih =>
    show max (nested n).depth 0 + 1 = n + 1
    rw [ih, Nat.max_zero]

theorem integral_nested (n : Nat) : (nested n).Integral := by
  induction n with
  | zero => exact .null
  | succ n ih => exact .array fun item hitem => List.mem_singleton.mp hitem ▸ ih

end BrokerWiring.Json

namespace BrokerWiring.MessageConverter

/-- A payload without floating-point numbers always becomes a JSON message, and is found in it
again just if it nests at most 127 deep; else the message is turned down for its depth. -/
theorem json_ofMessage_toMessage {payload : Json} (h : payload.Integral) :
    ∃ message, json.toMessage payload = .ok message ∧
      message.contentType = "application/json" ∧
      (json.ofMessage message = .ok payload ↔ payload.depth ≤ 127) ∧
      (¬ payload.depth ≤ 127 → ∃ fault, json.ofMessage message = .error (.malformedJson fault) ∧
        fault.flaw = .nestedTooDeep) := by
  have turned (deep : ¬ payload.depth ≤ 127) : ∃ fault,
      jsonPayload ⟨Utf8.encodeText payload.text, jsonDocument⟩ = .error (.malformedJson fault) ∧
        fault.flaw = .nestedTooDeep := by
    obtain ⟨fault, failed, flaw⟩ := h.read_text_of_deep deep
    exact ⟨fault, congrArg (Except.mapError BrokerError.malformedJson) failed, flaw⟩
  refine ⟨_, rfl, rfl, ⟨fun found => ?_, fun shallow => ?_⟩, turned⟩
  · by_contra deep
    obtain ⟨fault, failed, -⟩ := turned deep
    exact absurd (found.symm.trans failed) (by rintro ⟨⟩)
  · exact congrArg (Except.mapError BrokerError.malformedJson) (h.read_text shallow)

/-- Odd names and texts, the integers at both ends and containers without content. -/
def oddities : Json :=
  .object [("", .array []), ("a\"\\\n\u0001é😀", .array [.number (.natural (Nat.pow 2 64 - 1)),
    .number (.negative (Nat.pow 2 63)), .object []]), ("z", .string "\u2028\u0000")]

theorem integral_oddities : oddities.Integral := by
  refine .object (by decide) ?_
  simp only [List.forall_mem_cons]
  refine ⟨.array (by simp), .array ?_, .string _, by simp⟩
  simp only [List.forall_mem_cons]
  exact ⟨.natural (by decide), .negative (by decide) (by decide), .object (by decide) (by simp),
    by simp⟩

/-- The oddities are found again, a scalar inside 127 arrays is, and inside 128 it is not. -/
theorem json_ofMessage_toMessage_oddities :
    (∃ message, json.toMessage oddities = .ok message ∧
      json.ofMessage message = .ok oddities) ∧
    (∃ message, json.toMessage (.nested 127) = .ok message ∧
      json.ofMessage message = .ok (.nested 127)) ∧
    ∃ message fault, json.toMessage (.nested 128) = .ok message ∧
      json.ofMessage message = .error (.malformedJson fault) := by
  obtain ⟨message, sent, -, found, -⟩ := json_ofMessage_toMessage integral_oddities
  obtain ⟨low, lowSent, -, lowFound, -⟩ := json_ofMessage_toMessage (Json.integral_nested 127)
  obtain ⟨high, highSent, -, -, turned⟩ := json_ofMessage_toMessage (Json.integral_nested 128)
  have shallow : oddities.depth ≤ 127 := by decide
  rw [Json.depth_nested] at lowFound turned
  obtain ⟨fault, failed, -⟩ := turned (by decide)
  exact ⟨⟨message, sent, found.mpr shallow⟩, ⟨low, lowSent, lowFound.mpr (Nat.le_refl 127)⟩,
    high, fault, highSent, failed⟩

end BrokerWiring.MessageConverter
