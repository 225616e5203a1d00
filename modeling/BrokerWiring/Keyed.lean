/-!
# Key-ordered association lists

A list of entries in strictly increasing order of their keys holds each key at most once, so two
such lists are equal as soon as every look-up agrees (`eq_of_lookup`). Keys are texts in the order
of their code points, which is also the order of their UTF-8 bytes. Insertion replaces the entry of
a key that is already there; `lookup_insert` says that it changes nothing else. `replace` does the
same and gives the old value as well (`replace_eq`).
-/

namespace BrokerWiring.Keyed

universe u
variable {α : Type u}

/-- Entries in strictly increasing order of their keys. -/
def Ordered (entries : List (String × α)) : Prop :=
  entries.Pairwise fun a b => a.1 < b.1

instance (entries : List (String × α)) : Decidable (Ordered entries) :=
  inferInstanceAs (Decidable (entries.Pairwise fun a b => a.1 < b.1))

/-- The value at a key. -/
def lookup (key : String) : List (String × α) → Option α
  | [] => none
  | (k, value) :: rest => if key = k then some value else lookup key rest

/-- Puts a value at a key, in place of the one that was there. -/
def insert (key : String) (value : α) : List (String × α) → List (String × α)
  | [] => [(key, value)]
  | (k, old) :: rest =>
    if key = k then (key, value) :: rest
    else if key < k then (key, value) :: (k, old) :: rest
    else (k, old) :: insert key value rest

/-- Puts a value at a key and gives the one that was there, in one pass. -/
def replace (key : String) (value : α) : List (String × α) → Option α × List (String × α)
  | [] => (none, [(key, value)])
  | (k, old) :: rest =>
    if key = k then (some old, (key, value) :: rest)
    else if key < k then (none, (key, value) :: (k, old) :: rest)
    else
      let (old?, rest) := replace key value rest
      (old?, (k, old) :: rest)

/-- The entries inserted one after another, so that the last one of a key stays. -/
def insertAll (entries : List (String × α)) (into : List (String × α)) : List (String × α) :=
  entries.foldl (fun acc entry => insert entry.1 entry.2 acc) into

/-! ## Look-up -/

@[simp] theorem lookup_nil (key : String) : lookup key ([] : List (String × α)) = none := rfl

/-- Insertion changes the look-up of its own key and of no other. -/
theorem lookup_insert (key other : String) (value : α) (entries : List (String × α)) :
    lookup other (insert key value entries) =
      if other = key then some value else lookup other entries := by
  induction entries with
  | nil => simp [insert, lookup]
  | cons entry rest ih =>
    obtain ⟨k, old⟩ := entry
    by_cases hk : key = k
    · subst hk
      by_cases ho : other = key <;> simp [insert, lookup, ho]
    · by_cases hlt : key < k
      · by_cases ho : other = key <;> simp [insert, lookup, hk, hlt, ho]
      · by_cases ho : other = k
        · subst ho
          have : other ≠ key := fun h => hk h.symm
          simp [insert, lookup, hk, hlt, this]
        · simp [insert, lookup, hk, hlt, ho, ih]

theorem mem_insert {key : String} {value : α} {entries : List (String × α)}
    {entry : String × α} (h : entry ∈ insert key value entries) :
    entry = (key, value) ∨ entry ∈ entries := by
  induction entries with
  | nil => simpa [insert] using h
  | cons head rest ih =>
    obtain ⟨k, old⟩ := head
    by_cases hk : key = k
    · simp only [insert, if_pos hk, List.mem_cons] at h
      exact h.imp_right (List.mem_cons_of_mem _)
    · by_cases hlt : key < k
      · simpa [insert, hk, hlt] using h
      · simp only [insert, if_neg hk, if_neg hlt, List.mem_cons] at h
        rcases h with h | h
        · exact .inr (List.mem_cons.mpr (.inl h))
        · exact (ih h).imp_right (List.mem_cons_of_mem _)

/-! ## Order -/

theorem ordered_nil : Ordered ([] : List (String × α)) := List.Pairwise.nil

theorem ordered_insert (key : String) (value : α) {entries : List (String × α)}
    (h : Ordered entries) : Ordered (insert key value entries) := by
  induction entries with
  | nil => simp [Ordered, insert]
  | cons head rest ih =>
    obtain ⟨k, old⟩ := head
    obtain ⟨hhead, htail⟩ := List.pairwise_cons.mp h
    by_cases hk : key = k
    · subst hk
      simp only [insert, if_true]
      exact List.pairwise_cons.mpr ⟨hhead, htail⟩
    · by_cases hlt : key < k
      · simp only [insert, if_neg hk, if_pos hlt]
        refine List.pairwise_cons.mpr ⟨fun entry hmem => ?_, h⟩
        rcases List.mem_cons.mp hmem with rfl | hmem
        · exact hlt
        · exact String.lt_trans hlt (hhead entry hmem)
      · simp only [insert, if_neg hk, if_neg hlt]
        refine List.pairwise_cons.mpr ⟨fun entry hmem => ?_, ih htail⟩
        rcases mem_insert hmem with rfl | hmem
        · rcases Std.lt_trichotomy key k with h' | h' | h'
          · exact absurd h' hlt
          · exact absurd h' hk
          · exact h'
        · exact hhead entry hmem

theorem mem_insertAll {entries into : List (String × α)} {entry : String × α}
    (h : entry ∈ insertAll entries into) : entry ∈ entries ∨ entry ∈ into := by
  induction entries generalizing into with
  | nil => exact .inr h
  | cons head rest ih =>
    rcases ih h with h | h
    · exact .inl (List.mem_cons_of_mem _ h)
    · rcases mem_insert h with rfl | h
      · exact .inl List.mem_cons_self
      · exact .inr h

theorem ordered_insertAll (entries : List (String × α)) {into : List (String × α)}
    (h : Ordered into) : Ordered (insertAll entries into) := by
  induction entries generalizing into with
  | nil => exact h
  | cons entry rest ih => exact ih (ordered_insert entry.1 entry.2 h)

/-! ## Look-up in order -/

theorem lookup_eq_none_of_lt {key : String} {entries : List (String × α)}
    (h : ∀ entry ∈ entries, key < entry.1) : lookup key entries = none := by
  induction entries with
  | nil => rfl
  | cons head rest ih =>
    have hne : key ≠ head.1 := fun same => String.lt_irrefl _ (same ▸ h head List.mem_cons_self)
    rw [lookup, if_neg hne]
    exact ih fun entry hentry => h entry (List.mem_cons_of_mem _ hentry)

/-- A look-up finds the entry of its key. -/
theorem lookup_eq_some_iff {key : String} {value : α} {entries : List (String × α)}
    (h : Ordered entries) : lookup key entries = some value ↔ (key, value) ∈ entries := by
  induction entries with
  | nil => simp
  | cons head rest ih =>
    obtain ⟨k, old⟩ := head
    obtain ⟨hhead, htail⟩ := List.pairwise_cons.mp h
    by_cases hk : key = k
    · subst hk
      have absent : (key, value) ∉ rest := fun hmem => String.lt_irrefl key (hhead _ hmem)
      simp [lookup, absent, eq_comm]
    · simp [lookup, hk, ih htail]

/-- No key comes twice. -/
theorem nodup_keys {entries : List (String × α)} (h : Ordered entries) :
    (entries.map (·.1)).Nodup := by
  refine List.pairwise_map.mpr (h.imp fun {a b} hlt same => ?_)
  rw [same] at hlt
  exact String.lt_irrefl _ hlt

/-- The pass that replaces comes past the old value if there is one: in entries in order it need not
look behind the place of the key. -/
theorem replace_eq (key : String) (value : α) {entries : List (String × α)}
    (h : Ordered entries) :
    replace key value entries = (lookup key entries, insert key value entries) := by
  induction entries with
  | nil => rfl
  | cons head rest ih =>
    obtain ⟨k, old⟩ := head
    obtain ⟨hhead, htail⟩ := List.pairwise_cons.mp h
    by_cases hk : key = k
    · simp [replace, lookup, insert, hk]
    · by_cases hlt : key < k
      · have absent : lookup key rest = none := by
          apply lookup_eq_none_of_lt
          intro entry hentry
          exact String.lt_trans hlt (hhead entry hentry)
        simp [replace, lookup, insert, hk, hlt, absent]
      · simp [replace, lookup, insert, hk, hlt, ih htail]

theorem ordered_replace (key : String) (value : α) {entries : List (String × α)}
    (h : Ordered entries) : Ordered (replace key value entries).2 := by
  rw [replace_eq key value h]
  exact ordered_insert key value h

/-- Two lists in order are the same as soon as every look-up agrees. -/
theorem eq_of_lookup {a b : List (String × α)} (ha : Ordered a) (hb : Ordered b)
    (h : ∀ key, lookup key a = lookup key b) : a = b := by
  have antisymm (x y : String × α) (_ : x ∈ a) (_ : y ∈ b) (hxy : x.1 < y.1) (hyx : y.1 < x.1) :
      x = y := absurd hyx (String.lt_asymm hxy)
  refine List.Perm.eq_of_pairwise antisymm ha hb ?_
  have distinct {entries : List (String × α)} (h : Ordered entries) : entries.Nodup :=
    (List.pairwise_map.mp (nodup_keys h)).imp fun {x y} hne same => hne (congrArg Prod.fst same)
  rw [List.perm_ext_iff_of_nodup (distinct ha) (distinct hb)]
  rintro ⟨key, value⟩
  rw [← lookup_eq_some_iff ha, ← lookup_eq_some_iff hb, h]

/-- Entries inserted into others come first in a look-up. -/
theorem lookup_insertAll {entries into : List (String × α)} (h : Ordered entries) (key : String) :
    lookup key (insertAll entries into) = (lookup key entries).or (lookup key into) := by
  induction entries generalizing into with
  | nil => rfl
  | cons head rest ih =>
    obtain ⟨k, value⟩ := head
    obtain ⟨hhead, htail⟩ := List.pairwise_cons.mp h
    show lookup key (insertAll rest (insert k value into)) = _
    rw [ih htail, lookup_insert, lookup]
    by_cases hk : key = k
    · -- The head is the only one of its key.
      subst hk
      rw [if_pos rfl, if_pos rfl, lookup_eq_none_of_lt hhead]
      rfl
    · rw [if_neg hk, if_neg hk]

/-! ## Entries in any order -/

/-- Insertion puts the new entry in place of the one that a look-up finds, among entries that stay
as they are. -/
theorem exists_perm_insert (key : String) {entries : List (String × α)} (h : Ordered entries) :
    ∃ others, entries.Perm ((lookup key entries).toList.map ((key, ·)) ++ others) ∧
      ∀ value, (insert key value entries).Perm ((key, value) :: others) := by
  induction entries with
  | nil => exact ⟨[], .rfl, fun _ => .rfl⟩
  | cons head rest ih =>
    obtain ⟨k, old⟩ := head
    obtain ⟨hhead, htail⟩ := List.pairwise_cons.mp h
    by_cases hk : key = k
    · subst hk
      refine ⟨rest, ?_, fun value => ?_⟩
      · rw [lookup, if_pos rfl]
        exact .rfl
      · rw [insert, if_pos rfl]
    · by_cases hlt : key < k
      · -- What comes first is greater, so the key is not there.
        have absent : lookup key ((k, old) :: rest) = none := by
          refine lookup_eq_none_of_lt fun entry hentry => ?_
          rcases List.mem_cons.mp hentry with rfl | hentry
          · exact hlt
          · exact String.lt_trans hlt (hhead entry hentry)
        refine ⟨(k, old) :: rest, ?_, fun value => ?_⟩
        · rw [absent]
          exact .rfl
        · rw [insert, if_neg hk, if_pos hlt]
      · obtain ⟨others, hold, hnew⟩ := ih htail
        refine ⟨(k, old) :: others, ?_, fun value => ?_⟩
        · rw [lookup, if_neg hk]
          exact (hold.cons _).trans List.perm_middle.symm
        · rw [insert, if_neg hk, if_neg hlt]
          exact ((hnew value).cons _).trans (.swap ..)

end BrokerWiring.Keyed
