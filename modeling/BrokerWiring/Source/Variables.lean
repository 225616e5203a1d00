import BrokerWiring.Text.Utf8

/-!
# Environment variables

An environment is a list of variables with their values, each name once. A variable that is set
anew keeps its place. A process is given its environment as one block of bytes: a zero byte ends
each variable, and the first equals sign behind at least one byte parts its name from its value.
What has no such sign is no variable.
-/

namespace BrokerWiring.Source

/-! ## Assignment -/

/-- Sets a variable: one that is there keeps its place, a new one comes last. -/
def assign (name value : String) : List (String × String) → List (String × String)
  | [] => [(name, value)]
  | (other, old) :: rest =>
    if other = name then (name, value) :: rest else (other, old) :: assign name value rest

/-- Sets variables one after another. -/
def assignAll (assignments environment : List (String × String)) : List (String × String) :=
  assignments.foldl (fun acc pair => assign pair.1 pair.2 acc) environment

/-- Assignment changes the value of its own variable and of no other. -/
theorem lookup_assign (name value other : String) (environment : List (String × String)) :
    (assign name value environment).lookup other =
      if other = name then some value else environment.lookup other := by
  induction environment with
  | nil =>
    by_cases h : other = name
    · simp [assign, h]
    · simp [assign, List.lookup_cons, h, beq_eq_false_iff_ne.mpr h]
  | cons entry rest ih =>
    obtain ⟨n, v⟩ := entry
    by_cases hn : n = name
    · subst hn
      by_cases h : other = n
      · simp [assign, h]
      · simp [assign, List.lookup_cons, h, beq_eq_false_iff_ne.mpr h]
    · by_cases h : other = n
      · subst h
        simp [assign, hn]
      · rw [assign, if_neg hn, List.lookup_cons, List.lookup_cons, ih,
          beq_eq_false_iff_ne.mpr h]

/-! ## Blocks -/

/-- The parts of a block that zero bytes end. -/
def blockParts : List UInt8 → List (List UInt8)
  | [] => []
  | 0 :: rest => [] :: blockParts rest
  | byte :: rest =>
    match blockParts rest with
    | [] => [[byte]]
    | part :: parts => (byte :: part) :: parts

/-- The name and the value of a variable. -/
def variableOf? : List UInt8 → Option (String × String)
  | [] => none
  | first :: rest =>
    let name := first :: rest.takeWhile (· != 61)
    match rest.dropWhile (· != 61) with
    | [] => none
    | _ :: value =>
      match Utf8.decodeText name, Utf8.decodeText value with
      | .ok name, .ok value => some (name, value)
      | _, _ => none

/-- The variables of a block, in its order. -/
def environmentOf (block : List UInt8) : List (String × String) :=
  (blockParts block).filterMap variableOf?

/-- Every part that a zero byte ends is a part, also an empty one. -/
theorem blockParts_append (part rest : List UInt8) (h : 0 ∉ part) :
    blockParts (part ++ 0 :: rest) = part :: blockParts rest := by
  induction part with
  | nil => rfl
  | cons byte part ih =>
    have hne : byte ≠ 0 := fun e => h (e ▸ List.mem_cons_self)
    have hrest : 0 ∉ part := fun m => h (List.mem_cons_of_mem _ m)
    simp only [List.cons_append]
    simp [blockParts, ih hrest]

end BrokerWiring.Source
