/-!
# Arguments of the program

Arguments are read one after another, and the first one that asks for help or is an unknown flag
decides. Whatever is not a flag is an entry; a single dash does not make a flag.
-/

namespace BrokerWiring.CommandLine

/-- How the program is used. -/
def usage : String := "usage: rabbit-autoconfig [--connect] [key=value ...]"

/-- What the program is asked to do. -/
inductive Command where
  | help
  | unknownFlag (flag : String)
  /-- To wire a client with entries on top of the other properties, and perhaps to check that the
  broker can be reached. -/
  | wire (connect : Bool) (entries : List String)
  deriving Repr, DecidableEq

/-- The command behind the arguments that have been read. -/
def Command.behind (connect : Bool) (entries : List String) : List String → Command
  | [] => .wire connect entries
  | argument :: rest =>
    if argument = "--connect" then behind true entries rest
    else if argument = "-h" ∨ argument = "--help" then .help
    else if argument.startsWith "--" then .unknownFlag argument
    else behind connect (entries ++ [argument]) rest

/-- The command that arguments spell. -/
def Command.ofArguments (arguments : List String) : Command := behind false [] arguments

/-! ## Arguments that ask for a client -/

/-- An argument is no flag and does not ask for help. -/
def IsEntry (argument : String) : Prop := argument ≠ "-h" ∧ argument.startsWith "--" = false

instance (argument : String) : Decidable (IsEntry argument) :=
  inferInstanceAs (Decidable (_ ∧ _))

/-- No argument asks for help, and none is a flag but the one for a connection. -/
def AsksToWire (arguments : List String) : Prop :=
  ∀ argument ∈ arguments, argument = "--connect" ∨ IsEntry argument

instance (arguments : List String) : Decidable (AsksToWire arguments) :=
  inferInstanceAs (Decidable (∀ argument ∈ arguments, _ ∨ _))

/-- The entries among arguments. -/
def entriesOf (arguments : List String) : List String := arguments.filter (· ≠ "--connect")

theorem not_isEntry_of_help {argument : String} (h : argument = "-h" ∨ argument = "--help") :
    ¬IsEntry argument := by
  rintro ⟨notShort, unflagged⟩
  rcases h with rfl | rfl
  · exact notShort rfl
  · revert unflagged
    decide +kernel

theorem asksToWire_cons {argument : String} {rest : List String} :
    AsksToWire (argument :: rest) ↔
      (argument = "--connect" ∨ IsEntry argument) ∧ AsksToWire rest :=
  List.forall_mem_cons

namespace Command

/-- What is read first decides unless it is the flag for a connection or an entry. -/
theorem behind_cons_eq_wire_iff {connect connects : Bool} {entries all rest : List String}
    {argument : String} (other : argument ≠ "--connect") :
    behind connect entries (argument :: rest) = .wire connects all ↔
      IsEntry argument ∧ behind connect (entries ++ [argument]) rest = .wire connects all := by
  rw [behind, if_neg other]
  by_cases helping : argument = "-h" ∨ argument = "--help"
  · rw [if_pos helping]
    exact ⟨nofun, fun h => absurd h.1 (not_isEntry_of_help helping)⟩
  · rw [if_neg helping]
    cases flagged : argument.startsWith "--" with
    | true =>
      have noEntry : ¬IsEntry argument := fun h => Bool.noConfusion (flagged.symm.trans h.2)
      exact ⟨nofun, fun h => absurd h.1 noEntry⟩
    | false =>
      have entry : IsEntry argument := ⟨fun h => helping (.inl h), flagged⟩
      rw [if_neg Bool.false_ne_true]
      exact (and_iff_right entry).symm

theorem behind_eq_wire_iff {connect connects : Bool} {entries all arguments : List String} :
    behind connect entries arguments = .wire connects all ↔
      AsksToWire arguments ∧ connects = (connect || arguments.contains "--connect") ∧
        all = entries ++ entriesOf arguments := by
  induction arguments generalizing connect entries with
  | nil =>
    have asks : AsksToWire [] := List.forall_mem_nil _
    rw [behind, wire.injEq, entriesOf, List.filter_nil, List.append_nil, List.contains_nil,
      Bool.or_false, and_iff_right asks, eq_comm, eq_comm (a := entries)]
  | cons argument rest ih =>
    rw [asksToWire_cons, entriesOf, List.filter_cons, List.contains_cons]
    by_cases connecting : argument = "--connect"
    · subst connecting
      rw [behind, if_pos rfl, ih, if_neg (by simp), entriesOf]
      simp
    · have different : ("--connect" == argument) = false := beq_false_of_ne (Ne.symm connecting)
      rw [behind_cons_eq_wire_iff connecting, ih, if_pos (by simpa using connecting), different,
        or_iff_right connecting, Bool.false_or, List.append_assoc, List.singleton_append, entriesOf,
        and_assoc]

/-- The entries of arguments that ask for a client are all of them but the flag. -/
theorem ofArguments_eq_wire_iff {connect : Bool} {entries arguments : List String} :
    ofArguments arguments = .wire connect entries ↔
      AsksToWire arguments ∧ connect = arguments.contains "--connect" ∧
        entries = entriesOf arguments := by
  rw [ofArguments, behind_eq_wire_iff, Bool.false_or, List.nil_append]

end Command

end BrokerWiring.CommandLine
