import Mathlib.Data.List.Basic
import Mathlib.Data.List.Induction
import BrokerWiring.Listener.AckBatch

/-!
# Every delivery is settled once

What a batch hands over settles everything recorded since it last handed something over. A ledger
keeps account of that from outside, by the calls and their answers alone: the groups that were
settled, and the deliveries that still wait. A batch agrees with its ledger at every point of every
history (`Account.step`, `Account.run`), so the groups of a history that ends with a flush are all
that was recorded, each is settled by its last delivery, and none is larger than a full batch
(`settlesOnce_turns`).
-/

namespace BrokerWiring.AckBatch

variable {α : Type}

/-! ## Ledgers -/

/-- The number of deliveries in a full batch: as many as a transaction has, or as the prefetch
window has if there is one and it is smaller, but at least one. -/
def fullSize (txSize : UInt32) (prefetch? : Option UInt16) : Nat :=
  max 1 ((prefetch?.filter (· ≠ 0)).elim txSize.toNat fun window => min txSize.toNat window.toNat)

/-- The delivery that a step records. -/
def Step.recorded? : Step α → Option α
  | .record delivery => some delivery
  | .flush => none

/-- The deliveries that are settled together: all of them, the step that settled them, and what it
handed over. -/
structure Group (α : Type) where
  members : List α
  closing : Step α
  handed : α

/-- The groups that were settled, and the deliveries recorded since. -/
structure Ledger (α : Type) where
  groups : List (Group α)
  waiting : List α

/-- Takes down a step and its answer. Whatever is handed over settles all that waits. -/
def Ledger.enter (ledger : Ledger α) (turn : Step α × Option α) : Ledger α :=
  let waiting := ledger.waiting ++ turn.1.recorded?.toList
  match turn.2 with
  | none => ⟨ledger.groups, waiting⟩
  | some handed => ⟨ledger.groups ++ [⟨waiting, turn.1, handed⟩], []⟩

/-- The ledger of steps and their answers. -/
def ledger (turns : List (Step α × Option α)) : Ledger α := turns.foldl Ledger.enter ⟨[], []⟩

/-- The steps of a history with what each of them hands over. -/
def turns (batch : AckBatch α) (steps : List (Step α)) : List (Step α × Option α) :=
  steps.zip ((batch.run steps).map (·.1))

/-- The batch behind a history. -/
def behind (batch : AckBatch α) (steps : List (Step α)) : AckBatch α :=
  steps.foldl (fun batch s => (batch.step s).2) batch

/-- A group is settled by its last delivery. A record settles a full group, a flush one that is not
full and not empty. -/
structure Group.Settled (size : Nat) (group : Group α) : Prop where
  last : group.members.getLast? = some group.handed
  full : ∀ delivery, group.closing = .record delivery → group.members.length = size
  flushed : group.closing = .flush → 1 ≤ group.members.length ∧ group.members.length ≤ size - 1

/-- Steps and their answers settle every delivery once, in groups of at most `size`. -/
structure SettlesOnce (size : Nat) (turns : List (Step α × Option α)) : Prop where
  /-- The groups cut what was recorded into pieces, with nothing left over. -/
  covered : (ledger turns).groups.flatMap (·.members) = turns.filterMap (·.1.recorded?)
  settled : ∀ group ∈ (ledger turns).groups, group.Settled size
  /-- Every answer that hands something over has its group. -/
  handed : (ledger turns).groups.map (·.handed) = turns.filterMap (·.2)
  /-- A flush hands over nothing just if nothing waits. -/
  idle : ∀ before handed? after, turns = before ++ (.flush, handed?) :: after →
    (handed? = none ↔ (ledger before).waiting = [])

/-! ## Histories -/

theorem turns_cons (batch : AckBatch α) (s : Step α) (rest : List (Step α)) :
    batch.turns (s :: rest) = (s, (batch.step s).1) :: (batch.step s).2.turns rest := rfl

theorem turns_append (batch : AckBatch α) (before after : List (Step α)) :
    batch.turns (before ++ after) = batch.turns before ++ (batch.behind before).turns after := by
  induction before generalizing batch with
  | nil => rfl
  | cons s before ih =>
    rw [List.cons_append, turns_cons, turns_cons, ih, List.cons_append]
    rfl

theorem map_fst_turns (batch : AckBatch α) (steps : List (Step α)) :
    (batch.turns steps).map (·.1) = steps := by
  induction steps generalizing batch with
  | nil => rfl
  | cons s rest ih => rw [turns_cons, List.map_cons, ih]

/-- A turn of a history is the answer of the batch behind the steps before it. -/
theorem exists_of_turns_eq {batch : AckBatch α} {steps : List (Step α)}
    {before after : List (Step α × Option α)} {s : Step α} {handed? : Option α}
    (h : batch.turns steps = before ++ (s, handed?) :: after) :
    before = batch.turns (before.map (·.1)) ∧
      handed? = ((batch.behind (before.map (·.1))).step s).1 := by
  have steps_eq : steps = before.map (·.1) ++ s :: after.map (·.1) := by
    rw [← batch.map_fst_turns steps, h, List.map_append, List.map_cons]
  rw [steps_eq, turns_append, turns_cons] at h
  have same_length : (batch.turns (before.map (·.1))).length = before.length := by
    rw [← List.length_map (·.1), map_fst_turns, List.length_map]
  obtain ⟨hbefore, hturn⟩ := List.append_inj h same_length
  exact ⟨hbefore.symm, congrArg Prod.snd (List.cons.inj hturn).1.symm⟩

/-! ## What a ledger holds -/

/-- A ledger has every delivery once, settled or waiting, and every answer. -/
theorem ledger_complete (turns : List (Step α × Option α)) :
    (ledger turns).groups.flatMap (·.members) ++ (ledger turns).waiting =
        turns.filterMap (·.1.recorded?) ∧
      (ledger turns).groups.map (·.handed) = turns.filterMap (·.2) := by
  induction turns using List.reverseRecOn with
  | nil => exact ⟨rfl, rfl⟩
  | append_singleton turns turn ih =>
    obtain ⟨covered, handed⟩ := ih
    obtain ⟨s, handed?⟩ := turn
    have entered : ledger (turns ++ [(s, handed?)]) = (ledger turns).enter (s, handed?) :=
      List.foldl_concat ..
    rw [entered, List.filterMap_append, List.filterMap_append, ← covered, ← handed]
    cases s <;> cases handed? <;> simp [Ledger.enter, Step.recorded?]

/-! ## A batch and its ledger -/

/-- A batch agrees with a ledger: it counts what waits, has the last of that, and has room for
more. -/
structure Account (size : Nat) (batch : AckBatch α) (ledger : Ledger α) : Prop where
  size_eq : batch.size.toNat = size
  pending_eq : batch.pending.toNat = ledger.waiting.length
  latest_eq : batch.latest? = ledger.waiting.getLast?
  room : ledger.waiting.length < size
  settled : ∀ group ∈ ledger.groups, group.Settled size

theorem toNat_sizeFor (txSize : UInt32) (prefetch? : Option UInt16) :
    (sizeFor txSize prefetch?).toNat = fullSize txSize prefetch? := by
  have toNat_max (a : UInt32) : (max a 1).toNat = max 1 a.toNat := by
    rw [UInt32.toNat_max]
    exact Nat.max_comm ..
  unfold sizeFor fullSize
  rw [toNat_max]
  cases prefetch? with
  | none => rfl
  | some window =>
    by_cases unlimited : window = 0
    · subst unlimited
      rfl
    · have limited : 0 < window := UInt16.pos_iff_ne_zero.mpr unlimited
      have kept : (some window).filter (· ≠ 0) = some window := by simp [unlimited]
      simp only [kept, if_pos limited, Option.elim_some, UInt32.toNat_min, UInt16.toNat_toUInt32]

namespace Account

variable {size : Nat} {batch : AckBatch α} {ledger : Ledger α}

theorem start (txSize : UInt32) (prefetch? : Option UInt16) :
    Account (fullSize txSize prefetch?) (AckBatch.start txSize prefetch? : AckBatch α)
      ⟨[], []⟩ where
  size_eq := toNat_sizeFor txSize prefetch?
  pending_eq := rfl
  latest_eq := rfl
  room := Nat.lt_of_lt_of_le Nat.zero_lt_one (Nat.le_max_left _ _)
  settled := nofun

/-- The count of what waits does not overflow, for it stays below the size. -/
theorem pending_succ (h : Account size batch ledger) :
    (batch.pending + 1).toNat = ledger.waiting.length + 1 := by
  have bound : batch.size.toNat < 2 ^ 32 := batch.size.toNat_lt
  have hsize := h.size_eq
  have hpending := h.pending_eq
  have room := h.room
  rw [UInt32.toNat_add, hpending]
  show (ledger.waiting.length + 1) % 2 ^ 32 = _
  omega

/-- A group that is settled is added to those that were. -/
theorem settled_concat (h : Account size batch ledger) {group : Group α}
    (hgroup : group.Settled size) : ∀ other ∈ ledger.groups ++ [group], other.Settled size := by
  intro other hother
  rcases List.mem_append.mp hother with hother | hother
  · exact h.settled other hother
  · rw [List.mem_singleton.mp hother]
    exact hgroup

theorem record (h : Account size batch ledger) (delivery : α) :
    Account size (batch.record delivery).2
      (ledger.enter (.record delivery, (batch.record delivery).1)) := by
  have counted := h.pending_succ
  have room := h.room
  by_cases full : batch.size ≤ batch.pending + 1
  · -- The batch is full with this delivery, which settles all that waits and itself.
    have closes : ledger.waiting.length + 1 = size := by
      rw [UInt32.le_iff_toNat_le, counted, h.size_eq] at full
      omega
    have answer : batch.record delivery =
        (some delivery, { batch with pending := 0, latest? := none }) := by
      simp only [AckBatch.record, if_pos full]
    rw [answer]
    exact {
      size_eq := h.size_eq
      pending_eq := rfl
      latest_eq := rfl
      room := by simp only [Ledger.enter, List.length_nil]; omega
      settled := h.settled_concat
        { last := List.getLast?_concat
          full := fun _ _ => by simpa [Step.recorded?] using closes
          flushed := nofun } }
  · have waits : ledger.waiting.length + 1 < size := by
      rw [UInt32.le_iff_toNat_le, counted, h.size_eq] at full
      omega
    have answer : batch.record delivery =
        (none, { batch with pending := batch.pending + 1, latest? := some delivery }) := by
      simp only [AckBatch.record, if_neg full]
    rw [answer]
    exact {
      size_eq := h.size_eq
      pending_eq := by simpa [Ledger.enter, Step.recorded?] using counted
      latest_eq := List.getLast?_concat.symm
      room := by simpa [Ledger.enter, Step.recorded?] using waits
      settled := h.settled }

theorem flush (h : Account size batch ledger) :
    Account size batch.flush.2 (ledger.enter (.flush, batch.flush.1)) := by
  have room := h.room
  have latest := h.latest_eq
  rw [AckBatch.flush]
  cases handed : batch.latest? with
  | none =>
    have idle : ledger.waiting = [] := List.getLast?_eq_none_iff.mp (latest ▸ handed)
    exact {
      size_eq := h.size_eq
      pending_eq := by simp [Ledger.enter, Step.recorded?, idle]
      latest_eq := by simp [Ledger.enter, Step.recorded?, idle]
      room := by simpa [Ledger.enter, Step.recorded?] using room
      settled := h.settled }
  | some delivery =>
    rw [handed] at latest
    have filled : 1 ≤ ledger.waiting.length := by
      rw [Nat.one_le_iff_ne_zero, ne_eq, List.length_eq_zero_iff]
      rintro empty
      rw [empty] at latest
      cases latest
    exact {
      size_eq := h.size_eq
      pending_eq := rfl
      latest_eq := rfl
      room := by simp only [Ledger.enter, List.length_nil]; omega
      settled := h.settled_concat
        { last := by simpa [Step.recorded?] using latest.symm
          full := nofun
          flushed := fun _ => by
            simp only [Step.recorded?, Option.toList_none, List.append_nil]
            omega } }

/-- What one step preserves. -/
theorem step (h : Account size batch ledger) (s : Step α) :
    Account size (batch.step s).2 (ledger.enter (s, (batch.step s).1)) := by
  cases s with
  | record delivery => exact h.record delivery
  | flush => exact h.flush

/-- What a history preserves. -/
theorem run (h : Account size batch ledger) (steps : List (Step α)) :
    Account size (batch.behind steps) ((batch.turns steps).foldl Ledger.enter ledger) := by
  induction steps generalizing batch ledger with
  | nil => exact h
  | cons s rest ih => exact ih (h.step s)

end Account

/-! ## Histories that end with a flush -/

/-- The ledger of a history agrees with the batch behind it. -/
theorem account_turns (txSize : UInt32) (prefetch? : Option UInt16) (steps : List (Step α)) :
    Account (fullSize txSize prefetch?) ((start txSize prefetch?).behind steps)
      (ledger ((start txSize prefetch?).turns steps)) :=
  (Account.start txSize prefetch?).run steps

/-- A flush hands over nothing just if nothing waits. -/
theorem Account.flush_eq_none_iff {size : Nat} {batch : AckBatch α} {ledger : Ledger α}
    (h : Account size batch ledger) : (batch.step .flush).1 = none ↔ ledger.waiting = [] := by
  rw [← List.getLast?_eq_none_iff, ← h.latest_eq]
  rfl

/-- Behind a flush nothing waits. -/
theorem waiting_of_flushed (batch : AckBatch α) (steps : List (Step α)) {size : Nat}
    (h : Account size (batch.behind steps) (ledger (batch.turns steps))) :
    (ledger (batch.turns (steps ++ [.flush]))).waiting = [] := by
  have entered : ledger (batch.turns (steps ++ [.flush])) =
      (ledger (batch.turns steps)).enter (.flush, ((batch.behind steps).step .flush).1) := by
    rw [turns_append]
    exact List.foldl_concat ..
  rw [entered]
  cases handed : ((batch.behind steps).step .flush).1 with
  | none => simpa [Ledger.enter, Step.recorded?] using h.flush_eq_none_iff.mp handed
  | some delivery => rfl

/-- A history that ends with a flush settles every delivery once, in groups that a full batch
bounds. -/
theorem settlesOnce_turns (txSize : UInt32) (prefetch? : Option UInt16) (steps : List (Step α)) :
    SettlesOnce (fullSize txSize prefetch?)
      ((start txSize prefetch?).turns (steps ++ [.flush])) := by
  have complete := ledger_complete ((start txSize prefetch?).turns (steps ++ [.flush]))
  rw [waiting_of_flushed _ _ (account_turns txSize prefetch? steps), List.append_nil] at complete
  constructor
  case covered => exact complete.1
  case handed => exact complete.2
  case settled => exact (account_turns txSize prefetch? _).settled
  case idle =>
    intro before handed? after h
    obtain ⟨hbefore, hanswer⟩ := exists_of_turns_eq h
    have account := account_turns txSize prefetch? (before.map (·.1))
    rw [← hbefore] at account
    rw [hanswer]
    exact account.flush_eq_none_iff

/-- A full batch settles its deliveries, and the flush at the end the one that is left. -/
example : ((ledger ((start 3 none).turns
    [.flush, .record 1, .record 2, .record 3, .record 4, .flush])).groups.map (·.members)) =
      [[1, 2, 3], [4]] := by
  decide

end BrokerWiring.AckBatch
