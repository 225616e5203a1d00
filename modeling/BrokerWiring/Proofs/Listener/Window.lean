import Mathlib.Data.List.DropRight
import BrokerWiring.Proofs.Listener.Settlement

/-!
# A batch stays within the prefetch window

A broker that has sent as many deliveries as the prefetch window holds sends no more until one of
them is acknowledged. A batch that let the window fill up with deliveries it holds back would wait
for ever. It does not: behind every history the deliveries that were recorded since the batch last
handed something over are fewer than a full batch, and a full batch is no larger than the window
(`paced_behind`). For the same reason the count of them never overflows.
-/

namespace BrokerWiring.AckBatch

variable {α : Type}

/-! ## What is not settled yet -/

/-- The deliveries that a list of steps and their answers has recorded, in order. -/
def recorded (turns : List (Step α × Option α)) : List α := turns.filterMap (·.1.recorded?)

/-- The deliveries recorded since something was last handed over. -/
def unsettled (turns : List (Step α × Option α)) : List α :=
  recorded (turns.rtakeWhile (·.2.isNone))

/-- What waits in the ledger is what was recorded since something was last handed over. -/
theorem waiting_ledger (turns : List (Step α × Option α)) :
    (ledger turns).waiting = unsettled turns := by
  induction turns using List.reverseRecOn with
  | nil => rfl
  | append_singleton turns turn ih =>
    have entered : ledger (turns ++ [turn]) = (ledger turns).enter turn := List.foldl_concat ..
    obtain ⟨s, handed?⟩ := turn
    cases handed? with
    | none =>
      have goesOn : unsettled (turns ++ [(s, none)]) = unsettled turns ++ s.recorded?.toList := by
        rw [unsettled, List.rtakeWhile_concat_pos _ _ _ rfl, recorded, List.filterMap_append]
        cases s <;> rfl
      rw [entered, goesOn, ← ih]
      rfl
    | some handed =>
      have ends : unsettled (turns ++ [(s, some handed)]) = [] := by
        rw [unsettled, List.rtakeWhile_concat_neg _ _ _ (by simp)]
        rfl
      rw [entered, ends]
      rfl

/-- Of the deliveries that wait the last is the last that was recorded at all. -/
theorem getLast?_recorded {turns : List (Step α × Option α)} {delivery : α}
    (h : (unsettled turns).getLast? = some delivery) :
    (recorded turns).getLast? = some delivery := by
  have covered := (ledger_complete turns).1
  rw [waiting_ledger] at covered
  rw [recorded, ← covered, List.getLast?_append, h, Option.some_or]

/-! ## The pace of a batch -/

/-- A full batch is no larger than the window, if there is one. -/
theorem fullSize_le_window (txSize : UInt32) {window : UInt16} (limited : window ≠ 0) :
    fullSize txSize (some window) ≤ window.toNat := by
  have filled : 0 < window.toNat := Nat.pos_of_ne_zero fun empty => limited (UInt16.toNat.inj empty)
  have kept : (some window).filter (· ≠ 0) = some window := by simp [limited]
  rw [fullSize, kept, Option.elim_some]
  omega

/-- How far a batch has come within its window, behind a list of steps and their answers. -/
structure Paced (prefetch? : Option UInt16) (batch : AckBatch α)
    (turns : List (Step α × Option α)) : Prop where
  /-- A batch counts what was recorded since it last handed something over. -/
  pending_eq : batch.pending.toNat = (unsettled turns).length
  pending_lt_size : batch.pending < batch.size
  /-- It has a delivery to hand over just if it counts any. -/
  latest_isSome_iff : batch.latest?.isSome = true ↔ 0 < batch.pending
  /-- That one is the last that was recorded. -/
  latest_eq : ∀ delivery ∈ batch.latest?, (recorded turns).getLast? = some delivery
  one_le_size : 1 ≤ batch.size
  size_le_window : ∀ window ∈ prefetch?, window ≠ 0 → batch.size.toNat ≤ window.toNat
  /-- There is room to count one more. -/
  no_overflow : batch.pending.toNat + 1 < UInt32.size
  /-- What is not settled leaves room in the window for one more. -/
  unsettled_lt_window : ∀ window ∈ prefetch?, window ≠ 0 →
    (unsettled turns).length < window.toNat

/-- A batch that agrees with its ledger keeps its pace. -/
theorem Account.paced {txSize : UInt32} {prefetch? : Option UInt16} {batch : AckBatch α}
    {turns : List (Step α × Option α)}
    (h : Account (fullSize txSize prefetch?) batch (ledger turns)) :
    Paced prefetch? batch turns := by
  have pending_eq : batch.pending.toNat = (unsettled turns).length := by
    rw [h.pending_eq, waiting_ledger]
  have latest_eq : batch.latest? = (unsettled turns).getLast? := by
    rw [h.latest_eq, waiting_ledger]
  have room : (unsettled turns).length < batch.size.toNat := by
    rw [h.size_eq, ← waiting_ledger]
    exact h.room
  have size_le_window : ∀ window ∈ prefetch?, window ≠ 0 → batch.size.toNat ≤ window.toNat := by
    intro window hwindow limited
    rw [h.size_eq, Option.mem_def.mp hwindow]
    exact fullSize_le_window txSize limited
  constructor
  case pending_eq => exact pending_eq
  case size_le_window => exact size_le_window
  case pending_lt_size =>
    rw [UInt32.lt_iff_toNat_lt, pending_eq]
    exact room
  case latest_isSome_iff =>
    rw [latest_eq, List.getLast?_isSome, UInt32.lt_iff_toNat_lt, pending_eq]
    exact List.length_pos_iff.symm
  case latest_eq =>
    intro delivery hdelivery
    rw [Option.mem_def, latest_eq] at hdelivery
    exact getLast?_recorded hdelivery
  case one_le_size =>
    rw [UInt32.le_iff_toNat_le]
    exact Nat.one_le_of_lt room
  case no_overflow =>
    have bound : batch.size.toNat < UInt32.size := batch.size.toNat_lt
    omega
  case unsettled_lt_window =>
    intro window hwindow limited
    exact Nat.lt_of_lt_of_le room (size_le_window window hwindow limited)

/-- Behind every history a batch is within its window: it is never full, and has never as many
deliveries unsettled as the window holds. -/
theorem paced_behind (txSize : UInt32) (prefetch? : Option UInt16) (steps : List (Step α)) :
    Paced prefetch? ((start txSize prefetch?).behind steps)
      ((start txSize prefetch?).turns steps) :=
  (account_turns txSize prefetch? steps).paced

end BrokerWiring.AckBatch
