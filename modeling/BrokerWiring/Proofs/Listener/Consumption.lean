import BrokerWiring.Listener.Consumer
import BrokerWiring.Proofs.Listener.Window

/-!
# What becomes of the deliveries of a consumer

A consumer drives a batch: what it meets is a history of the batch (`history`), and what it
acknowledges is what the batch hands over in that history (`consume_eq_turns`). So the account of a
batch is one of the consumer. In mode `auto` every delivery that was handled is acknowledged in one
group, or it waits, and fewer wait than the prefetch window holds; behind the end of the consumer
none waits. Every other delivery goes back to its queue, once (`settlesAll_consume`).
-/

namespace BrokerWiring

open AckBatch (fullSize)

variable {α : Type}

/-! ## What a consumer meets and does -/

/-- Whether a consumer ends with what it meets. -/
def Receipt.isLast : Receipt α → Bool
  | .delivered .. | .idle => false
  | .finished _ => true

/-- The delivery that a consumer meets, with the answer of the handler. -/
def Receipt.delivery? : Receipt α → Option (Delivery α × Except String Unit)
  | .delivered delivery answer => some (delivery, answer)
  | _ => none

/-- The deliveries up to the end of a consumer, with the answers of the handler. -/
def Receipt.met (receipts : List (Receipt α)) : List (Delivery α × Except String Unit) :=
  (receipts.takeWhile (!·.isLast)).filterMap Receipt.delivery?

/-- What acknowledges the deliveries that the handler came to an end with. -/
def Receipt.accepted (receipts : List (Receipt α)) : List α :=
  ((met receipts).filter (·.2.isOk)).map (·.1.acker)

/-- What acknowledges the deliveries that the handler failed on. -/
def Receipt.refused (receipts : List (Receipt α)) : List α :=
  ((met receipts).filter (!·.2.isOk)).map (·.1.acker)

namespace Act

/-- What the handler is given by a call of it. -/
def handled? : Act α → Option (Message × Option α)
  | .handle message handed? => some (message, handed?)
  | _ => none

/-- The delivery that is acknowledged with all before it. -/
def acknowledged? : Act α → Option α
  | .acknowledge acker => some acker
  | _ => none

/-- The delivery that goes back. -/
def sentBack? : Act α → Option α
  | .sendBack acker => some acker
  | _ => none

end Act

namespace Consumer

open Receipt (met accepted refused)

variable {mode : AcknowledgeMode} {batch : AckBatch α} {delivery : Delivery α}
  {answer : Except String Unit} {receipts : List (Receipt α)}

/-! ## The history of the batch -/

/-- What a delivery is to the batch. -/
def recordOf (mode : AcknowledgeMode) (delivery : Delivery α) (answer : Except String Unit) :
    List (AckBatch.Step α) :=
  if mode = .auto ∧ answer.isOk then [.record delivery.acker] else []

/-- What a consumer meets, as a history of its batch. -/
def history (mode : AcknowledgeMode) : List (Receipt α) → List (AckBatch.Step α)
  | [] => []
  | .delivered delivery answer :: rest => recordOf mode delivery answer ++ history mode rest
  | .idle :: rest => .flush :: history mode rest
  | .finished _ :: _ => [.flush]

/-- Acts follow a history: they acknowledge what the batch hands over in it, and leave the batch
behind it. -/
structure Follows (batch : AckBatch α) (steps : List (AckBatch.Step α))
    (outcome : List (Act α) × AckBatch α) : Prop where
  acknowledged : outcome.1.filterMap Act.acknowledged? = (batch.turns steps).filterMap (·.2)
  batch_eq : outcome.2 = batch.behind steps

theorem Follows.append {steps more : List (AckBatch.Step α)}
    {outcome last : List (Act α) × AckBatch α}
    (h : Follows batch steps outcome) (hlast : Follows outcome.2 more last) :
    Follows batch (steps ++ more) (outcome.1 ++ last.1, last.2) := by
  constructor
  · show (outcome.1 ++ last.1).filterMap Act.acknowledged? = _
    rw [List.filterMap_append, AckBatch.turns_append, List.filterMap_append, h.acknowledged,
      hlast.acknowledged, h.batch_eq]
  · show last.2 = _
    rw [hlast.batch_eq, h.batch_eq]
    exact List.foldl_append.symm

theorem follows_settle (batch : AckBatch α) (step : AckBatch.Step α) :
    Follows batch [step] (settle (batch.step step)) := by
  constructor
  · show ((batch.step step).1.toList.map Act.acknowledge).filterMap Act.acknowledged? = _
    rw [AckBatch.turns_cons]
    cases (batch.step step).1 <;> rfl
  · rfl

theorem follows_take (mode : AcknowledgeMode) (batch : AckBatch α) (delivery : Delivery α)
    (answer : Except String Unit) :
    Follows batch (recordOf mode delivery answer) (take mode batch delivery answer) := by
  cases mode with
  | none => exact ⟨rfl, rfl⟩
  | manual => exact ⟨rfl, rfl⟩
  | auto =>
    cases answer with
    | error reason => exact ⟨rfl, rfl⟩
    | ok _ =>
      obtain ⟨acknowledged, batch_eq⟩ := follows_settle batch (.record delivery.acker)
      exact ⟨acknowledged, batch_eq⟩

/-- What a consumer acknowledges is what its batch hands over. -/
theorem consume_eq_turns (mode : AcknowledgeMode) (batch : AckBatch α)
    (receipts : List (Receipt α)) :
    Follows batch (history mode receipts) (consume mode batch receipts) := by
  induction receipts generalizing batch with
  | nil => exact ⟨rfl, rfl⟩
  | cons receipt rest ih =>
    cases receipt with
    | delivered delivery answer => exact (follows_take mode batch delivery answer).append (ih _)
    | idle => exact (follows_settle batch .flush).append (ih _)
    | finished ending => exact follows_settle batch .flush

/-- In mode `auto` the batch records what the handler came to an end with. -/
theorem recorded_history (receipts : List (Receipt α)) :
    (history .auto receipts).filterMap AckBatch.Step.recorded? = accepted receipts := by
  induction receipts with
  | nil => rfl
  | cons receipt rest ih =>
    cases receipt with
    | delivered delivery answer =>
      rw [history, List.filterMap_append, ih]
      cases answer <;> rfl
    | idle => exact ih
    | finished ending => rfl

/-- In the other modes it records nothing. -/
theorem recorded_history_of_ne (h : mode ≠ .auto) (receipts : List (Receipt α)) :
    (history mode receipts).filterMap AckBatch.Step.recorded? = [] := by
  induction receipts with
  | nil => rfl
  | cons receipt rest ih =>
    cases receipt with
    | delivered delivery answer =>
      rw [history, List.filterMap_append, ih, recordOf, if_neg (fun both => h both.1)]
      rfl
    | idle => exact ih
    | finished ending => rfl

/-- A consumer that ends flushes its batch last. -/
theorem exists_history_of_isLast (mode : AcknowledgeMode)
    (h : ∃ receipt ∈ receipts, receipt.isLast = true) :
    ∃ before, history mode receipts = before ++ [.flush] := by
  induction receipts with
  | nil => simp at h
  | cons receipt rest ih =>
    cases receipt with
    | delivered delivery answer =>
      obtain ⟨before, hbefore⟩ := ih (by simpa [Receipt.isLast] using h)
      exact ⟨recordOf mode delivery answer ++ before, by rw [history, hbefore, List.append_assoc]⟩
    | idle =>
      obtain ⟨before, hbefore⟩ := ih (by simpa [Receipt.isLast] using h)
      exact ⟨.flush :: before, by rw [history, hbefore, List.cons_append]⟩
    | finished ending => exact ⟨[], rfl⟩

/-! ## Everything but acknowledgements -/

/-- A batch that is handed over is acknowledged, and that is all. -/
theorem filterMap_settle {β : Type} {kind : Act α → Option β}
    (silent : ∀ acker, kind (.acknowledge acker) = none) (handed : Option α × AckBatch α) :
    (settle handed).1.filterMap kind = [] := by
  unfold settle
  cases handed.1 with
  | none => rfl
  | some acker => simp [silent]

/-- What a consumer does besides acknowledging, it does for one delivery after another. -/
theorem filterMap_consume {β : Type} {kind : Act α → Option β}
    {each : Delivery α → Except String Unit → List β}
    (silent : ∀ acker, kind (.acknowledge acker) = none)
    (htake : ∀ batch delivery answer,
      (take mode batch delivery answer).1.filterMap kind = each delivery answer)
    (batch : AckBatch α) (receipts : List (Receipt α)) :
    (consume mode batch receipts).1.filterMap kind =
      (met receipts).flatMap fun turn => each turn.1 turn.2 := by
  induction receipts generalizing batch with
  | nil => rfl
  | cons receipt rest ih =>
    cases receipt with
    | delivered delivery answer =>
      show ((take mode batch delivery answer).1 ++ _).filterMap kind = _
      rw [List.filterMap_append, htake, ih]
      rfl
    | idle =>
      show ((settle batch.flush).1 ++ _).filterMap kind = _
      rw [List.filterMap_append, filterMap_settle silent, ih]
      rfl
    | finished ending => exact filterMap_settle silent batch.flush

theorem handled_take (mode : AcknowledgeMode) (batch : AckBatch α) (delivery : Delivery α)
    (answer : Except String Unit) :
    (take mode batch delivery answer).1.filterMap Act.handled? =
      [(delivery.message, if mode = .manual then some delivery.acker else none)] := by
  cases mode with
  | none => rfl
  | manual => rfl
  | auto =>
    cases answer with
    | error reason => rfl
    | ok _ =>
      show (Act.handle delivery.message none :: (settle _).1).filterMap Act.handled? = _
      rw [List.filterMap_cons, filterMap_settle fun _ => rfl]
      rfl

theorem sentBack_take (mode : AcknowledgeMode) (batch : AckBatch α) (delivery : Delivery α)
    (answer : Except String Unit) :
    (take mode batch delivery answer).1.filterMap Act.sentBack? =
      if mode = .auto ∧ !answer.isOk then [delivery.acker] else [] := by
  cases mode with
  | none => rfl
  | manual => rfl
  | auto =>
    cases answer with
    | error reason => rfl
    | ok _ =>
      show (Act.handle delivery.message none :: (settle _).1).filterMap Act.sentBack? = _
      rw [List.filterMap_cons, filterMap_settle fun _ => rfl]
      rfl

theorem handled_consume (mode : AcknowledgeMode) (batch : AckBatch α)
    (receipts : List (Receipt α)) :
    (consume mode batch receipts).1.filterMap Act.handled? =
      (met receipts).map fun turn =>
        (turn.1.message, if mode = .manual then some turn.1.acker else none) := by
  rw [filterMap_consume (fun _ => rfl) (handled_take mode)]
  exact List.map_eq_flatMap.symm

theorem sentBack_consume (mode : AcknowledgeMode) (batch : AckBatch α)
    (receipts : List (Receipt α)) :
    (consume mode batch receipts).1.filterMap Act.sentBack? =
      if mode = .auto then refused receipts else [] := by
  rw [filterMap_consume (fun _ => rfl) (sentBack_take mode)]
  by_cases automatic : mode = .auto
  · simp only [automatic, true_and, if_true, refused]
    induction met receipts with
    | nil => rfl
    | cons turn rest ih =>
      rw [List.flatMap_cons, ih, List.filter_cons]
      cases turn.2 <;> rfl
  · simp [automatic]

end Consumer

/-! ## Every delivery -/

namespace ContainerSettings

open AckBatch (Account)
open Consumer (history)
open Receipt (met accepted refused)

/-- The deliveries of a full batch of a consumer. -/
def batchSize (settings : ContainerSettings) : Nat :=
  fullSize settings.txSize settings.prefetchCount?

/-- What a consumer has acknowledged, in groups, and what waits to be. -/
structure Settlement (settings : ContainerSettings) (receipts : List (Receipt α))
    (groups : List (AckBatch.Group α)) (waiting : List α) : Prop where
  /-- Every delivery that was handled is in one group, or it waits. -/
  covered : groups.flatMap (·.members) ++ waiting = accepted receipts
  /-- A group is acknowledged by its last delivery. -/
  acknowledged : (settings.consume receipts).1.filterMap Act.acknowledged? = groups.map (·.handed)
  settled : ∀ group ∈ groups, group.Settled settings.batchSize
  room : waiting.length < settings.batchSize
  /-- The broker may send at least one delivery more. -/
  open_window : ∀ window ∈ settings.prefetchCount?, window ≠ 0 → waiting.length < window.toNat
  /-- Behind the end nothing waits. -/
  finished : (∃ receipt ∈ receipts, receipt.isLast = true) → waiting = []

/-- What becomes of all that a consumer meets. -/
structure SettlesAll (settings : ContainerSettings) (receipts : List (Receipt α)) : Prop where
  /-- Every delivery reaches the handler, once and in order. What acknowledges it goes along in mode
  `manual` alone. -/
  handled : (settings.consume receipts).1.filterMap Act.handled? =
    (met receipts).map fun turn => (turn.1.message,
      if settings.acknowledgeMode = .manual then some turn.1.acker else none)
  /-- What the handler failed on goes back, but only the mode `auto` looks at that. -/
  sentBack : (settings.consume receipts).1.filterMap Act.sentBack? =
    if settings.acknowledgeMode = .auto then refused receipts else []
  /-- What it came to an end with is acknowledged in this mode. -/
  settled : settings.acknowledgeMode = .auto → ∃ groups waiting,
    settings.Settlement receipts groups waiting
  /-- In the others nothing is. -/
  silent : settings.acknowledgeMode ≠ .auto →
    (settings.consume receipts).1.filterMap Act.acknowledged? = []

/-- The ledger of the batch of a consumer. -/
def ledger (settings : ContainerSettings) (receipts : List (Receipt α)) : AckBatch.Ledger α :=
  AckBatch.ledger ((AckBatch.start settings.txSize settings.prefetchCount?).turns
    (history settings.acknowledgeMode receipts))

/-- The ledger has what was recorded, and what was acknowledged. -/
theorem ledger_consume (settings : ContainerSettings) (receipts : List (Receipt α)) :
    (settings.ledger receipts).groups.flatMap (·.members) ++ (settings.ledger receipts).waiting =
        (history settings.acknowledgeMode receipts).filterMap AckBatch.Step.recorded? ∧
      (settings.consume receipts).1.filterMap Act.acknowledged? =
        (settings.ledger receipts).groups.map (·.handed) := by
  have follows := Consumer.consume_eq_turns settings.acknowledgeMode
    (.start settings.txSize settings.prefetchCount?) receipts
  obtain ⟨covered, handed⟩ := AckBatch.ledger_complete
    ((AckBatch.start settings.txSize settings.prefetchCount?).turns
      (history settings.acknowledgeMode receipts))
  constructor
  · rw [ledger, covered]
    show List.filterMap (AckBatch.Step.recorded? ∘ Prod.fst) _ = _
    rw [← List.filterMap_map, AckBatch.map_fst_turns]
  · rw [ledger, handed]
    exact follows.acknowledged

theorem account_consume (settings : ContainerSettings) (receipts : List (Receipt α)) :
    Account settings.batchSize (settings.consume receipts).2 (settings.ledger receipts) := by
  have follows := Consumer.consume_eq_turns settings.acknowledgeMode
    (.start settings.txSize settings.prefetchCount?) receipts
  rw [consume, follows.batch_eq]
  exact AckBatch.account_turns _ _ _

/-- A consumer that ends leaves nothing in its batch. -/
theorem waiting_of_isLast (settings : ContainerSettings) {receipts : List (Receipt α)}
    (ends : ∃ receipt ∈ receipts, receipt.isLast = true) :
    (settings.ledger receipts).waiting = [] := by
  obtain ⟨before, hbefore⟩ :=
    Consumer.exists_history_of_isLast settings.acknowledgeMode ends
  rw [ledger, hbefore]
  exact AckBatch.waiting_of_flushed _ before (AckBatch.account_turns _ _ before)

theorem settlement_ledger {settings : ContainerSettings}
    (automatic : settings.acknowledgeMode = .auto) (receipts : List (Receipt α)) :
    settings.Settlement receipts (settings.ledger receipts).groups
      (settings.ledger receipts).waiting := by
  obtain ⟨covered, acknowledged⟩ := settings.ledger_consume receipts
  have account := settings.account_consume receipts
  constructor
  case covered => rw [covered, automatic, Consumer.recorded_history]
  case acknowledged => exact acknowledged
  case settled => exact account.settled
  case room => exact account.room
  case open_window =>
    intro window hwindow limited
    have narrow := AckBatch.fullSize_le_window settings.txSize limited
    have room := account.room
    rw [batchSize, Option.mem_def.mp hwindow] at room
    omega
  case finished => exact settings.waiting_of_isLast

/-- A batch that records nothing hands nothing over. -/
theorem acknowledged_of_ne {settings : ContainerSettings}
    (other : settings.acknowledgeMode ≠ .auto) (receipts : List (Receipt α)) :
    (settings.consume receipts).1.filterMap Act.acknowledged? = [] := by
  obtain ⟨covered, acknowledged⟩ := settings.ledger_consume receipts
  rw [Consumer.recorded_history_of_ne other, List.append_eq_nil_iff] at covered
  have empty : (settings.ledger receipts).groups = [] := by
    apply List.eq_nil_iff_forall_not_mem.mpr
    intro group hgroup
    have settled := (settings.account_consume receipts).settled group hgroup
    have last := List.mem_of_getLast? settled.last
    rw [List.flatMap_eq_nil_iff.mp covered.1 group hgroup] at last
    cases last
  rw [acknowledged, empty]
  rfl

/-- No delivery is lost, and none is settled twice. -/
theorem settlesAll_consume (settings : ContainerSettings) (receipts : List (Receipt α)) :
    settings.SettlesAll receipts := by
  constructor
  case handled => exact Consumer.handled_consume ..
  case sentBack => exact Consumer.sentBack_consume ..
  case settled =>
    intro automatic
    exact ⟨_, _, settlement_ledger automatic receipts⟩
  case silent =>
    intro other
    exact acknowledged_of_ne other receipts

/-- The second delivery goes back. The first and the third fill a batch, and the fourth is
acknowledged when nothing more comes. -/
example :
    let settings : ContainerSettings := ⟨true, .auto, 1, none, some 10, 2⟩
    let met (acker : Nat) (answer : Except String Unit) : Receipt Nat :=
      .delivered ⟨[], none, acker⟩ answer
    let acts := (settings.consume [met 1 (.ok ()), met 2 (.error "no"), met 3 (.ok ()),
      met 4 (.ok ()), .idle, .finished .stopped]).1
    acts.filterMap Act.acknowledged? = [3, 4] ∧ acts.filterMap Act.sentBack? = [2] := by
  decide

end ContainerSettings

end BrokerWiring
