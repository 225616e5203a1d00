/-!
# Batches of acknowledgements

Acknowledging one delivery can settle all the deliveries before it. A batch holds deliveries back
until it is full, or until it is flushed, and then hands over the latest one. It is never larger
than the prefetch window: a broker sends nothing more into a full window, so a larger batch would
never fill. A batch knows nothing of deliveries that fail, of waiting or of an end; who records and
flushes is a consumer.
-/

namespace BrokerWiring

/-- Deliveries that wait for their acknowledgement; `α` is whatever acknowledges one. -/
structure AckBatch (α : Type) where
  size : UInt32
  pending : UInt32
  latest? : Option α
  deriving Repr, DecidableEq

namespace AckBatch

variable {α : Type}

/-- The number of deliveries in a full batch: the transaction size, but at least one, and at most
the prefetch count unless this is zero, which means no limit. -/
def sizeFor (txSize : UInt32) (prefetch? : Option UInt16) : UInt32 :=
  let bounded :=
    match prefetch? with
    | some prefetchCount => if 0 < prefetchCount then min txSize prefetchCount.toUInt32 else txSize
    | none => txSize
  max bounded 1

/-- A batch without deliveries. -/
def start (txSize : UInt32) (prefetch? : Option UInt16) : AckBatch α :=
  ⟨sizeFor txSize prefetch?, 0, none⟩

/-- Takes a delivery that was handled. Once the batch is full, it is handed over for all. -/
def record (batch : AckBatch α) (delivery : α) : Option α × AckBatch α :=
  let pending := batch.pending + 1
  if batch.size ≤ pending then (some delivery, { batch with pending := 0, latest? := none })
  else (none, { batch with pending, latest? := some delivery })

/-- Hands over the delivery that settles everything pending, if anything is. -/
def flush (batch : AckBatch α) : Option α × AckBatch α :=
  (batch.latest?, { batch with pending := 0, latest? := none })

/-! ## Histories -/

/-- What can happen to a batch. -/
inductive Step (α : Type) where
  | record (delivery : α)
  | flush
  deriving Repr, DecidableEq

/-- One step: what is handed over, and the batch behind it. -/
def step (batch : AckBatch α) : Step α → Option α × AckBatch α
  | .record delivery => batch.record delivery
  | .flush => batch.flush

/-- A history: what each step hands over, with the batch behind the step. -/
def run (batch : AckBatch α) : List (Step α) → List (Option α × AckBatch α)
  | [] => []
  | s :: rest => batch.step s :: run (batch.step s).2 rest

end AckBatch

end BrokerWiring
