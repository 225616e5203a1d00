import BrokerWiring.Listener.AckBatch
import BrokerWiring.Listener.Container
import BrokerWiring.Message.Converter

/-!
# Consumers

A consumer hands the deliveries of a queue to a handler, one after another. Its mode says who
acknowledges them. In `auto` the consumer does: what was handled waits in a batch, which is handed
over when it is full, when nothing has come for a while, and when the consumer ends; what could not
be handled goes back to the queue at once. In the other two modes it never says anything to the
broker.

An acknowledgement that does not reach the broker is only logged, and so is the text of a failed
stream or handler: the consumer goes on, or ends, as it would have. So neither is found here.
-/

namespace BrokerWiring

/-- A delivery: a message, and whatever acknowledges it. -/
structure Delivery (α : Type) where
  body : List UInt8
  /-- What the sender says that the body is. -/
  contentType? : Option String
  acker : α
  deriving Repr, DecidableEq

/-- The content type of a message whose sender says nothing. -/
def Delivery.defaultContentType : String := "application/octet-stream"

/-- What the handler is given of a delivery. -/
def Delivery.message {α : Type} (delivery : Delivery α) : Message :=
  ⟨delivery.body, delivery.contentType?.getD Delivery.defaultContentType⟩

/-- Why a consumer ends. -/
inductive Ending where
  /-- The container was stopped. -/
  | stopped
  /-- There are no more deliveries. -/
  | exhausted
  /-- No delivery can be received any more. -/
  | broken
  deriving Repr, DecidableEq

/-- What a consumer meets when it waits for the next delivery. -/
inductive Receipt (α : Type) where
  /-- A delivery came; the handler, once it is called for it, gives this answer. -/
  | delivered (delivery : Delivery α) (answer : Except String Unit)
  /-- Nothing came for a while. -/
  | idle
  | finished (ending : Ending)
  deriving Repr

/-- What a consumer does. -/
inductive Act (α : Type) where
  /-- It calls the handler, which is given the acknowledgement too if it has to see to it. -/
  | handle (message : Message) (handed? : Option α)
  /-- It acknowledges a delivery and all before it. -/
  | acknowledge (acker : α)
  /-- It sends a delivery back to its queue. -/
  | sendBack (acker : α)
  deriving Repr, DecidableEq

namespace Consumer

variable {α : Type}

/-- Acknowledges what a batch hands over, if anything. -/
def settle (handed : Option α × AckBatch α) : List (Act α) × AckBatch α :=
  (handed.1.toList.map .acknowledge, handed.2)

/-- What a consumer does with a delivery, and the batch behind it. -/
def take (mode : AcknowledgeMode) (batch : AckBatch α) (delivery : Delivery α)
    (answer : Except String Unit) : List (Act α) × AckBatch α :=
  match mode with
  | .none => ([.handle delivery.message none], batch)
  | .manual => ([.handle delivery.message (some delivery.acker)], batch)
  | .auto =>
    let called := Act.handle delivery.message none
    match answer with
    | .ok _ =>
      let (acts, batch) := settle (batch.record delivery.acker)
      (called :: acts, batch)
    | .error _ => ([called, .sendBack delivery.acker], batch)

/-- What a consumer does with all that it meets up to its end, and the batch behind it. -/
def consume (mode : AcknowledgeMode) (batch : AckBatch α) :
    List (Receipt α) → List (Act α) × AckBatch α
  | [] => ([], batch)
  | .delivered delivery answer :: rest =>
    let (acts, batch) := take mode batch delivery answer
    let (more, batch) := consume mode batch rest
    (acts ++ more, batch)
  | .idle :: rest =>
    let (acts, batch) := settle batch.flush
    let (more, batch) := consume mode batch rest
    (acts ++ more, batch)
  | .finished _ :: _ => settle batch.flush

end Consumer

/-- What a consumer of a container with these settings does with all that it meets. -/
def ContainerSettings.consume {α : Type} (settings : ContainerSettings)
    (receipts : List (Receipt α)) : List (Act α) × AckBatch α :=
  Consumer.consume settings.acknowledgeMode
    (.start settings.txSize settings.prefetchCount?) receipts

end BrokerWiring
