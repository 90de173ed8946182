import Courier.Amqp.Properties
import Courier.Retry
import Courier.Work

/-!
# Deliveries

What a broker brings, what its headers say, and how it is settled: once, by an acknowledgement or a
refusal. A message is given up only after a copy was written to the dead-letter queue.
-/

namespace Courier
set_option autoImplicit false
open Amqp

/-- A body and what travelled beside it, under the tag that it is settled by. -/
structure Delivery where
  tag : Nat
  body : Octets
  properties : Properties

/-- The header that repeats the type of a message. -/
def messageTypeHeader : String := "x-message-type"

/-- The type of a message: the property, or the header where the property is missing. -/
def Amqp.Properties.declaredType (p : Properties) : String :=
  match p.messageType with
  | some name => name
  | none =>
    ((p.headerTable.get? messageTypeHeader).bind Value.asLongString?).elim "" Utf8.decodeLossy

/-- How often a message was refused before, as the broker notes it at the head of its list of
deaths; zero where it is not noted in that form. -/
def Amqp.Properties.deathCount (p : Properties) : Int :=
  let count : Option Int := do
    let deaths ← (← p.headerTable.get? "x-death").asArray?
    let death ← (← deaths.head?).asTable?
    (← Table.get? death "count").asInteger?
  count.getD 0

/-- The ways to settle deliveries by their tags. -/
structure Settling (σ : Type) where
  ack : (tag : Nat) → Work σ (Except BrokerError Unit)
  nack : (tag : Nat) → (requeue : Bool) → Work σ (Except BrokerError Unit)

variable {σ : Type}

/-- Settles a delivery that is not to be given up. -/
def Settling.settle (s : Settling σ) (tag : Nat) : Disposition → Work σ (Except BrokerError Unit)
  | .ack => s.ack tag
  | .requeue => do
    Work.report .requeuing
    s.nack tag true
  | .retry => do
    Work.report .retrying
    s.nack tag false
  | .deadLetter => return .error .internal

/-- Gives a delivery up: writes it as it is to the dead-letter queue, by a given way to write to a
queue, and acknowledges it once that is done. A queue that has none refuses it instead. -/
def Settling.giveUp (s : Settling σ) (copyTo : String → Delivery → Work σ (Except String Unit))
    (queue : Queue) (d : Delivery) : Work σ (Except BrokerError Unit) := do
  match queue.deadLetterName with
  | none => s.settle d.tag .retry
  | some name =>
    Work.report (.deadLettering queue.name)
    match ← copyTo name d with
    | .ok () => s.settle d.tag .ack
    | .error reason =>
      Work.report (.deadLetterFailed reason)
      return .error .deadLetter

/-- What a consumer of a queue has at hand. -/
structure Consumer (σ : Type) where
  queue : Queue
  policy : RetryPolicy
  /-- Handles the body of a delivery. -/
  handle : Octets → Work σ (Except MessagingError Unit)
  settling : Settling σ
  /-- Writes a delivery to a queue by its name. -/
  copyTo : String → Delivery → Work σ (Except String Unit)

namespace Consumer

/-- Hands a delivery to the handler; that it fails is reported. -/
def attend (c : Consumer σ) (d : Delivery) : Work σ (Except MessagingError Unit) := do
  let outcome ← c.handle d.body
  if let .error e := outcome then
    Work.report (.deliveryFailed e d.properties.declaredType)
  return outcome

/-- Settles a delivery by what came of it. -/
def settle (c : Consumer σ) (d : Delivery) (outcome : Except MessagingError Unit) :
    Work σ (Except BrokerError Unit) :=
  match c.policy.disposition outcome d.properties.deathCount with
  | .deadLetter => c.settling.giveUp c.copyTo c.queue d
  | disposition => c.settling.settle d.tag disposition

/-- Handles a delivery and settles it by the outcome. -/
def process (c : Consumer σ) (d : Delivery) : Work σ (Except BrokerError Unit) := do
  c.settle d (← c.attend d)

end Consumer

end Courier
