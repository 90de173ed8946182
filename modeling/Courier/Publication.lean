import Courier.Confirm.Lane
import Courier.Contract.Checks
import Courier.Delivery
import Courier.Envelope
import Courier.Pipeline
import Courier.Route
import Courier.Trace
import Courier.Work

/-!
# Publications

A message on its way out: the stages that check it and give it an identifier, and what it travels
with.
-/

namespace Courier
set_option autoImplicit false
open Amqp

/-- What is known of a published message. -/
structure Receipt where
  envelopeId : Uuid
  sequence : Nat
  route : Route
  deriving DecidableEq

/-- The properties an envelope travels with. The headers hold the trace and the type. -/
def Envelope.properties (e : Envelope) (trace : List (String × String)) : Properties where
  contentType := some "application/json"
  headers := some ((Trace.injectAll [] trace).insert messageTypeHeader (.ofText e.messageType))
  deliveryMode := some 2
  correlationId := some e.correlationId.text
  messageId := some e.envelopeId.text
  timestamp := some e.createdUtc.unixSeconds.toNat
  messageType := some e.messageType

/-- A message on its way out, the flow it belongs to, and what publishing draws on. -/
structure Publication (σ : Type) where
  message : Message
  flow : Flow
  receipt : Option Receipt
  supply : Supply
  /-- The routes whose topology has been declared. -/
  declared : List Route
  around : Surroundings σ

namespace Publication
variable {σ : Type}

/-- A step in publishing. -/
abbrev Step (σ α : Type) : Type := ExceptT MessagingError (StateM (Publication σ)) α

/-- A stage of publishing. -/
abbrev Stage (σ : Type) : Type := Pipeline.Stage (Step σ Unit)

/-- Does work in the surroundings. -/
def work {α : Type} (act : Work σ α) : Step σ α := do
  let p ← get
  let (result, around) := act p.around
  set { p with around }
  return result

/-- Takes the next identifier. -/
def drawId : Step σ Uuid := do
  let p ← get
  let (id, supply) := p.supply.drawId
  set { p with supply }
  return id

/-- Stops a message that is not valid. Every violation is reported. -/
def validation : Stage σ := fun rest => do
  let m := (← get).message
  if m.violations.isEmpty then rest
  else
    work (Work.report (.failedValidation m.contract.name m.violations))
    throw (.validation m.violations)

/-- Gives a message without an identifier a fresh one, the cause of whatever its flow publishes
next. -/
def enrichment : Stage σ := fun rest => do
  if (← get).message.id.isNil then
    let id ← drawId
    modify fun p => { p with message := p.message.withId id }
    let (_, flow) ← MonadExcept.ofExcept ((← get).flow.setCause id)
    modify fun p => { p with flow }
  rest

/-- The stages of publishing. -/
def standard : List (Stage σ) := [validation, enrichment]

end Publication

end Courier
