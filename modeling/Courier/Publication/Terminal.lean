import Courier.Publication

/-!
# Handing a message to the broker

The end of publishing: the message is routed and wrapped, the topology of its route is declared
unless it has been before, and the envelope is published. The course is given by what each answer of
the broker leads to, so that it does not matter how the waits between them are spent.
-/

namespace Courier
set_option autoImplicit false
open Amqp Confirm

/-- What a publisher needs of a broker. -/
structure Broker (σ : Type) where
  /-- Declares a queue that takes a key from an exchange. No answer means that the token fired
  first. -/
  declare : (queue exchange routingKey : String) → Work σ (Option (Except BrokerError Unit))
  /-- Publishes a frame and gives its number. -/
  publish : Frame → Work σ (Except BrokerError Nat)

/-- A wrapped message and where it goes. -/
structure Parcel where
  route : Route
  envelope : Envelope

/-- The frame of a parcel. -/
def Parcel.frame (p : Parcel) (trace : List (String × String)) : Frame where
  exchange := p.route.exchange
  routingKey := p.route.routingKey
  payload := p.envelope.body
  properties := p.envelope.properties trace

/-- The receipt of a parcel that was published under a number. -/
def Parcel.receipt (p : Parcel) (sequence : Nat) : Receipt :=
  ⟨p.envelope.envelopeId, sequence, p.route⟩

/-- What is to be done next about a parcel. -/
inductive Parcel.Next where
  | declare
  | publish
  | stop (error : MessagingError)

namespace Parcel

/-- At first: a fired token stops the parcel, and a known route need not be declared. -/
def atStart (p : Parcel) (cancelled : Bool) (declared : List Route) : Next :=
  if cancelled then .stop .cancelled
  else if p.route ∈ declared then .publish
  else .declare

/-- After the declaration was answered, or the token fired while it was not. Only a declaration that
succeeded makes the route a known one. -/
def atDeclared (p : Parcel) (declared : List Route) :
    Option (Except BrokerError Unit) → Next × List Route
  | none => (.stop .cancelled, declared)
  | some (.error e) => (.stop (.ofBroker e), declared)
  | some (.ok ()) => (.publish, if p.route ∈ declared then declared else declared ++ [p.route])

end Parcel

namespace Publication
variable {σ : Type}

/-- Wraps the message and routes it. -/
def parcel (routing : String → Route) : Step σ Parcel := do
  let p ← get
  let (wrapped, supply) := Envelope.wrap p.message p.flow p.supply
  set { p with supply }
  return ⟨routing p.message.contract.name, ← MonadExcept.ofExcept wrapped⟩

/-- Publishes a parcel. -/
def send (broker : Broker σ) (trace : List (String × String)) (parcel : Parcel) :
    Step σ Unit := do
  match ← work (broker.publish (parcel.frame trace)) with
  | .ok sequence => modify fun p => { p with receipt := some (parcel.receipt sequence) }
  | .error e => throw (.ofBroker e)

/-- Declares the topology of a parcel, then publishes it. -/
def declareAndSend (broker : Broker σ) (trace : List (String × String)) (parcel : Parcel) :
    Step σ Unit := do
  let ⟨exchange, key⟩ := parcel.route
  let answer ← work (broker.declare key exchange key)
  let (next, declared) := parcel.atDeclared (← get).declared answer
  modify fun p => { p with declared }
  match next with
  | .stop e => throw e
  | _ => send broker trace parcel

/-- The end of publishing. -/
def terminal (broker : Broker σ) (routing : String → Route) (trace : List (String × String)) :
    Step σ Unit := do
  let parcel ← parcel routing
  match parcel.atStart (← work Work.isCancelled) (← get).declared with
  | .stop e => throw e
  | .publish => send broker trace parcel
  | .declare => declareAndSend broker trace parcel

/-- Starts the flow's chain if it has none. -/
def establish : Step σ Unit := do
  let p ← get
  let (_, flow, supply) := p.flow.getOrCreate p.supply
  set { p with flow, supply }

/-- Publishes the message in a flow that has a context from then on. -/
def publish (stages : List (Stage σ)) (last : Step σ Unit) : Step σ Receipt := do
  establish
  Pipeline.run stages last
  match (← get).receipt with
  | some receipt => return receipt
  | none => throw (.pipelineState "publish terminal")

end Publication

end Courier
