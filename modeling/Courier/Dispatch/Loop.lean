import Courier.Delivery

/-!
# Consumer loops

What a consumer does with the stream of its queue: it processes deliveries one after the other,
passes over the stream's errors, and stops when its token has fired or the stream has ended. A
delivery that was taken is settled first.
-/

namespace Courier
set_option autoImplicit false

/-- Why a loop stopped. -/
inductive Exit where
  | cancelled
  | streamEnded
  deriving DecidableEq

/-- The result of a loop that stopped; a stream should not end by itself. -/
def Exit.result (queue : String) : Exit → Except BrokerError Unit
  | cancelled => .ok ()
  | streamEnded => .error (.consumerLost queue)

/-- What a loop may come upon. -/
inductive Happening where
  | delivery (delivery : Delivery)
  | streamError (reason : String)
  | streamEnd
  /-- The token fires from outside. -/
  | cancellation

variable {σ : Type}

/-- Settles a delivery that was handled; a failure to settle it is reported and no more. -/
def Consumer.conclude (c : Consumer σ) (d : Delivery) (outcome : Except MessagingError Unit) :
    Work σ Unit := do
  if let .error e ← c.settle d outcome then
    Work.report (.settlementFailed e)

/-- Handles a delivery and settles it. -/
def Consumer.take (c : Consumer σ) (d : Delivery) : Work σ Unit := do
  c.conclude d (← c.attend d)

/-- Runs the loop through what happens; no exit means that it still waits. Before every wait a fired
token comes first. -/
def Consumer.run (c : Consumer σ) : List Happening → Work σ (Option Exit)
  | [] => return if ← Work.isCancelled then some .cancelled else none
  | happening :: rest => do
    if ← Work.isCancelled then
      return some .cancelled
    match happening with
    | .delivery d =>
      c.take d
      c.run rest
    | .streamError reason =>
      Work.report (.streamFailed reason c.queue.name)
      c.run rest
    | .streamEnd =>
      Work.report (.streamEnded c.queue.name)
      return some .streamEnded
    | .cancellation =>
      Work.fire
      c.run rest

end Courier
