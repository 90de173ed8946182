import Courier.Topology

/-!
# Retry policies

What becomes of a delivery that failed, and the queues that a policy needs for it.
-/

namespace Courier
set_option autoImplicit false

/-- What a service does with messages it failed to handle. -/
inductive RetryPolicy where
  /-- Puts them back at once, for ever. -/
  | requeue
  /-- Parks them for `ttl` milliseconds and tries again, `retries` times, then gives them up to the
  dead-letter queue. -/
  | deadLetter (retries ttl : Int)
  deriving DecidableEq

/-- The queue of a name under a policy. -/
def RetryPolicy.queue (policy : RetryPolicy) (name : String) : Queue :=
  let plain : Queue := { name, durable := true }
  match policy with
  | requeue => plain
  | deadLetter retries ttl => (plain.withRetry ttl retries).withDeadLetter

@[simp] theorem RetryPolicy.name_queue (policy : RetryPolicy) (name : String) :
    (policy.queue name).name = name := by
  cases policy <;> rfl

/-- How a delivery is settled. -/
inductive Disposition where
  | ack
  /-- Back to the queue it came from. -/
  | requeue
  /-- Refused; the queue's arguments send it to the retry queue. -/
  | retry
  /-- Copied to the dead-letter queue, then acknowledged. -/
  | deadLetter
  deriving DecidableEq

/-- Every settlement. -/
def Disposition.all : List Disposition := [ack, requeue, retry, deadLetter]

/-- The name of a settlement. -/
def Disposition.name (d : Disposition) : String :=
  match d with
  | ack => "Ack"
  | requeue => "Requeue"
  | retry => "Retry"
  | deadLetter => "DeadLetter"

/-- The settlement of an outcome. A delivery that failed and has been refused `deaths` times before
is tried again while the policy has retries left. -/
def RetryPolicy.disposition (policy : RetryPolicy) (outcome : Except MessagingError Unit)
    (deaths : Int) : Disposition :=
  match outcome, policy with
  | .ok _, _ => .ack
  | .error _, requeue => .requeue
  | .error _, deadLetter retries _ => if deaths < retries then .retry else .deadLetter

end Courier
