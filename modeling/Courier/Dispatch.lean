import Courier.Dispatch.Loop
import Courier.Link
import Courier.Reception

/-!
# Dispatch

A service that consumes every type of a registry: it subscribes to the queue of each, starts a loop
for each subscription, and waits until all have stopped.
-/

namespace Courier
set_option autoImplicit false
open Amqp Confirm

/-- A queue that is consumed, and the channel instance it is consumed on. -/
structure Subscription where
  queue : Queue
  channel : Nat

/-- Where a loop is. -/
inductive LoopState where
  | running
  | stopped (exit : Exit)
  /-- Its handler brought it down. -/
  | aborted
  deriving DecidableEq

/-- A loop that was started. -/
structure ConsumerLoop where
  subscription : Subscription
  state : LoopState

/-- A dispatch: the loops started so far, and its result once it has returned. A dispatch that
returned early does not stop the loops it started. -/
structure Dispatch where
  loops : List ConsumerLoop
  result : Option (Except MessagingError Unit)

namespace Dispatch
variable {σ : Type}

/-- The tag that a service consumes a queue under. -/
def tag (service queue : String) : String := service ++ "-" ++ queue

/-- Declares and subscribes to the queue of a type. -/
def subscribe (server : Server σ) (routing : String → Route) (name : String) :
    Link.Step σ Subscription := do
  let queue := (← Link.current).policy.queue name
  let ⟨exchange, routingKey⟩ := routing name
  Link.declareQueue server queue exchange routingKey
  let i ← Link.channel server name .default
  let link ← Link.current
  Link.limit server i link.settings.prefetch
  Link.demand server (.subscribe (link.handle i) name (tag link.settings.appName name))
    (.consumerFailed · name) (.consume name)
  return ⟨queue, i⟩

/-- Subscribes to names in order, up to the first failure, after some loops were started. -/
def subscribeAll (server : Server σ) (routing : String → Route) (loops : List ConsumerLoop) :
    List String → Work (Link σ) Dispatch
  | [] => return ⟨loops, none⟩
  | name :: names => do
    match ← (subscribe server routing name).run with
    | .ok subscription =>
      subscribeAll server routing (loops ++ [⟨subscription, .running⟩]) names
    | .error e => return ⟨loops, some (.error (.ofBroker e))⟩

/-- Starts to consume every type of a registry. -/
def start (server : Server σ) (routing : String → Route) (registry : Registry) :
    Work (Link σ) Dispatch :=
  subscribeAll server routing [] registry.names

/-- The first failure among loops that stopped. -/
def firstLost : List ConsumerLoop → Except BrokerError Unit
  | [] => .ok ()
  | ⟨subscription, .stopped exit⟩ :: rest =>
    match exit.result subscription.queue.name with
    | .ok () => firstLost rest
    | .error e => .error e
  | _ :: rest => firstLost rest

/-- Waits for the loops: there is a result once none is running. -/
def join (d : Dispatch) : Work σ Dispatch := do
  if d.result.isSome || d.loops.any fun l => l.state = .running then
    return d
  if d.loops.any fun l => l.state = .aborted then
    Work.report .consumerAborted
    return { d with result := some (.error (.broker .internal)) }
  match firstLost d.loops with
  | .ok () => return { d with result := some (.ok ()) }
  | .error e => return { d with result := some (.error (.ofBroker e)) }

/-- The way a link settles deliveries of a channel. -/
def settling (server : Server σ) (handle : Nat) : Settling (Link σ) where
  ack tag := (Link.demand server (.ack handle tag) .ackFailed .ack).run
  nack tag requeue :=
    (Link.demand server (.nack handle tag requeue) (.nackFailed · requeue)
      (if requeue then .requeue else .nack)).run

/-- The way a link copies a delivery to a queue: through the default exchange, and not mandatory. -/
def copyTo (server : Server σ) (handle : Nat) (queue : String) (d : Delivery) :
    Work (Link σ) (Except String Unit) :=
  Work.inWorld fun link =>
    let frame : Frame := ⟨"", queue, d.body, d.properties⟩
    let (result, world) := server.request (.publish handle frame false) link.server
    (result, { link with server := world })

/-- The consumer of a subscription, on a channel of the server's number. -/
def consumer (server : Server σ) (policy : RetryPolicy) (subscription : Subscription)
    (handle : Nat) (receive : Octets → Work (Link σ) (Except MessagingError Unit)) :
    Consumer (Link σ) where
  queue := subscription.queue
  policy
  handle := receive
  settling := settling server handle
  copyTo := copyTo server handle

end Dispatch

end Courier
