import Courier.Amqp.Value
import Courier.Log

/-!
# Topology

Exchanges, queues and the bindings between them, and what declaring them asks of a broker. A queue
may have a retry queue, where failed messages wait, and a dead-letter queue, where they end. Both
are declared before the queue that sends messages to them.
-/

namespace Courier
set_option autoImplicit false
open Amqp

/-- An exchange. Every exchange routes by the exact key. -/
structure Exchange where
  name : String
  durable : Bool := false
  deriving DecidableEq

/-- The kind of every exchange. -/
def Exchange.kind (_ : Exchange) : String := "direct"

/-- The exchange, made to survive a restart of the broker. -/
def Exchange.asDurable (e : Exchange) : Exchange := { e with durable := true }

/-- A queue, with the queues that its failed messages go to. -/
structure Queue where
  name : String
  durable : Bool := false
  deadLetterName : Option String := none
  retryName : Option String := none
  /-- How long a message stays in the retry queue, in milliseconds. -/
  retryTtl : Option Int := none
  retries : Option Int := none
  deriving DecidableEq

namespace Queue

/-- The queue, made to survive a restart of the broker. -/
def asDurable (q : Queue) : Queue := { q with durable := true }

/-- The queue with a dead-letter queue beside it. -/
def withDeadLetter (q : Queue) : Queue := { q with deadLetterName := some (q.name ++ "-dlq") }

/-- The queue with a retry queue beside it. -/
def withRetry (q : Queue) (ttl retries : Int) : Queue :=
  { q with retryName := some (q.name ++ "-retry"), retryTtl := some ttl, retries := some retries }

/-- The arguments that send what a queue refuses to another queue. The default exchange routes by
the name of the queue. -/
def deadLetterTo (target : String) : Table :=
  [("x-dead-letter-exchange", .ofText ""), ("x-dead-letter-routing-key", .ofText target)]

/-- The arguments of the queue: what it refuses goes to its retry queue, or else to its dead-letter
queue. -/
def arguments (q : Queue) : Table :=
  match q.retryName.or q.deadLetterName with
  | some target => deadLetterTo target
  | none => []

/-- The arguments of the retry queue: what has waited long enough goes back to the queue. -/
def retryArguments (q : Queue) : Table :=
  match q.retryTtl with
  | some ttl => (deadLetterTo q.name).insert "x-message-ttl" (.longInt ttl)
  | none => deadLetterTo q.name

end Queue

/-- What a queue takes from an exchange. -/
structure Binding where
  queue : String
  exchange : String := ""
  routingKey : String := ""
  deriving DecidableEq

/-- What is to be there before messages flow. -/
structure Topology where
  exchanges : List Exchange
  queues : List Queue
  bindings : List Binding

/-- A single demand on a broker. -/
inductive Declaration where
  | exchange (exchange : Exchange)
  | queue (name : String) (durable : Bool) (arguments : Table)
  | binding (binding : Binding)

namespace Declaration

/-- The failure that a refused declaration makes. -/
def refused : Declaration → BrokerError
  | exchange e => .declareExchange e.name
  | queue name _ _ => .declareQueue name
  | binding b => .bind b.exchange b.queue

/-- What is reported of a refused declaration. -/
def refusal (reason : String) : Declaration → Log.Event
  | exchange e => .exchangeFailed reason e.name
  | queue name _ _ => .queueFailed reason name
  | binding _ => .bindFailed reason

end Declaration

/-- The declarations of a queue: its retry queue, its dead-letter queue, the queue itself. -/
def Queue.declarations (q : Queue) : List Declaration :=
  (q.retryName.map fun name => .queue name q.durable q.retryArguments).toList
    ++ (q.deadLetterName.map fun name => .queue name q.durable []).toList
    ++ [.queue q.name q.durable q.arguments]

namespace Topology

/-- Every declaration, in the order of installation. -/
def declarations (t : Topology) : List Declaration :=
  t.exchanges.map .exchange ++ t.queues.flatMap Queue.declarations ++ t.bindings.map .binding

/-- The topology of one queue that takes one key from one durable exchange. -/
def single (q : Queue) (exchange routingKey : String) : Topology where
  exchanges := [{ name := exchange, durable := true }]
  queues := [q]
  bindings := [{ queue := q.name, exchange, routingKey }]

end Topology

section Install
variable {β : Type}

/-- Something that declarations can be put to; it answers a refusal by its reason. -/
abbrev Declarer (β : Type) : Type := Declaration → StateM β (Except BrokerError Unit)

namespace Queue

/-- Puts a queue's declarations, up to the first refusal. -/
def install (declare : Declarer β) (q : Queue) : ExceptT BrokerError (StateM β) Unit := do
  if let some name := q.retryName then
    ExceptT.mk (declare (.queue name q.durable q.retryArguments))
  if let some name := q.deadLetterName then
    ExceptT.mk (declare (.queue name q.durable []))
  ExceptT.mk (declare (.queue q.name q.durable q.arguments))

end Queue

namespace Topology

/-- Puts a topology's declarations, up to the first refusal: exchanges, then queues, then
bindings. -/
def install (declare : Declarer β) (t : Topology) : ExceptT BrokerError (StateM β) Unit := do
  t.exchanges.forM fun e => ExceptT.mk (declare (.exchange e))
  t.queues.forM (Queue.install declare)
  t.bindings.forM fun b => ExceptT.mk (declare (.binding b))

end Topology
end Install

end Courier
