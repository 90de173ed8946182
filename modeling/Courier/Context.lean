import Courier.Error
import Courier.Supply

/-!
# Message contexts

Which chain of messages a piece of work belongs to and what caused it. A flow (a request, a
delivery) holds at most one context; a cause can only be recorded where there is one.
-/

namespace Courier
set_option autoImplicit false

/-- The place of a message in a chain of causes. -/
structure MessageContext where
  correlationId : Uuid
  causationId : Option Uuid
  timestamp : Instant
  deriving DecidableEq

namespace MessageContext

/-- The start of a new chain, without a cause. -/
def start (s : Supply) : MessageContext × Supply :=
  let (correlationId, s) := s.drawId
  let (timestamp, s) := s.readClock
  (⟨correlationId, none, timestamp⟩, s)

/-- The same chain after another cause. -/
def causedBy (c : MessageContext) (id : Uuid) : MessageContext := { c with causationId := some id }

end MessageContext

/-- A flow of work and the context it holds. -/
structure Flow where
  current : Option MessageContext
  deriving DecidableEq

namespace Flow

/-- A flow without a context. -/
def empty : Flow := ⟨none⟩

/-- A flow that goes on with a context. -/
def of (c : MessageContext) : Flow := ⟨some c⟩

/-- The flow's context, a new chain being started where there is none. -/
def getOrCreate (f : Flow) (s : Supply) : MessageContext × Flow × Supply :=
  match f.current with
  | some c => (c, f, s)
  | none =>
    let (c, s) := MessageContext.start s
    (c, of c, s)

/-- Records what caused whatever the flow does next. It has to be an identifier other than nil, in
a flow that has a context. -/
def setCause (f : Flow) (id : Uuid) : Except MessagingError (MessageContext × Flow) :=
  if id.isNil then
    .error (.invalidArgument "causation_id" "the provided causation id is the nil uuid")
  else
    match f.current with
    | none =>
      .error (.invalidArgument "causation_id" "no message context established for the current flow")
    | some c => .ok (c.causedBy id, of (c.causedBy id))

end Flow

end Courier
