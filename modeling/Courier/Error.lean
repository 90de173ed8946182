import Courier.Json.Error
import Courier.Validation

/-!
# What can go wrong

Failures of the broker, of a handler, and of sending or receiving a message, each by its cause,
with their wording.
-/

namespace Courier
set_option autoImplicit false

/-- A failure in dealing with the broker. -/
inductive BrokerError where
  | internal
  | connection (reason : String)
  | channel (key : String)
  | confirmSelect (key : String)
  | declareExchange (exchange : String)
  | declareQueue (queue : String)
  | bind (exchange queue : String)
  | consume (queue : String)
  | publish (reason : String)
  | ack
  | nack
  | requeue
  | deadLetter
  | prefetch (key : String)
  | close (what : String)
  | consumerLost (queue : String)
  | cancelled
  deriving DecidableEq

/-- The wording of a broker failure. -/
def BrokerError.message : BrokerError → String
  | .internal => "internal error"
  | .connection reason => s!"failure to connect: {reason}"
  | .channel key => s!"failure to create a channel `{key}`"
  | .confirmSelect key => s!"failure to enable publisher confirms on channel `{key}`"
  | .declareExchange exchange => s!"failure to declare an exchange `{exchange}`"
  | .declareQueue queue => s!"failure to declare a queue `{queue}`"
  | .bind exchange queue => s!"failure to binding exchange `{exchange}` to queue `{queue}`"
  | .consume queue => s!"failure to declare consumer `{queue}`"
  | .publish reason => s!"failure to publish: {reason}"
  | .ack => "failure to ack message"
  | .nack => "failure to nack message"
  | .requeue => "failure to requeuing message"
  | .deadLetter => "failure to publish to dlq"
  | .prefetch key => s!"failure to configure qos `{key}`"
  | .close what => s!"failure to close `{what}`"
  | .consumerLost queue => s!"consumer of queue `{queue}` stopped unexpectedly"
  | .cancelled => "operation cancelled"

/-- A failure of a handler. -/
inductive HandlerError where
  /-- No handler takes messages of the type. -/
  | noHandler (messageType : String)
  /-- The handler gave up. -/
  | failed (reason : String)
  deriving DecidableEq

/-- The wording of a handler's failure. -/
def HandlerError.message : HandlerError → String
  | .noHandler messageType => s!"no handler registered for message type `{messageType}`"
  | .failed reason => s!"handler failed: {reason}"

/-- A failure in sending or receiving a message. -/
inductive MessagingError where
  | validation (violations : List Violation)
  | invalidArgument (name reason : String)
  | missingContext
  | serialization (messageType : String) (cause : Json.Error)
  | malformedEnvelope (cause : Json.Error)
  | unknownMessageType (messageType : String)
  | pipelineState (stage : String)
  | handler (cause : HandlerError)
  | broker (cause : BrokerError)
  | cancelled
  | config (key reason : String)
  deriving DecidableEq

namespace MessagingError

/-- The wording of a failure. -/
def message : MessagingError → String
  | validation violations => s!"message validation failed: {Violation.summary violations}"
  | invalidArgument name reason => s!"invalid argument `{name}`: {reason}"
  | missingContext => "no message context established for the current flow"
  | serialization messageType cause =>
    s!"failure to (de)serialize `{messageType}`: {cause.message}"
  | malformedEnvelope cause => s!"malformed envelope: {cause.message}"
  | unknownMessageType messageType => s!"unknown message type `{messageType}`"
  | pipelineState stage => s!"pipeline stage `{stage}` ran without its prerequisites"
  | handler cause => cause.message
  | broker cause => cause.message
  | cancelled => "operation cancelled"
  | config key reason => s!"invalid configuration `{key}`: {reason}"

/-- A broker failure as a failure of messaging; a cancelled broker call is a cancelled operation. -/
def ofBroker : BrokerError → MessagingError
  | .cancelled => cancelled
  | e => broker e

/-- Whether a message was refused for what it holds; sending it again is of no use. -/
def isValidation : MessagingError → Bool
  | validation _ => true
  | _ => false

end MessagingError

end Courier
