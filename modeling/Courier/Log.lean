import Courier.Error

/-!
# The log

What a service reports beside its answers: events by their meaning, and the entry that each one
makes.
-/

namespace Courier.Log
set_option autoImplicit false

/-- How grave an entry is. -/
inductive Level where
  | warn
  | error
  deriving DecidableEq

/-- The value of a field. -/
inductive FieldValue where
  | text (value : String)
  | number (value : Int)
  | flag (value : Bool)
  deriving DecidableEq

/-- A line of the log. -/
structure Entry where
  level : Level
  message : String
  fields : List (String × FieldValue)
  deriving DecidableEq

/-- Something worth a line. -/
inductive Event where
  | repeatedRegistration (messageType : String)
  | failedValidation (messageType : String) (violations : List Violation)
  | unknownMessageType (messageType : String)
  | publishFailed (error : BrokerError) (exchange routingKey : String) (sequence : Nat)
  | nacked (channel : String) (sequence : Nat)
  | confirmationLost (error : BrokerError) (channel : String) (sequence : Nat)
  | returned (exchange routingKey reply : String) (sequence : Nat)
  | requeuing
  | retrying
  | ackFailed (reason : String)
  | nackFailed (reason : String) (requeue : Bool)
  | deliveryFailed (error : MessagingError) (messageType : String)
  | settlementFailed (error : BrokerError)
  | deadLettering (queue : String)
  | deadLetterFailed (reason : String)
  | streamFailed (reason queue : String)
  | streamEnded (queue : String)
  | reconnecting
  | connectFailed (reason : String)
  | channelFailed (reason key : String)
  | confirmSelectFailed (reason key : String)
  | exchangeFailed (reason name : String)
  | queueFailed (reason name : String)
  | bindFailed (reason : String)
  | prefetchFailed (reason : String)
  | consumerFailed (reason queue : String)
  | consumerAborted
  | closeChannelFailed (reason key : String)
  | closeConnectionFailed (reason : String)
  deriving DecidableEq

/-- The line of an event. -/
def Event.entry : Event → Entry
  | .repeatedRegistration messageType =>
    ⟨.warn, "duplicated message type registration ignored", [("message_type", .text messageType)]⟩
  | .failedValidation messageType violations =>
    ⟨.warn, "message failed validation",
      [("message_type", .text messageType), ("violations", .text (Violation.summary violations))]⟩
  | .unknownMessageType messageType =>
    ⟨.warn, "unknown message type", [("message_type", .text messageType)]⟩
  | .publishFailed error exchange routingKey sequence =>
    ⟨.error, "error publishing message",
      [("error", .text error.message), ("exchange", .text exchange),
        ("routing_key", .text routingKey), ("sequence", .number sequence)]⟩
  | .nacked channel sequence =>
    ⟨.warn, "message nack-ed by the broker",
      [("channel", .text channel), ("sequence", .number sequence)]⟩
  | .confirmationLost error channel sequence =>
    ⟨.error, "confirmation lost",
      [("error", .text error.message), ("channel", .text channel), ("sequence", .number sequence)]⟩
  | .returned exchange routingKey reply sequence =>
    ⟨.warn, "message has been basic.return-ed",
      [("exchange", .text exchange), ("routing_key", .text routingKey), ("reply_text", .text reply),
        ("sequence", .number sequence)]⟩
  | .requeuing => ⟨.warn, "error whiling handling msg, requeuing", []⟩
  | .retrying => ⟨.warn, "error whiling handling msg, requeuing for latter", []⟩
  | .ackFailed reason => ⟨.error, "error whiling ack msg", [("error", .text reason)]⟩
  | .nackFailed reason requeue =>
    ⟨.error, "error whiling nack msg", [("error", .text reason), ("requeue", .flag requeue)]⟩
  | .deliveryFailed error messageType =>
    ⟨.error, "failure to process msg",
      [("error", .text error.message), ("message_type", .text messageType)]⟩
  | .settlementFailed error => ⟨.error, "error consume msg", [("error", .text error.message)]⟩
  | .deadLettering queue =>
    ⟨.error, "too many attempts, sending to dlq", [("queue", .text queue)]⟩
  | .deadLetterFailed reason => ⟨.error, "error whiling sending to dlq", [("error", .text reason)]⟩
  | .streamFailed reason queue =>
    ⟨.error, "errors consume msg", [("error", .text reason), ("queue", .text queue)]⟩
  | .streamEnded queue => ⟨.warn, "consumer stream ended, channel closed", [("queue", .text queue)]⟩
  | .reconnecting => ⟨.warn, "amqp connection closed, reconnecting", []⟩
  | .connectFailed reason => ⟨.error, "failure to connect", [("error", .text reason)]⟩
  | .channelFailed reason key =>
    ⟨.error, "error to create the channel", [("error", .text reason), ("key", .text key)]⟩
  | .confirmSelectFailed reason key =>
    ⟨.error, "error to enable confirms", [("error", .text reason), ("key", .text key)]⟩
  | .exchangeFailed reason name =>
    ⟨.error, "error to declare the exchange", [("error", .text reason), ("name", .text name)]⟩
  | .queueFailed reason name =>
    ⟨.error, "error to declare the queue", [("error", .text reason), ("name", .text name)]⟩
  | .bindFailed reason => ⟨.error, "error to bind queue to exchange", [("error", .text reason)]⟩
  | .prefetchFailed reason => ⟨.error, "failure to configure qos", [("error", .text reason)]⟩
  | .consumerFailed reason queue =>
    ⟨.error, "failure to create the consumer", [("error", .text reason), ("queue", .text queue)]⟩
  | .consumerAborted => ⟨.error, "tokio process error", []⟩
  | .closeChannelFailed reason key =>
    ⟨.warn, "failure to close channel", [("error", .text reason), ("key", .text key)]⟩
  | .closeConnectionFailed reason =>
    ⟨.error, "failure to close connection", [("error", .text reason)]⟩

end Courier.Log
