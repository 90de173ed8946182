import Courier.Context
import Courier.Contract.Document

/-!
# Envelopes

What wraps a message between services: its own identifier, the type and context of the message,
and the payload as it was written. Reading an envelope leaves the payload alone; decoding it as a
message is a second step.
-/

namespace Courier
set_option autoImplicit false

/-- A wrapped message. The payload is the text of one JSON value. -/
structure Envelope where
  envelopeId : Uuid
  messageType : String
  correlationId : Uuid
  causationId : Option Uuid
  createdUtc : Instant
  payload : String
  deriving DecidableEq

namespace Envelope
open Json

/-- A cause as an identifier that is always there: none is written as the nil one, and the nil one
is read as none. -/
def causeCodec : Codec (Option Uuid) where
  read := do return (← readOption readUuid).filter fun id => !id.isNil
  write cause := writeText (cause.getD .nil).text

/-- The document of an envelope. -/
def shape : Shape Envelope where
  schema := ⟨"Envelope", [.required "EnvelopeId" .uuid, .required "MessageType" .text,
    .required "CorrelationId" .uuid, .required "CausationId" causeCodec,
    .required "CreatedUtc" .instant, .required "Payload" .raw]⟩
  toRecord e :=
    (e.envelopeId, e.messageType, e.correlationId, e.causationId, e.createdUtc, e.payload, ())
  ofRecord
    | (envelopeId, messageType, correlationId, causationId, createdUtc, payload, ()) =>
      ⟨envelopeId, messageType, correlationId, causationId, createdUtc, payload⟩

/-- The text of an envelope. -/
def wire (e : Envelope) : String := shape.codec.write e

/-- The octets of an envelope, the body of a published message. -/
def body (e : Envelope) : Octets := Utf8.encode e.wire

/-- The envelope that a body holds. -/
def decode (body : Octets) : Except MessagingError Envelope :=
  match document shape.codec.read body with
  | .ok e => .ok e
  | .error cause => .error (.malformedEnvelope cause)

/-- The context a consumer goes on with. -/
def context (e : Envelope) : MessageContext := ⟨e.correlationId, e.causationId, e.createdUtc⟩

/-- Wraps a message in its flow, which has to have a context. -/
def wrap (m : Message) (f : Flow) (s : Supply) : Except MessagingError Envelope × Supply :=
  match f.current with
  | none => (.error .missingContext, s)
  | some c =>
    let (envelopeId, s) := s.drawId
    let (createdUtc, s) := s.readClock
    (.ok {
      envelopeId
      messageType := m.contract.name
      correlationId := c.correlationId
      causationId := c.causationId
      createdUtc
      payload := m.payload }, s)

/-- The message of an envelope, read as a given type whatever the envelope calls it. -/
def message (e : Envelope) (c : Contract) : Except MessagingError Message :=
  match c.decode (Utf8.encode e.payload) with
  | .ok m => .ok m
  | .error cause => .error (.serialization c.name cause)

end Envelope

end Courier
