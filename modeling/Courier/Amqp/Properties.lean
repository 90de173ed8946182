import Courier.Amqp.Value

/-!
# Properties of a message

What travels beside a body, and the sequence number that a publisher puts among the headers so
that a returned message can be matched to its publish.
-/

namespace Courier.Amqp
set_option autoImplicit false

/-- The properties of a message; each may be missing. -/
structure Properties where
  contentType : Option String := none
  contentEncoding : Option String := none
  headers : Option Table := none
  deliveryMode : Option Nat := none
  priority : Option Nat := none
  correlationId : Option String := none
  replyTo : Option String := none
  expiration : Option String := none
  messageId : Option String := none
  timestamp : Option Nat := none
  messageType : Option String := none
  userId : Option String := none
  appId : Option String := none

namespace Properties

/-- The properties that are set, by their names. -/
def members (p : Properties) : List (String × Value) :=
  let all : List (String × Option Value) :=
    [("content_type", p.contentType.map .shortString),
      ("content_encoding", p.contentEncoding.map .shortString),
      ("headers", p.headers.map .fieldTable),
      ("delivery_mode", p.deliveryMode.map .shortShortUInt),
      ("priority", p.priority.map .shortShortUInt),
      ("correlation_id", p.correlationId.map .shortString),
      ("reply_to", p.replyTo.map .shortString), ("expiration", p.expiration.map .shortString),
      ("message_id", p.messageId.map .shortString), ("timestamp", p.timestamp.map .timestamp),
      ("type", p.messageType.map .shortString), ("user_id", p.userId.map .shortString),
      ("app_id", p.appId.map .shortString)]
  all.filterMap fun (name, value) => value.map fun v => (name, v)

/-- The headers, an empty table where there are none. -/
def headerTable (p : Properties) : Table := p.headers.getD []

/-- The properties with a header set. -/
def withHeader (p : Properties) (name : String) (value : Value) : Properties :=
  { p with headers := some (p.headerTable.insert name value) }

end Properties

/-- The header of the sequence number. -/
def sequenceHeader : String := "x-publish-sequence-number"

/-- The greatest signed integer of 64 bits. -/
def maxLongLongInt : Nat := Nat.pow 2 63 - 1

/-- The properties with a sequence number among the headers, the greatest one that fits in place of
one that does not. -/
def Properties.withSequence (p : Properties) (sequence : Nat) : Properties :=
  p.withHeader sequenceHeader (.longLongInt (min sequence maxLongLongInt : Nat))

/-- The number that eight octets stand for, most significant first. -/
def bigEndian (bs : Octets) : Nat := bs.foldl (fun n b => 256 * n + b.toNat) 0

/-- The sequence number in a value, zero where there is none. -/
def Value.sequence : Value → Nat
  | .longLongInt n | .longInt n => n.toNat
  | .longUInt n | .timestamp n => n
  | .byteArray bs => if bs.length = 8 then bigEndian bs else 0
  | _ => 0

/-- The sequence number of a returned message, zero where there is none. -/
def Properties.returnedSequence (p : Properties) : Nat :=
  ((p.headerTable.get? sequenceHeader).map Value.sequence).getD 0

end Courier.Amqp
