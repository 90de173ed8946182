import Courier.Envelope
import Courier.Proofs.Contract
import Courier.Proofs.Json.Recognition

/-!
# Envelopes that come back

An envelope is read back as it was written, but for a nil cause, which is read as none
(`Envelope.settled`). Whatever a body holds, its payload is the text of a value and its cause is
not nil (`Envelope.wasRead_of_decode`), so what was read once is read again unchanged after it was
written (`Envelope.decode_round_trip`).
-/

namespace Courier
set_option autoImplicit false
open Json Reading

namespace Envelope

/-- An envelope as it is read: a nil cause is none. -/
def settled (e : Envelope) : Envelope :=
  { e with causationId := e.causationId.filter fun id => !id.isNil }

/-- Nothing changes where the cause is not nil. -/
theorem settled_eq {e : Envelope} (cause : ∀ id ∈ e.causationId, id.isNil = false) :
    e.settled = e := by
  have same : e.causationId.filter (fun id => !id.isNil) = e.causationId := by
    cases held : e.causationId with
    | none => rfl
    | some id => exact Option.filter_some_pos (by rw [cause id held]; rfl)
  unfold settled
  rw [same]

/-- A cause is read as it was written, the nil one as none. -/
theorem causeCodec_carries (cause : Option Uuid) :
    causeCodec.Carries cause (cause.filter fun id => !id.isNil) := by
  intro rest _
  have read := readUuid_text (cause.getD .nil) rest
  have quoted : ∃ more, Utf8.encode (writeText (cause.getD .nil).text) ++ rest = octet '"' :: more := by
    rw [encode_writeText]
    exact ⟨_, rfl⟩
  obtain ⟨more, quoted⟩ := quoted
  show (readOption readUuid >>= fun id => pure (id.filter fun id => !id.isNil))
    (Utf8.encode (writeText (cause.getD .nil).text) ++ rest) = _
  rw [quoted] at read ⊢
  have option : readOption readUuid (octet '"' :: more) = .ok (some (cause.getD .nil), rest) := by
    unfold readOption
    rw [bind_ok (peek_cons (by decide) _)]
    rw [if_neg (by decide), bind_ok read]
    rfl
  rw [bind_ok option]
  cases cause with
  | none => rfl
  | some id => rfl

/-- An envelope around a value is read back. -/
theorem decode_body {e : Envelope} (raw : IsRaw e.payload) : decode e.body = .ok e.settled := by
  have carries : shape.codec.Carries e (shape.ofRecord (shape.toRecord e.settled)) :=
    Shape.carries (by decide)
      ⟨faithful_uuid.carries _, faithful_text.carries _, faithful_uuid.carries _,
        causeCodec_carries _, faithful_instant.carries _, carries_raw raw, trivial⟩
  unfold decode body wire
  rw [carries.document]
  rfl

/-- What can be said of every envelope that was read: its cause is not nil and its payload is the
text of a value. -/
structure WasRead (e : Envelope) : Prop where
  cause : ∀ id ∈ e.causationId, id.isNil = false
  payload : IsRaw e.payload

theorem causeCodec_read {cause : Option Uuid} {bs rest : Octets}
    (h : causeCodec.read bs = .ok (cause, rest)) : ∀ id ∈ cause, id.isNil = false := by
  obtain ⟨found, mid, _, h⟩ := bind_eq_ok h
  cases h
  intro id mem
  have kept := (Option.filter_eq_some_iff.1 mem).2
  simpa using kept

theorem wasRead_of_decode {b : Octets} {e : Envelope} (h : decode b = .ok e) : e.WasRead := by
  unfold decode at h
  cases read : document shape.codec.read b with
  | error cause => rw [read] at h; cases h
  | ok envelope =>
    rw [read] at h
    cases h
    obtain ⟨record, obtained, rfl⟩ := Shape.document_obtained read
    obtain ⟨_, _, _, cause, _, payload, _⟩ := obtained
    obtain ⟨_, _, causeRead⟩ := Field.obtained_required cause
    obtain ⟨_, _, payloadRead⟩ := Field.obtained_required payload
    exact ⟨causeCodec_read causeRead, isRaw_of_readRaw payloadRead⟩

/-- The envelope around a message in a context. -/
def around (m : Message) (c : MessageContext) (s : Supply) : Envelope where
  envelopeId := s.drawId.1
  messageType := m.contract.name
  correlationId := c.correlationId
  causationId := c.causationId
  createdUtc := s.drawId.2.readClock.1
  payload := m.payload

/-- A flow with a context wraps any message. -/
theorem wrap_of_current {f : Flow} {c : MessageContext} (m : Message) (s : Supply)
    (current : f.current = some c) : wrap m f s = (.ok (around m c s), s.drawId.2.readClock.2) := by
  unfold wrap
  rw [current]
  rfl

/-- The message wrapped is the message read from what was wrapped. -/
theorem message_of_payload {e : Envelope} {m : Message} (payload : e.payload = m.payload) :
    e.message m.contract = .ok m := by
  unfold message
  rw [payload, Contract.decode_payload]

/-- Reading undoes writing. An envelope around a value is read back, a nil cause as none; a message
wrapped in a context is read back together with the context; and what any body was read as is
written to a body that is read as the same. -/
theorem decode_round_trip :
    (∀ e : Envelope, IsValue (Utf8.encode e.payload) →
      decode e.body = .ok { e with causationId := e.causationId.filter fun id => !id.isNil }) ∧
    (∀ (m : Message) (f : Flow) (c : MessageContext) (s : Supply), f.current = some c →
      ∃ e s' d, wrap m f s = (.ok e, s') ∧ decode e.body = .ok d ∧ d.message m.contract = .ok m ∧
        d.context.correlationId = c.correlationId ∧
        d.context.causationId = c.causationId.filter fun id => !id.isNil) ∧
    (∀ (b : Octets) (e : Envelope), decode b = .ok e → decode e.body = .ok e) := by
  refine ⟨fun e value => decode_body value.isRaw, ?_, ?_⟩
  · intro m f c s current
    have read : decode (around m c s).body = _ := decode_body m.isRaw_payload
    refine ⟨around m c s, _, _, wrap_of_current m s current, read, ?_, rfl, rfl⟩
    exact message_of_payload rfl
  · intro b e h
    have was := wasRead_of_decode h
    rw [decode_body was.payload, settled_eq was.cause]

/-- An envelope with a nil cause around a list written with a blank. -/
def nilCaused : Envelope := ⟨.nil, "é\n", .nil, some .nil, .epoch, "[ 7]"⟩

/-- What the three parts say of `nilCaused`, of a deletion wrapped in its context, and of its body. -/
theorem decode_round_trip_nilCaused :
    decode nilCaused.body = .ok { nilCaused with causationId := none } ∧
    (∃ e s' d, wrap ⟨.deleteClient, ⟨.nil⟩⟩ (.of nilCaused.context)
        (.fresh (fun _ => .nil) fun _ => .epoch) = (.ok e, s') ∧ decode e.body = .ok d ∧
      d.message .deleteClient = .ok ⟨.deleteClient, ⟨.nil⟩⟩ ∧
      d.context.correlationId = .nil ∧ d.context.causationId = none) ∧
    decode nilCaused.settled.body = .ok nilCaused.settled := by
  have read := decode_round_trip.1 nilCaused (isRaw_iff.1 rfl)
  exact ⟨read, decode_round_trip.2.1 ⟨.deleteClient, ⟨.nil⟩⟩ _ nilCaused.context _ rfl,
    decode_round_trip.2.2 nilCaused.body nilCaused.settled read⟩

end Envelope

end Courier
