import Courier.Proofs.Publication
import Courier.Proofs.Reception

/-!
# From a publisher to a handler

What one service publishes, the handler of another receives (`Publication.publish_received`): the
frame of a publish that succeeded, received with every contract known and a handler at hand for the
message's type, is one turn of that handler, with the same message in the same chain of causes.
-/

namespace Courier
set_option autoImplicit false
open Confirm

/-- The context that a message is received in, sent from a context and wrapped at a time. -/
def MessageContext.received (c : MessageContext) (createdUtc : Instant) : MessageContext :=
  ⟨c.correlationId, c.causationId.filter fun id => !id.isNil, createdUtc⟩

/-- The body of a message in its envelope is one turn of the handler of its type. -/
theorem Reception.receive_around {τ : Type} (opening : Work τ (Scope τ)) (m : Message)
    (c : MessageContext) (s : Supply)
    (handled : ∀ t, ((opening t).1.handlers m.contract).isSome) (t : Surroundings (τ × List Turn)) :
    (receive (standard .discover (Scope.openRecorded opening)) dispatch (Envelope.around m c s).body
        t).2.world.2
      = t.world.2 ++ [⟨m.contract, m, c.received (Envelope.around m c s).createdUtc⟩] := by
  have decoded := Envelope.decode_body (e := Envelope.around m c s) m.isRaw_payload
  have read : (Envelope.around m c s).settled.message m.contract = .ok m :=
    Envelope.message_of_payload rfl
  rw [receive_envelope decoded rfl read]
  exact Scope.record_invoke (handled _) _ _

namespace Publication

/-- Publishing reaches the handler. However a publish through any broker comes to succeed, it has
handed over one frame. Received with every contract known and any handlers at hand, the message's
among them, the frame's payload makes for one turn: that of the handler of the message's type, with
the message as the publish left it, in the correlation and after the cause that the publisher's flow
has by then, at the time the envelope was made. -/
theorem publish_received {σ τ : Type} (broker : Broker σ) (exchange : String)
    (trace : List (String × String)) (opening : Work τ (Scope τ))
    {p p' : Publication (σ × List Frame)} {receipt : Receipt}
    (published : (publish standard (terminal broker.recorded (.of exchange) trace)).run p
      = (.ok receipt, p'))
    (handled : ∀ t, ((opening t).1.handlers p.message.contract).isSome) :
    ∃ (frame : Frame) (e : Envelope) (c : MessageContext),
      p'.around.world.2 = p.around.world.2 ++ [frame] ∧
      Envelope.decode frame.payload = .ok e ∧
      p'.flow.current = some c ∧
      p.message.Identified p'.message ∧
      ∀ t : Surroundings (τ × List Turn),
        (Reception.receive (Reception.standard .discover (Scope.openRecorded opening))
            Reception.dispatch frame.payload t).2.world.2
          = t.world.2 ++ [⟨p.message.contract, p'.message, ⟨c.correlationId,
              c.causationId.filter fun id => !id.isNil, e.createdUtc⟩⟩] := by
  obtain ⟨c, s, frame, current, payload, handed, identified⟩ := publish_ok published
  have contract : p'.message.contract = p.message.contract := identified.contract
  refine ⟨frame, (Envelope.around p'.message c s).settled, c, handed, ?_, current, identified, ?_⟩
  · rw [payload]
    exact Envelope.decode_body p'.message.isRaw_payload
  · intro t
    rw [← contract] at handled ⊢
    rw [payload]
    exact Reception.receive_around opening p'.message c s handled t

/-- A broker that takes everything, under the same number. -/
def obliging : Broker Unit where
  declare _ _ _ := return some (.ok ())
  publish _ := return .ok 1

/-- A deletion without an identifier or a chain, and one identifier to draw. -/
def unidentified : Publication (Unit × List Frame) where
  message := ⟨.clientDeleted, ⟨.nil⟩⟩
  flow := .empty
  receipt := none
  supply := .fresh (fun _ => ⟨List.replicate 16 1, rfl⟩) fun _ => .epoch
  declared := []
  around := ⟨((), []), false, []⟩

/-- A scope with a handler for deletions that does nothing. -/
def attentive : Scope Unit := Scope.empty.withHandler .clientDeleted fun _ _ => return .ok ()

/-- The deletion is published, and reaches the handler once. -/
theorem publish_received_unidentified :
    ∃ frame : Frame,
      ((publish standard (terminal obliging.recorded (.of "bus") [])).run unidentified).2.around.world.2
        = [frame] ∧
      ∀ t : Surroundings (Unit × List Turn), ∃ m context,
        (Reception.receive (Reception.standard .discover (Scope.openRecorded (pure attentive)))
            Reception.dispatch frame.payload t).2.world.2
          = t.world.2 ++ [⟨.clientDeleted, m, context⟩] := by
  have received := publish_received obliging "bus" [] (pure attentive) (p := unidentified) rfl
    (fun _ => rfl)
  obtain ⟨frame, e, c, handed, _, _, _, turn⟩ := received
  exact ⟨frame, handed, fun t => ⟨_, _, turn t⟩⟩

end Publication

end Courier
