import Courier.Proofs.Acting
import Courier.Proofs.Registry
import Courier.Reception

/-!
# From a body to its handler

What the stages of receiving make of a body that holds an envelope around a message of a known type:
they open one scope and hand the message to it, in the envelope's context, and do nothing else
(`Reception.receive_envelope`).
-/

namespace Courier.Reception
set_option autoImplicit false
open Acting

variable {σ : Type}

section Stages

variable {r : Reception σ} {rest : Step σ Unit} {e : Envelope}

theorem extraction_run (decoded : Envelope.decode r.body = .ok e) :
    (extraction rest).run r = rest.run { r with context := some e.context, envelope := some e } := by
  unfold extraction
  rw [get_bind, decoded, bind_ok (run_ofExcept _), modify_bind]

theorem resolution_run {registry : Registry} {registration : Registration}
    (extracted : r.envelope = some e)
    (resolved : registry.resolve e.messageType = some registration) :
    (resolution registry rest).run r = rest.run { r with registration := some registration } := by
  have named : r.messageType = some e.messageType := by
    unfold messageType
    rw [extracted]
    rfl
  unfold resolution
  rw [get_bind, named]
  dsimp only
  rw [resolved]
  dsimp only
  rw [modify_bind]

theorem decoding_run {registration : Registration} {m : Message} (extracted : r.envelope = some e)
    (found : r.registration = some registration)
    (message : registration.message e.payload = .ok m) :
    (decoding rest).run r = rest.run { r with message := some m } := by
  unfold decoding
  rw [get_bind, extracted, found]
  dsimp only
  rw [message, bind_ok (run_ofExcept _), modify_bind, ← extracted, ← found]

end Stages

theorem work_bind {α β : Type} (act : Work σ α) (f : α → Step σ β) (r : Reception σ) :
    (work act >>= f).run r = (f (act r.around).1).run { r with around := (act r.around).2 } := rfl

/-- A scope is opened, goes on with the message's context, and is closed again. -/
theorem scoping_run {r : Reception σ} {rest : Step σ Unit} {context : MessageContext}
    (opening : Work σ (Scope σ)) (known : r.context = some context) :
    (scoping opening rest).run r =
      let (scope, around) := opening r.around
      let ended := rest.run
        { r with around, scope := some { scope with flow := .of context }, context := some context }
      (ended.1, { ended.2 with scope := none }) := by
  unfold scoping
  rw [get_bind, known]
  dsimp only
  rw [work_bind, modify_bind, bind_ok (run_observing _ _), modify_bind, run_ofExcept, known]
  rfl

/-- A message is handed to the scope once. -/
theorem dispatch_run {r : Reception σ} {m : Message} {scope : Scope σ} {context : MessageContext}
    (message : r.message = some m) (opened : r.scope = some scope)
    (known : r.context = some context) :
    dispatch.run r =
      let (result, around) := scope.invoke m context r.around
      (result.mapError .handler, { r with message := none, around }) := by
  unfold dispatch
  rw [get_bind, message]
  dsimp only
  rw [modify_bind, get_bind, opened, known]
  dsimp only
  rw [work_bind]
  obtain ⟨result, around⟩ := scope.invoke m context r.around
  cases result <;> rfl

/-- A body that holds an envelope of a registered type around what decodes as a message, whatever
was known before: one scope is opened, the message is handed to it in the envelope's context, and
neither is kept. -/
theorem run_decoded {r : Reception σ} {registry : Registry} {registration : Registration}
    {e : Envelope} {m : Message} (decoded : Envelope.decode r.body = .ok e)
    (resolved : registry.resolve e.messageType = some registration)
    (message : registration.message e.payload = .ok m) (opening : Work σ (Scope σ)) :
    run (standard registry opening) dispatch r =
      let (scope, s) := opening r.around
      let (result, s) := scope.invoke m e.context s
      (result.mapError .handler,
        ⟨r.body, some e, some registration, none, none, some e.context, s⟩) := by
  unfold run standard
  rw [Pipeline.run_cons, Pipeline.run_cons, Pipeline.run_cons, Pipeline.run_cons, Pipeline.run_nil,
    extraction_run decoded, resolution_run rfl resolved, decoding_run rfl rfl message,
    scoping_run opening rfl]
  obtain ⟨scope, around⟩ := opening r.around
  dsimp only
  rw [dispatch_run rfl rfl rfl]
  rfl

/-- A body that holds an envelope around a message of a known type: one scope is opened, the message
is handed to it in the envelope's context, and how its handler ends is how the reception ends. -/
theorem receive_envelope {body : Octets} {e : Envelope} {m : Message}
    (decoded : Envelope.decode body = .ok e) (named : e.messageType = m.contract.name)
    (read : e.message m.contract = .ok m) (opening : Work σ (Scope σ)) (s : Surroundings σ) :
    receive (standard .discover opening) dispatch body s =
      let (scope, s) := opening s
      let (result, s) := scope.invoke m e.context s
      (result.mapError .handler, s) := by
  have resolved : Registry.discover.resolve e.messageType = some (.of m.contract) := by
    rw [named]
    exact Registry.resolve_discover m.contract
  have message : (Registration.of m.contract).message e.payload = .ok m := read
  unfold receive
  rw [run_decoded (r := { body, around := s }) decoded resolved message]
  rfl

end Courier.Reception
