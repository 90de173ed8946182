import Courier.Proofs.Envelope
import Courier.Proofs.Reception
import Courier.Proofs.Recording

/-!
# What a body leads to

The standard stages go by the body alone, whatever a reception holds beside it: every stage writes
what the next one reads. A body that is no envelope, names an unknown type or does not decode ends
the run before a scope is opened; any other body opens one scope and gives one handler its turn
(`Reception.run_standard`).
-/

namespace Courier
set_option autoImplicit false
open Acting

variable {σ τ : Type}

/-! ## Scopes by their registrations -/

namespace Scope

/-- The scope that registrations make, one after the other. -/
def ofList (registrations : List (Contract × Handler σ)) : Scope σ :=
  registrations.foldl (fun s (c, handler) => s.withHandler c handler) empty

theorem handlers_foldl (registrations : List (Contract × Handler σ)) (s : Scope σ) (c : Contract) :
    (registrations.foldl (fun s (c, handler) => s.withHandler c handler) s).handlers c
      = (registrations.reverse.lookup c).or (s.handlers c) := by
  induction registrations generalizing s with
  | nil => rfl
  | cons registration rest ih =>
    obtain ⟨type, handler⟩ := registration
    rw [List.foldl_cons, ih, List.reverse_cons, List.lookup_append, Option.or_assoc]
    congr 1
    by_cases same : c = type
    · simp [withHandler, same]
    · simp [withHandler, same, List.lookup_cons, beq_false_of_ne same]

/-- Of several registrations for one type the last one counts. -/
theorem handlers_ofList (registrations : List (Contract × Handler σ)) (c : Contract) :
    (ofList registrations).handlers c = registrations.reverse.lookup c := by
  unfold ofList
  rw [handlers_foldl]
  exact Option.or_none

end Scope

/-! ## Watching scopes and handlers -/

/-- The surroundings without what stands beside their world. -/
def Surroundings.alone (s : Surroundings (σ × τ)) : Surroundings σ :=
  ⟨s.world.1, s.cancelled, s.log⟩

/-- The surroundings with something beside their world. -/
def Surroundings.with (s : Surroundings σ) (x : τ) : Surroundings (σ × τ) :=
  ⟨(s.world, x), s.cancelled, s.log⟩

/-- What a reception has asked for: a scope, or a handler's turn. -/
inductive Reception.Asked where
  | scope
  | turn (turn : Turn)

/-- The handler of a type, noting its turns. -/
def Handler.watched (c : Contract) (handler : Handler σ) : Handler (σ × List Reception.Asked) :=
  fun m context => do
    Work.record (.turn ⟨c, m, context⟩)
    (handler m context).beside

namespace Scope

/-- The scope that registrations make, its handlers noting their turns. -/
def watched (registrations : List (Contract × Handler σ)) : Scope (σ × List Reception.Asked) :=
  ofList (registrations.map fun (c, handler) => (c, handler.watched c))

/-- Opens a scope by its registrations, noting that it is opened and the turns of its handlers. -/
def openWatched (opening : Work σ (List (Contract × Handler σ))) :
    Work (σ × List Reception.Asked) (Scope (σ × List Reception.Asked)) := do
  Work.record .scope
  let registrations ← opening.beside
  return watched registrations

theorem run_openWatched (opening : Work σ (List (Contract × Handler σ)))
    (s : Surroundings (σ × List Reception.Asked)) :
    openWatched opening s =
      let (registrations, opened) := opening s.alone
      (watched registrations, opened.with (s.world.2 ++ [.scope])) := rfl

theorem handlers_watched (registrations : List (Contract × Handler σ)) (c : Contract) :
    (watched registrations).handlers c
      = (registrations.reverse.lookup c).map (Handler.watched c) := by
  unfold watched
  rw [handlers_ofList, ← List.map_reverse]
  induction registrations.reverse with
  | nil => rfl
  | cons registration rest ih =>
    obtain ⟨type, handler⟩ := registration
    by_cases same : c = type
    · simp [same]
    · simpa [List.lookup_cons, beq_false_of_ne same] using ih

/-- A message is one turn of the handler registered last for its type, if there is one. -/
theorem invoke_watched (registrations : List (Contract × Handler σ)) (m : Message)
    (context : MessageContext) (s : Surroundings σ) (asked : List Reception.Asked) :
    (watched registrations).invoke m context (s.with asked) =
      match registrations.reverse.lookup m.contract with
      | none => (.error (.noHandler m.contract.name), s.with asked)
      | some handler =>
        let (answer, handled) := handler m context s
        (answer, handled.with (asked ++ [.turn ⟨m.contract, m, context⟩])) := by
  unfold invoke
  rw [handlers_watched]
  cases registrations.reverse.lookup m.contract with
  | none => rfl
  | some handler => rfl

end Scope

/-! ## What a body says -/

/-- The context that an envelope was read with has no nil cause. -/
theorem Envelope.context_of_decode {b : Octets} {e : Envelope} (decoded : decode b = .ok e) :
    e.context = ⟨e.correlationId, e.causationId.filter fun id => !id.isNil, e.createdUtc⟩ := by
  have settled := settled_eq (wasRead_of_decode decoded).cause
  calc e.context = e.settled.context := by rw [settled]
    _ = _ := rfl

theorem Envelope.malformed_of_decode {b : Octets} {cause : MessagingError}
    (malformed : decode b = .error cause) : ∃ fault, cause = .malformedEnvelope fault := by
  unfold decode at malformed
  split at malformed
  · cases malformed
  · next fault _ => exact ⟨fault, (Except.error.inj malformed).symm⟩

theorem Registration.message_of_decode {registration : Registration} {payload : String}
    {m : Message} (read : registration.decode (Utf8.encode payload) = .ok m) :
    registration.message payload = .ok m := by
  unfold message
  rw [read]

/-- A payload that does not decode is refused under the name that the registration was found by. -/
theorem Registry.message_of_refused {registry : Registry} {name payload : String}
    {registration : Registration} {fault : Json.Error}
    (resolved : registry.resolve name = some registration)
    (refused : registration.decode (Utf8.encode payload) = .error fault) :
    registration.message payload = .error (.serialization name fault) := by
  unfold Registration.message
  rw [refused, name_of_resolve resolved]

/-- What a body can say to a registry. -/
inductive Registry.Reads (registry : Registry) (body : Octets) : Prop where
  | malformed (fault : Json.Error)
    (decoded : Envelope.decode body = .error (.malformedEnvelope fault))
  | unknown (e : Envelope) (decoded : Envelope.decode body = .ok e)
    (unresolved : registry.resolve e.messageType = none)
  | undecodable (e : Envelope) (registration : Registration) (fault : Json.Error)
    (decoded : Envelope.decode body = .ok e)
    (resolved : registry.resolve e.messageType = some registration)
    (refused : registration.decode (Utf8.encode e.payload) = .error fault)
  | message (e : Envelope) (registration : Registration) (m : Message)
    (decoded : Envelope.decode body = .ok e)
    (resolved : registry.resolve e.messageType = some registration)
    (read : registration.decode (Utf8.encode e.payload) = .ok m)

theorem Registry.reads (registry : Registry) (body : Octets) : registry.Reads body := by
  cases decoded : Envelope.decode body with
  | error cause =>
    obtain ⟨fault, rfl⟩ := Envelope.malformed_of_decode decoded
    exact .malformed fault decoded
  | ok e =>
    cases resolved : registry.resolve e.messageType with
    | none => exact .unknown e decoded resolved
    | some registration =>
      cases read : registration.decode (Utf8.encode e.payload) with
      | error fault => exact .undecodable e registration fault decoded resolved read
      | ok m => exact .message e registration m decoded resolved read

namespace Reception

/-! ## Runs that end early -/

section Stages

variable {r : Reception σ} {rest : Step σ Unit} {e : Envelope}

theorem extraction_fails {cause : MessagingError}
    (malformed : Envelope.decode r.body = .error cause) :
    (extraction rest).run r = (.error cause, r) := by
  unfold extraction
  rw [get_bind, malformed, bind_error (run_ofExcept _)]

theorem resolution_fails {registry : Registry} (extracted : r.envelope = some e)
    (unknown : registry.resolve e.messageType = none) :
    (resolution registry rest).run r =
      (.error (.unknownMessageType e.messageType),
        { r with around := { r.around with
            log := r.around.log ++ [.unknownMessageType e.messageType] } }) := by
  have named : r.messageType = some e.messageType := by
    unfold messageType
    rw [extracted]
    rfl
  unfold resolution
  rw [get_bind, named]
  dsimp only
  rw [unknown]
  dsimp only
  rw [work_bind]
  rfl

theorem decoding_fails {registration : Registration} {cause : MessagingError}
    (extracted : r.envelope = some e) (found : r.registration = some registration)
    (undecodable : registration.message e.payload = .error cause) :
    (decoding rest).run r = (.error cause, r) := by
  unfold decoding
  rw [get_bind, extracted, found]
  dsimp only
  rw [undecodable, bind_error (run_ofExcept _)]

end Stages

variable {r : Reception σ} {registry : Registry} {registration : Registration} {e : Envelope}

/-- A body that is no envelope leaves the reception as it was. -/
theorem run_malformed {cause : MessagingError} (malformed : Envelope.decode r.body = .error cause)
    (opening : Work σ (Scope σ)) :
    run (standard registry opening) dispatch r = (.error cause, r) := by
  unfold run standard
  rw [Pipeline.run_cons, extraction_fails malformed]

/-- A type that is not registered is reported, and no more. -/
theorem run_unknown (decoded : Envelope.decode r.body = .ok e)
    (unknown : registry.resolve e.messageType = none) (opening : Work σ (Scope σ)) :
    run (standard registry opening) dispatch r =
      (.error (.unknownMessageType e.messageType),
        { r with
          envelope := some e
          context := some e.context
          around := { r.around with
            log := r.around.log ++ [.unknownMessageType e.messageType] } }) := by
  unfold run standard
  rw [Pipeline.run_cons, Pipeline.run_cons, extraction_run decoded, resolution_fails rfl unknown]

/-- A payload that its type refuses ends the run under the name of the type. -/
theorem run_undecodable {fault : Json.Error} (decoded : Envelope.decode r.body = .ok e)
    (resolved : registry.resolve e.messageType = some registration)
    (refused : registration.decode (Utf8.encode e.payload) = .error fault)
    (opening : Work σ (Scope σ)) :
    run (standard registry opening) dispatch r =
      (.error (.serialization e.messageType fault),
        { r with
          envelope := some e
          context := some e.context
          registration := some registration }) := by
  have undecodable := Registry.message_of_refused resolved refused
  unfold run standard
  rw [Pipeline.run_cons, Pipeline.run_cons, Pipeline.run_cons, extraction_run decoded,
    resolution_run rfl resolved, decoding_fails rfl rfl undecodable]

/-- A message is handed to a scope that notes what it is asked for. -/
theorem run_message {r : Reception (σ × List Asked)} {m : Message}
    (decoded : Envelope.decode r.body = .ok e)
    (resolved : registry.resolve e.messageType = some registration)
    (read : registration.decode (Utf8.encode e.payload) = .ok m)
    (opening : Work σ (List (Contract × Handler σ))) :
    run (standard registry (Scope.openWatched opening)) dispatch r =
      let (registrations, opened) := opening r.around.alone
      let (answer, s) := (Scope.watched registrations).invoke m e.context
        (opened.with (r.around.world.2 ++ [.scope]))
      (answer.mapError .handler,
        ⟨r.body, some e, some registration, none, none, some e.context, s⟩) := by
  rw [run_decoded decoded resolved (Registration.message_of_decode read), Scope.run_openWatched]
  rfl

/-! ## The run by its body -/

/-- What a reception held beside its body makes no difference to the result or the surroundings. -/
theorem run_eq_receive (registry : Registry) (opening : Work σ (Scope σ)) (r : Reception σ) :
    let (result, ended) := run (standard registry opening) dispatch r
    (result, ended.around) = receive (standard registry opening) dispatch r.body r.around := by
  unfold receive
  cases registry.reads r.body with
  | malformed fault decoded =>
    rw [run_malformed decoded, run_malformed (r := { body := r.body, around := r.around }) decoded]
  | unknown e decoded unresolved =>
    rw [run_unknown decoded unresolved,
      run_unknown (r := { body := r.body, around := r.around }) decoded unresolved]
  | undecodable e registration fault decoded resolved refused =>
    rw [run_undecodable decoded resolved refused,
      run_undecodable (r := { body := r.body, around := r.around }) decoded resolved refused]
  | message e registration m decoded resolved read =>
    have message := Registration.message_of_decode read
    rw [run_decoded decoded resolved message,
      run_decoded (r := { body := r.body, around := r.around }) decoded resolved message]

/-- No stage lacks what the stages before it should have left. -/
theorem run_ne_pipelineState (registry : Registry) (opening : Work σ (Scope σ)) (r : Reception σ)
    (stage : String) :
    (run (standard registry opening) dispatch r).1 ≠ .error (.pipelineState stage) := by
  intro lacking
  cases registry.reads r.body with
  | malformed fault decoded =>
    rw [run_malformed decoded] at lacking
    cases lacking
  | unknown e decoded unresolved =>
    rw [run_unknown decoded unresolved] at lacking
    cases lacking
  | undecodable e registration fault decoded resolved refused =>
    rw [run_undecodable decoded resolved refused] at lacking
    cases lacking
  | message e registration m decoded resolved read =>
    rw [run_decoded decoded resolved (Registration.message_of_decode read)] at lacking
    generalize opening r.around = opened at lacking
    obtain ⟨scope, s⟩ := opened
    dsimp only at lacking
    generalize scope.invoke m e.context s = invoked at lacking
    obtain ⟨answer, s⟩ := invoked
    cases answer <;> cases lacking

/-- The standard stages go by the body. Whatever a reception holds beside it, the run ends as it
would for a reception that holds nothing else, and never for the lack of what a stage should have
left. A body that is no envelope, that names an unknown type or that does not decode as its type
ends the run with that failure; no scope is opened, no handler has a turn, and scope and message
stay what they were. Any other body opens one scope and gives its message, in its context, to the
handler that was registered last for the message's type, which has one turn and whose answer is the
result; neither scope nor message is kept, whatever the answer. -/
theorem run_standard (registry : Registry) (opening : Work σ (List (Contract × Handler σ)))
    (r : Reception (σ × List Asked)) :
    let stages := standard registry (Scope.openWatched opening)
    let (result, ended) := run stages dispatch r
    (result, ended.around) = receive stages dispatch r.body r.around ∧
    (∀ stage, result ≠ .error (.pipelineState stage)) ∧
    match Envelope.decode r.body with
    | .error cause =>
      (∃ fault, cause = .malformedEnvelope fault) ∧ result = .error cause ∧
        ended.around = r.around ∧ ended.scope = r.scope ∧ ended.message = r.message
    | .ok e =>
      match registry.resolve e.messageType with
      | none =>
        result = .error (.unknownMessageType e.messageType) ∧
          ended.around.world = r.around.world ∧ ended.scope = r.scope ∧ ended.message = r.message
      | some registration =>
        match registration.decode (Utf8.encode e.payload) with
        | .error fault =>
          result = .error (.serialization e.messageType fault) ∧
            ended.around = r.around ∧ ended.scope = r.scope ∧ ended.message = r.message
        | .ok m =>
          let (registrations, opened) := opening r.around.alone
          let context : MessageContext :=
            ⟨e.correlationId, e.causationId.filter fun id => !id.isNil, e.createdUtc⟩
          ended.scope = none ∧ ended.message = none ∧
          match registrations.reverse.lookup m.contract with
          | none =>
            result = .error (.handler (.noHandler m.contract.name)) ∧
              ended.around.alone = opened ∧
              ended.around.world.2 = r.around.world.2 ++ [.scope]
          | some handler =>
            let (answer, handled) := handler m context opened
            result = answer.mapError .handler ∧
              ended.around.alone = handled ∧
              ended.around.world.2 =
                r.around.world.2 ++ [.scope, .turn ⟨m.contract, m, context⟩] := by
  intro stages
  have alike := run_eq_receive registry (Scope.openWatched opening) r
  have complete := run_ne_pipelineState registry (Scope.openWatched opening) r
  generalize ran : run stages dispatch r = answered at alike complete
  obtain ⟨result, ended⟩ := answered
  refine ⟨alike, complete, ?_⟩
  cases registry.reads r.body with
  | malformed fault decoded =>
    rw [run_malformed decoded] at ran
    cases ran
    rw [decoded]
    exact ⟨⟨fault, rfl⟩, rfl, rfl, rfl, rfl⟩
  | unknown e decoded unresolved =>
    rw [run_unknown decoded unresolved] at ran
    cases ran
    rw [decoded]
    dsimp only
    rw [unresolved]
    exact ⟨rfl, rfl, rfl, rfl⟩
  | undecodable e registration fault decoded resolved refused =>
    rw [run_undecodable decoded resolved refused] at ran
    cases ran
    rw [decoded]
    dsimp only
    rw [resolved]
    dsimp only
    rw [refused]
    exact ⟨rfl, rfl, rfl, rfl⟩
  | message e registration m decoded resolved read =>
    rw [run_message decoded resolved read, Envelope.context_of_decode decoded] at ran
    rw [decoded]
    dsimp only
    rw [resolved]
    dsimp only
    rw [read]
    dsimp only
    generalize opening r.around.alone = scope at ran ⊢
    obtain ⟨registrations, opened⟩ := scope
    dsimp only at ran ⊢
    rw [Scope.invoke_watched] at ran
    cases found : registrations.reverse.lookup m.contract with
    | none =>
      rw [found] at ran
      cases ran
      exact ⟨rfl, rfl, rfl, rfl, rfl⟩
    | some handler =>
      rw [found] at ran
      cases ran
      exact ⟨rfl, rfl, rfl, rfl, List.append_assoc _ _ _⟩

end Reception

end Courier
