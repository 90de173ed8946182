import Courier.Proofs.Publication
import Courier.Proofs.Validation

/-!
# The course of a publish

Everything that a publish can do, whatever the broker answers and whenever the token fires. A
message with violations stops before the broker is called. Any other one is put into an envelope,
and what is then asked of the broker is one of four courses (`Parcel.Course`), of which one alone
ends with a receipt (`Publication.publish_gated`).
-/

namespace Courier
set_option autoImplicit false
open Acting Confirm

variable {σ : Type}

/-! ## Watching a broker -/

/-- A call of a broker, with its answer. -/
inductive Broker.Call where
  | declared (queue exchange routingKey : String) (answer : Option (Except BrokerError Unit))
  | published (frame : Frame) (answer : Except BrokerError Nat)

/-- Whether a call hands over a frame. -/
def Broker.Call.isPublished : Broker.Call → Bool
  | .declared .. => false
  | .published .. => true

/-- The broker, noting its calls and what it answers. -/
def Broker.watched (broker : Broker σ) : Broker (σ × List Broker.Call) where
  declare queue exchange routingKey := do
    let answer ← (broker.declare queue exchange routingKey).beside
    Work.record (.declared queue exchange routingKey answer)
    return answer
  publish frame := do
    let answer ← (broker.publish frame).beside
    Work.record (.published frame answer)
    return answer

theorem Broker.declare_watched (broker : Broker σ) (queue exchange routingKey : String)
    (s : Surroundings (σ × List Broker.Call)) :
    ∃ answer t, broker.watched.declare queue exchange routingKey s = (answer, t) ∧
      t.world.2 = s.world.2 ++ [.declared queue exchange routingKey answer] :=
  ⟨_, _, rfl, rfl⟩

theorem Broker.publish_watched (broker : Broker σ) (frame : Frame)
    (s : Surroundings (σ × List Broker.Call)) :
    ∃ answer t, broker.watched.publish frame s = (answer, t) ∧
      t.world.2 = s.world.2 ++ [.published frame answer] :=
  ⟨_, _, rfl, rfl⟩

/-! ## The courses -/

/-- The declaration that a parcel's route takes, with its answer. -/
def Parcel.declaration (parcel : Parcel) (answer : Option (Except BrokerError Unit)) :
    Broker.Call :=
  .declared parcel.route.routingKey parcel.route.exchange parcel.route.routingKey answer

/-- What is asked of a broker for a parcel, and what comes of it: a number or a failure. -/
inductive Parcel.Course (parcel : Parcel) (trace : List (String × String)) :
    List Broker.Call → Except MessagingError Nat → Prop where
  /-- The token had fired. -/
  | stopped : Course parcel trace [] (.error .cancelled)
  /-- The token fired while the topology was being declared. -/
  | abandoned : Course parcel trace [parcel.declaration none] (.error .cancelled)
  /-- The topology was refused. -/
  | refused (e : BrokerError) :
    Course parcel trace [parcel.declaration (some (.error e))] (.error (.ofBroker e))
  /-- The frame was handed over, to a route that was known or has just been declared. -/
  | handed (before : List Broker.Call) (answer : Except BrokerError Nat)
    (declared : before = [] ∨ before = [parcel.declaration (some (.ok ()))]) :
    Course parcel trace (before ++ [.published (parcel.frame trace) answer])
      (answer.mapError .ofBroker)

namespace Parcel.Course

variable {parcel : Parcel} {trace : List (String × String)} {calls : List Broker.Call}
  {outcome : Except MessagingError Nat}

/-- No course hands over more than one frame. -/
theorem countP_le (course : parcel.Course trace calls outcome) :
    calls.countP Broker.Call.isPublished ≤ 1 := by
  cases course with
  | stopped | abandoned | refused => exact Nat.zero_le 1
  | handed before answer declared =>
    obtain rfl | rfl := declared
    · exact Nat.le_refl 1
    · exact Nat.le_refl 1

/-- A frame that was handed over is the parcel's, and how the broker answered is the outcome. -/
theorem of_published (course : parcel.Course trace calls outcome) {frame : Frame}
    {answer : Except BrokerError Nat} (published : .published frame answer ∈ calls) :
    frame = parcel.frame trace ∧ outcome = answer.mapError .ofBroker := by
  cases course with
  | stopped => cases published
  | abandoned | refused =>
    cases List.mem_singleton.1 published
  | handed before given declared =>
    have last : Broker.Call.published frame answer ∉ before := by
      obtain rfl | rfl := declared
      · exact List.not_mem_nil
      · intro mem
        cases List.mem_singleton.1 mem
    cases List.mem_singleton.1 ((List.mem_append.1 published).resolve_left last)
    exact ⟨rfl, rfl⟩

/-- A number is the broker's answer to the parcel's frame. -/
theorem published_of_ok {sequence : Nat} (course : parcel.Course trace calls (.ok sequence)) :
    .published (parcel.frame trace) (.ok sequence) ∈ calls := by
  generalize given : Except.ok sequence = outcome at course
  cases course with
  | stopped | abandoned | refused => cases given
  | handed before answer declared =>
    cases answer with
    | ok number =>
      cases given
      exact List.mem_append_right _ (List.mem_singleton.2 rfl)
    | error e => cases given

/-- A failure is the broker's, or a token's. -/
theorem ofBroker_of_error {e : MessagingError} (course : parcel.Course trace calls (.error e)) :
    ∃ cause, e = .ofBroker cause := by
  generalize given : Except.error e = outcome at course
  cases course with
  | stopped | abandoned =>
    cases given
    exact ⟨.cancelled, rfl⟩
  | refused cause =>
    cases given
    exact ⟨cause, rfl⟩
  | handed before answer declared =>
    cases answer with
    | ok number => cases given
    | error cause =>
      cases given
      exact ⟨cause, rfl⟩

end Parcel.Course

theorem Parcel.payload_frame (parcel : Parcel) (trace : List (String × String)) :
    (parcel.frame trace).payload = parcel.envelope.body := by
  unfold frame
  dsimp only

/-- Nothing but the token stops a parcel at its start. -/
theorem Parcel.atStart_stop {parcel : Parcel} {cancelled : Bool} {declared : List Route}
    {e : MessagingError} (stopped : parcel.atStart cancelled declared = .stop e) :
    e = .cancelled := by
  unfold atStart at stopped
  split at stopped
  · cases stopped
    rfl
  · split at stopped <;> cases stopped

namespace Publication

variable {p : Publication (σ × List Broker.Call)} {broker : Broker σ}
  {trace : List (String × String)} {parcel : Parcel}

/-- A step that called a broker for a parcel and left message and flow alone. -/
structure Asked (parcel : Parcel) (calls : List Broker.Call) (outcome : Except MessagingError Nat)
    (p : Publication (σ × List Broker.Call))
    (ran : Except MessagingError Unit × Publication (σ × List Broker.Call)) : Prop where
  result : ran.1 = outcome.map fun _ => ()
  receipt : ∀ sequence, outcome = .ok sequence → ran.2.receipt = some (parcel.receipt sequence)
  message : ran.2.message = p.message
  flow : ran.2.flow = p.flow
  calls : ran.2.around.world.2 = p.around.world.2 ++ calls

theorem send_asked (broker : Broker σ) (trace : List (String × String)) (parcel : Parcel)
    (p : Publication (σ × List Broker.Call)) :
    ∃ answer, Asked parcel [.published (parcel.frame trace) answer] (answer.mapError .ofBroker) p
      ((send broker.watched trace parcel).run p) := by
  obtain ⟨answer, s, asked, calls⟩ := broker.publish_watched (parcel.frame trace) p.around
  refine ⟨answer, ?_⟩
  unfold send
  rw [work_bind, asked]
  cases answer with
  | ok sequence =>
    refine ⟨rfl, ?_, rfl, rfl, calls⟩
    intro given same
    cases same
    rfl
  | error e =>
    refine ⟨rfl, ?_, rfl, rfl, calls⟩
    intro given same
    cases same

/-- A parcel of an unknown route. -/
theorem declareAndSend_course (broker : Broker σ) (trace : List (String × String)) (parcel : Parcel)
    (p : Publication (σ × List Broker.Call)) :
    ∃ calls outcome, parcel.Course trace calls outcome ∧
      Asked parcel calls outcome p ((declareAndSend broker.watched trace parcel).run p) := by
  obtain ⟨answer, s, asked, calls⟩ :=
    broker.declare_watched parcel.route.routingKey parcel.route.exchange parcel.route.routingKey
      p.around
  unfold declareAndSend
  rw [work_bind, asked, get_bind]
  dsimp only
  rw [modify_bind]
  match answer with
  | none =>
    refine ⟨_, _, .abandoned, rfl, ?_, rfl, rfl, calls⟩
    intro sequence same
    cases same
  | some (.error e) =>
    refine ⟨_, _, .refused e, rfl, ?_, rfl, rfl, calls⟩
    intro sequence same
    cases same
  | some (.ok ()) =>
    obtain ⟨answer, sent⟩ := send_asked broker trace parcel
      { p with
        around := s
        declared := (parcel.atDeclared p.declared (some (.ok ()))).2 }
    refine ⟨_, _, .handed [parcel.declaration (some (.ok ()))] answer (.inr rfl), sent.result,
      sent.receipt, sent.message, sent.flow, ?_⟩
    rw [← List.append_assoc]
    exact sent.calls.trans (congrArg (· ++ _) calls)

/-- In a flow with a context every message has a parcel. -/
theorem parcel_run (routing : String → Route) {c : MessageContext}
    (current : p.flow.current = some c) :
    (Publication.parcel routing).run p =
      (.ok ⟨routing p.message.contract.name, .around p.message c p.supply⟩,
        { p with supply := p.supply.drawId.2.readClock.2 }) := by
  unfold Publication.parcel
  rw [get_bind, Envelope.wrap_of_current p.message p.supply current]
  dsimp only
  rw [set_bind, bind_ok (run_ofExcept _)]
  rfl

/-- The end of publishing takes one of the courses for the message's parcel. -/
theorem terminal_course (broker : Broker σ) (routing : String → Route)
    (trace : List (String × String)) {c : MessageContext} (current : p.flow.current = some c) :
    ∃ calls outcome,
      Parcel.Course ⟨routing p.message.contract.name, .around p.message c p.supply⟩ trace calls
        outcome ∧
      Asked ⟨routing p.message.contract.name, .around p.message c p.supply⟩ calls outcome p
        ((terminal broker.watched routing trace).run p) := by
  unfold terminal
  rw [bind_ok (parcel_run routing current)]
  generalize (⟨routing p.message.contract.name, .around p.message c p.supply⟩ : Parcel) = parcel
  rw [work_bind, get_bind]
  split
  · next stopped =>
    rw [Parcel.atStart_stop stopped]
    refine ⟨_, _, .stopped, rfl, ?_, rfl, rfl, (List.append_nil _).symm⟩
    intro sequence same
    cases same
  · obtain ⟨answer, sent⟩ := send_asked broker trace parcel
      { p with supply := p.supply.drawId.2.readClock.2 }
    exact ⟨_, _, .handed [] answer (.inl rfl), sent.result, sent.receipt, sent.message, sent.flow,
      sent.calls⟩
  · obtain ⟨calls, outcome, course, asked⟩ := declareAndSend_course broker trace parcel
      { p with supply := p.supply.drawId.2.readClock.2 }
    exact ⟨calls, outcome, course, asked.result, asked.receipt, asked.message, asked.flow,
      asked.calls⟩

/-! ## The stages before the last one -/

section Stages

variable {τ : Type} {q : Publication τ} {rest : Step τ Unit}

theorem validation_valid (valid : q.message.violations = []) :
    (validation rest).run q = rest.run q := by
  unfold validation
  rw [get_bind]
  dsimp only
  rw [valid]
  rfl

theorem validation_invalid (invalid : q.message.violations ≠ []) :
    (validation rest).run q =
      (.error (.validation q.message.violations),
        { q with around := { q.around with
            log := q.around.log ++
              [.failedValidation q.message.contract.name q.message.violations] } }) := by
  unfold validation
  rw [get_bind]
  dsimp only
  rw [if_neg (mt List.isEmpty_iff.1 invalid), work_bind]
  rfl

theorem enrichment_known (known : q.message.id.isNil = false) :
    (enrichment rest).run q = rest.run q := by
  unfold enrichment
  rw [get_bind, known]
  rfl

/-- A message without an identifier takes the next one, with which its flow goes on. -/
theorem enrichment_caused {c : MessageContext} {flow : Flow} (unknown : q.message.id.isNil = true)
    (caused : q.flow.setCause q.supply.drawId.1 = .ok (c, flow)) :
    (enrichment rest).run q =
      rest.run { q with
        message := q.message.withId q.supply.drawId.1
        supply := q.supply.drawId.2
        flow } := by
  have drawn : (drawId : Step τ Uuid).run q =
      (.ok q.supply.drawId.1, { q with supply := q.supply.drawId.2 }) := rfl
  unfold enrichment
  rw [get_bind, if_pos unknown, bind_ok drawn, modify_bind, get_bind, caused,
    bind_ok (run_ofExcept _), modify_bind]

/-- A message without an identifier takes the next one, which its flow takes as the cause of what
follows. -/
theorem enrichment_unknown {c : MessageContext} (unknown : q.message.id.isNil = true)
    (current : q.flow.current = some c) (fresh : (q.supply.drawId.1).isNil = false) :
    (enrichment rest).run q =
      rest.run { q with
        message := q.message.withId q.supply.drawId.1
        supply := q.supply.drawId.2
        flow := .of (c.causedBy q.supply.drawId.1) } := by
  have caused : q.flow.setCause q.supply.drawId.1 =
      .ok (c.causedBy q.supply.drawId.1, .of (c.causedBy q.supply.drawId.1)) := by
    unfold Flow.setCause
    rw [if_neg (ne_true_of_eq_false fresh), current]
  exact enrichment_caused unknown caused

/-- A valid message reaches the last stage once, valid and with an identifier. -/
theorem standard_valid (last : Step τ Unit) {c : MessageContext} (valid : q.message.violations = [])
    (current : q.flow.current = some c) (fresh : (q.supply.drawId.1).isNil = false) :
    ∃ q' c', (Pipeline.run standard last).run q = last.run q' ∧ q'.flow.current = some c' ∧
      q'.around = q.around ∧ q.message.Identified q'.message ∧ q'.message.violations = [] := by
  unfold standard
  rw [Pipeline.run_cons, Pipeline.run_cons, Pipeline.run_nil, validation_valid valid]
  cases unknown : q.message.id.isNil with
  | false =>
    rw [enrichment_known unknown]
    exact ⟨q, c, rfl, current, rfl, .kept unknown, valid⟩
  | true =>
    rw [enrichment_unknown unknown current fresh]
    exact ⟨_, _, rfl, rfl, rfl, .assigned unknown _ fresh,
      Message.violations_withId valid unknown _⟩

/-- The publication in a flow that has a context. -/
def established (p : Publication τ) : Publication τ :=
  let (_, flow, supply) := p.flow.getOrCreate p.supply
  { p with flow, supply }

theorem establish_run (p : Publication τ) : establish.run p = (.ok (), p.established) := rfl

theorem established_known {p : Publication τ} {c : MessageContext}
    (current : p.flow.current = some c) : p.established = p := by
  unfold established Flow.getOrCreate
  rw [current]

theorem established_unknown {p : Publication τ} (unknown : p.flow.current = none) :
    p.established =
      { p with
        flow := .of (MessageContext.start p.supply).1
        supply := (MessageContext.start p.supply).2 } := by
  unfold established Flow.getOrCreate
  rw [unknown]

/-- The flow gets a context at most, and only where it had none. -/
theorem established_flow (p : Publication τ) :
    p.established.flow = p.flow ∨
      p.flow.current = none ∧ ∃ c, p.established.flow = .of c ∧ c.causationId = none := by
  cases current : p.flow.current with
  | some c =>
    rw [established_known current]
    exact .inl rfl
  | none =>
    rw [established_unknown current]
    exact .inr ⟨rfl, _, rfl, rfl⟩

theorem established_current (p : Publication τ) : ∃ c, p.established.flow.current = some c := by
  cases current : p.flow.current with
  | some c => exact ⟨c, by rw [established_known current, current]⟩
  | none => exact ⟨_, by rw [established_unknown current]; rfl⟩

end Stages

/-- How a publish of a valid message ends that took a course for a parcel: the parcel holds the
message as it is by then, on its route. -/
structure Concluded (routing : String → Route) (parcel : Parcel) (calls : List Broker.Call)
    (outcome : Except MessagingError Nat) (p : Publication (σ × List Broker.Call))
    (ran : Except MessagingError Receipt × Publication (σ × List Broker.Call)) : Prop where
  route : parcel.route = routing p.message.contract.name
  envelope : ∃ c supply, parcel.envelope = .around ran.2.message c supply
  result : ran.1 = outcome.map parcel.receipt
  calls : ran.2.around.world.2 = p.around.world.2 ++ calls
  identified : p.message.Identified ran.2.message
  valid : ran.2.message.violations = []

theorem publish_concluded (broker : Broker σ) (routing : String → Route)
    (trace : List (String × String)) (valid : p.message.violations = [])
    (fresh : ∀ n, (p.supply.ids n).isNil = false) :
    ∃ parcel calls outcome, parcel.Course trace calls outcome ∧
      Concluded routing parcel calls outcome p
        ((publish standard (terminal broker.watched routing trace)).run p) := by
  obtain ⟨c, current⟩ := p.established_current
  have drawn : p.established.supply.drawId.1.isNil = false := by
    cases known : p.flow.current with
    | some c => rw [established_known known]; exact fresh _
    | none => rw [established_unknown known]; exact fresh _
  obtain ⟨q, c', reached, current, around, identified, valid⟩ :=
    standard_valid (q := p.established) (terminal broker.watched routing trace) valid current drawn
  obtain ⟨calls, outcome, course, asked⟩ := terminal_course broker routing trace current
  refine ⟨_, calls, outcome, course, ?_⟩
  unfold publish
  rw [bind_ok (establish_run p)]
  rw [← reached] at asked
  generalize ended : (Pipeline.run standard (terminal broker.watched routing trace)).run
    p.established = ran at asked
  obtain ⟨result, p'⟩ := ran
  obtain ⟨rfl, receipt, message, flow, noted⟩ := asked
  dsimp only at receipt message flow noted
  have route : routing q.message.contract.name = routing p.message.contract.name :=
    congrArg (fun contract : Contract => routing contract.name) identified.contract
  rw [around] at noted
  rw [← message] at identified valid
  cases outcome with
  | ok sequence =>
    rw [bind_ok ended, get_bind, receipt sequence rfl]
    exact ⟨route, ⟨c', q.supply, by rw [← message]; rfl⟩, rfl, noted, identified, valid⟩
  | error e =>
    rw [bind_error ended]
    exact ⟨route, ⟨c', q.supply, by rw [← message]⟩, rfl, noted, identified, valid⟩

/-- A message with violations goes no further than a context for its flow. -/
theorem publish_invalid {τ : Type} {q : Publication τ} {last : Step τ Unit}
    (invalid : q.message.violations ≠ []) :
    (publish standard last).run q =
      (.error (.validation q.message.violations),
        { q.established with around := { q.around with
            log := q.around.log ++
              [.failedValidation q.message.contract.name q.message.violations] } }) := by
  unfold publish standard
  rw [bind_ok (establish_run q), Pipeline.run_cons]
  exact bind_error (validation_invalid (q := q.established) invalid)

/-- Violations and failures of the broker are all that a publish fails with. -/
inductive Refused (p : Publication σ) : MessagingError → Prop where
  | invalid : Refused p (.validation p.message.violations)
  | broker (cause : BrokerError) : Refused p (.broker cause)
  | cancelled : Refused p .cancelled

theorem Refused.ofBroker (p : Publication σ) (cause : BrokerError) :
    Refused p (MessagingError.ofBroker cause) := by
  unfold MessagingError.ofBroker
  split
  · exact .cancelled
  · exact .broker _

namespace Concluded

variable {routing : String → Route} {calls : List Broker.Call} {outcome : Except MessagingError Nat}
  {ran : Except MessagingError Receipt × Publication (σ × List Broker.Call)}

/-- The frame of the parcel is read as its envelope around the message as it is by then. -/
theorem decode_frame (concluded : Concluded routing parcel calls outcome p ran)
    (trace : List (String × String)) :
    ∃ e, Envelope.decode (parcel.frame trace).payload = .ok e ∧
      e.envelopeId = parcel.envelope.envelopeId ∧
      e.message p.message.contract = .ok ran.2.message := by
  obtain ⟨c, supply, envelope⟩ := concluded.envelope
  have decoded : Envelope.decode (Envelope.around ran.2.message c supply).body = _ :=
    Envelope.decode_body ran.2.message.isRaw_payload
  rw [Parcel.payload_frame, envelope, decoded, ← concluded.identified.contract]
  exact ⟨_, rfl, rfl, Envelope.message_of_payload rfl⟩

/-- A frame that was handed over holds the caller's message, valid and with an identifier. -/
theorem frame_of_published (concluded : Concluded routing parcel calls outcome p ran)
    (course : parcel.Course trace calls outcome) {frame : Frame} {answer : Except BrokerError Nat}
    (published : .published frame answer ∈ calls) :
    ∃ e m, Envelope.decode frame.payload = .ok e ∧ e.message p.message.contract = .ok m ∧
      m.violations = [] ∧ m.id.isNil = false ∧
      (m = p.message ∨ p.message.id.isNil = true ∧ ∃ id, m = p.message.withId id) := by
  obtain ⟨rfl, _⟩ := course.of_published published
  obtain ⟨e, decoded, _, message⟩ := concluded.decode_frame trace
  exact ⟨e, ran.2.message, decoded, message, concluded.valid, concluded.identified.isNil_id,
    concluded.identified.eq_or_withId⟩

/-- A frame that was handed over goes by the route of the message's type. -/
theorem route_of_published (concluded : Concluded routing parcel calls outcome p ran)
    (course : parcel.Course trace calls outcome) {frame : Frame} {answer : Except BrokerError Nat}
    (published : .published frame answer ∈ calls) :
    ⟨frame.exchange, frame.routingKey⟩ = routing p.message.contract.name := by
  obtain ⟨rfl, _⟩ := course.of_published published
  exact concluded.route

/-- A receipt is there for the frame that the broker took. -/
theorem receipt_iff (concluded : Concluded routing parcel calls outcome p ran)
    (course : parcel.Course trace calls outcome) (receipt : Receipt) :
    ran.1 = .ok receipt ↔
      ∃ frame e, .published frame (.ok receipt.sequence) ∈ calls ∧
        receipt.route = routing p.message.contract.name ∧
        Envelope.decode frame.payload = .ok e ∧ receipt.envelopeId = e.envelopeId := by
  obtain ⟨e, decoded, same, _⟩ := concluded.decode_frame trace
  rw [concluded.result]
  constructor
  · intro given
    cases outcome with
    | error cause => cases given
    | ok sequence =>
      cases given
      exact ⟨parcel.frame trace, e, course.published_of_ok, concluded.route, decoded, same.symm⟩
  · rintro ⟨frame, e', published, route, decoded', envelopeId⟩
    obtain ⟨rfl, rfl⟩ := course.of_published published
    rw [decoded] at decoded'
    cases decoded'
    obtain ⟨id, sequence, destination⟩ := receipt
    have id_eq : id = parcel.envelope.envelopeId := envelopeId.trans same
    have routed : destination = parcel.route := route.trans concluded.route.symm
    rw [id_eq, routed]
    rfl

theorem refused (concluded : Concluded routing parcel calls outcome p ran)
    (course : parcel.Course trace calls outcome) {e : MessagingError} (failed : ran.1 = .error e) :
    Refused p e := by
  rw [concluded.result] at failed
  cases outcome with
  | ok sequence => cases failed
  | error cause =>
    cases failed
    obtain ⟨cause, rfl⟩ := course.ofBroker_of_error
    exact .ofBroker p cause

end Concluded

/-- What a publish fails with, it was refused for. -/
theorem publish_refused (broker : Broker σ) (routing : String → Route)
    (trace : List (String × String)) (fresh : ∀ n, (p.supply.ids n).isNil = false)
    {e : MessagingError}
    (failed : ((publish standard (terminal broker.watched routing trace)).run p).1 = .error e) :
    Refused p e := by
  by_cases valid : p.message.violations = []
  · obtain ⟨parcel, calls, outcome, course, concluded⟩ :=
      publish_concluded broker routing trace valid fresh
    exact concluded.refused course failed
  · rw [publish_invalid valid] at failed
    cases failed
    exact .invalid

/-- The gate of publishing. For any message, flow, token and broker, what one publish asks of the
broker and how it ends:

* a message with violations ends in all of them, in order; the broker is not called, the message is
  as it was, and the flow at most has a context where it had none;
* at most one frame is handed over, by the route of the message's type, and its envelope holds a
  valid message with an identifier, the caller's up to an identifier that was nil;
* there is a receipt exactly if the broker took the frame: with the broker's number, the route of
  the message's type and the identifier of the envelope that was sent;
* no publish fails for an argument, a context, a payload or a stage of its own. -/
theorem publish_gated (broker : Broker σ) (routing : String → Route)
    (trace : List (String × String)) (p : Publication (σ × List Broker.Call))
    (fresh : ∀ n, (p.supply.ids n).isNil = false) :
    let (result, p') := (publish standard (terminal broker.watched routing trace)).run p
    ∃ calls, p'.around.world.2 = p.around.world.2 ++ calls ∧
      (p.message.violations ≠ [] →
        result = .error (.validation p.message.violations) ∧ calls = [] ∧ p'.message = p.message ∧
          (p'.flow = p.flow ∨
            p.flow.current = none ∧ ∃ c, p'.flow = .of c ∧ c.causationId = none)) ∧
      calls.countP Broker.Call.isPublished ≤ 1 ∧
      (∀ frame answer, .published frame answer ∈ calls →
        ∃ e m, Envelope.decode frame.payload = .ok e ∧ e.message p.message.contract = .ok m ∧
          m.violations = [] ∧ m.id.isNil = false ∧
          (m = p.message ∨ p.message.id.isNil = true ∧ ∃ id, m = p.message.withId id)) ∧
      (∀ frame answer, .published frame answer ∈ calls →
        ⟨frame.exchange, frame.routingKey⟩ = routing p.message.contract.name) ∧
      (∀ receipt, result = .ok receipt ↔
        ∃ frame e, .published frame (.ok receipt.sequence) ∈ calls ∧
          receipt.route = routing p.message.contract.name ∧
          Envelope.decode frame.payload = .ok e ∧ receipt.envelopeId = e.envelopeId) ∧
      (∀ name reason, result ≠ .error (.invalidArgument name reason)) ∧
      result ≠ .error .missingContext ∧
      (∀ type fault, result ≠ .error (.serialization type fault)) ∧
      (∀ stage, result ≠ .error (.pipelineState stage)) := by
  have others :
      let (result, _) := (publish standard (terminal broker.watched routing trace)).run p
      (∀ name reason, result ≠ .error (.invalidArgument name reason)) ∧
        result ≠ .error .missingContext ∧
        (∀ type fault, result ≠ .error (.serialization type fault)) ∧
        (∀ stage, result ≠ .error (.pipelineState stage)) := by
    refine ⟨fun name reason failed => ?_, fun failed => ?_, fun type fault failed => ?_,
      fun stage failed => ?_⟩ <;> cases publish_refused broker routing trace fresh failed
  by_cases valid : p.message.violations = []
  · obtain ⟨parcel, calls, outcome, course, concluded⟩ :=
      publish_concluded broker routing trace valid fresh
    refine ⟨calls, concluded.calls, fun invalid => absurd valid invalid, course.countP_le, ?_, ?_,
      ?_, others⟩
    · intro frame answer published
      exact concluded.frame_of_published course published
    · intro frame answer published
      exact concluded.route_of_published course published
    · exact concluded.receipt_iff course
  · rw [publish_invalid valid] at others ⊢
    refine ⟨[], (List.append_nil _).symm, ?_, Nat.zero_le 1, ?_, ?_, ?_, others⟩
    · intro _
      exact ⟨rfl, rfl, rfl, p.established_flow⟩
    · intro frame answer published
      cases published
    · intro frame answer published
      cases published
    · intro receipt
      constructor
      · intro given
        cases given
      · rintro ⟨frame, e, published, _⟩
        cases published

/-- A broker that takes everything, under the same number. -/
def indulgent : Broker Unit where
  declare _ _ _ := return some (.ok ())
  publish _ := return .ok 7

/-- A message in no chain yet, and one identifier to draw. -/
def unchained (m : Message) : Publication (Unit × List Broker.Call) where
  message := m
  flow := .empty
  receipt := none
  supply := .fresh (fun _ => ⟨List.replicate 16 (UInt8.ofNat 1), rfl⟩) fun _ => .epoch
  declared := []
  around := ⟨((), []), false, []⟩

/-- The news of a deletion, without an identifier, is sent with one; the demand for a deletion that
names no client ends in its violation. -/
theorem publish_gated_deletions :
    let ran := fun m =>
      (publish standard (terminal indulgent.watched (.of "bus") [])).run (unchained m)
    (∃ (receipt : Receipt) (frame : Frame) (e : Envelope) (m : Message), receipt.sequence = 7 ∧
      (ran ⟨.clientDeleted, ⟨.nil⟩⟩).1 = .ok receipt ∧
      .published frame (.ok 7) ∈ (ran ⟨.clientDeleted, ⟨.nil⟩⟩).2.around.world.2 ∧
      Envelope.decode frame.payload = .ok e ∧ e.message .clientDeleted = .ok m ∧
      m.violations = [] ∧ m.id.isNil = false) ∧
    (ran ⟨.deleteClient, ⟨.nil⟩⟩).1 =
      .error (.validation [⟨"id", "Client ID required to delete client."⟩]) := by
  constructor
  · obtain ⟨calls, noted, _, _, frames, _, receipts, _⟩ :=
      publish_gated indulgent (.of "bus") [] (unchained ⟨.clientDeleted, ⟨.nil⟩⟩) fun _ => rfl
    obtain ⟨frame, _, published, _⟩ := (receipts ⟨_, 7, _⟩).1 rfl
    obtain ⟨e, m, decoded, message, valid, known, _⟩ := frames frame _ published
    have listed :=
      List.mem_append_right (unchained ⟨.clientDeleted, ⟨.nil⟩⟩).around.world.2 published
    rw [← noted] at listed
    exact ⟨⟨_, 7, _⟩, frame, e, m, rfl, rfl, listed, decoded, message, valid, known⟩
  · obtain ⟨calls, _, invalid, _⟩ :=
      publish_gated indulgent (.of "bus") [] (unchained ⟨.deleteClient, ⟨.nil⟩⟩) fun _ => rfl
    exact (invalid (List.cons_ne_nil _ _)).1

end Publication

end Courier
