import Courier.Proofs.Publication.Course

/-!
# An identifier and its record

A message without an identifier takes a fresh one, and its flow records it as the cause of whatever
is published next. Message and flow are two, and the flow may refuse: then the one has changed
without the other. That is so of a valid message in a flow that has no context, and only of it
(`Publication.recorded_together`). `Publication.publish` sees to it that there is one.
-/

namespace Courier
set_option autoImplicit false
open Acting Confirm

/-- The identifier that a message has changes nothing about it. -/
theorem Message.withId_self (m : Message) : m.withId m.id = m := by
  obtain ⟨c, m⟩ := m
  cases c <;> rfl

/-- A flow refuses a cause only for what is wrong with that argument. -/
theorem Flow.setCause_error {f : Flow} {id : Uuid} {e : MessagingError}
    (refused : f.setCause id = .error e) :
    (∃ reason, e = .invalidArgument "causation_id" reason) ∧ (id.isNil = true ∨ f.current = none) := by
  unfold setCause at refused
  split at refused
  · next isNil =>
    cases refused
    exact ⟨⟨_, rfl⟩, .inl isNil⟩
  · split at refused
    · next unchained =>
      cases refused
      exact ⟨⟨_, rfl⟩, .inr unchained⟩
    · cases refused

/-- A flow that took a cause had a context, and goes on with it under that cause. -/
theorem Flow.recorded_of_setCause {f flow : Flow} {id : Uuid} {c : MessageContext}
    (caused : f.setCause id = .ok (c, flow)) :
    ∃ before, f.current = some before ∧ flow = .of (before.causedBy id) := by
  unfold setCause at caused
  split at caused
  · cases caused
  · split at caused
    · cases caused
    · next before current =>
      cases caused
      exact ⟨before, current, rfl⟩

namespace Publication

variable {σ : Type} {p : Publication σ}

/-! ## Steps that leave message and flow alone -/

/-- A step that leaves the message and its flow as they are, whatever comes of it. -/
def Discreet {α : Type} (x : Step σ α) : Prop :=
  ∀ q, (x.run q).2.message = q.message ∧ (x.run q).2.flow = q.flow

namespace Discreet

variable {α β : Type}

protected theorem throw (e : MessagingError) : Discreet (throw e : Step σ α) := fun _ => ⟨rfl, rfl⟩

protected theorem get : Discreet (get : Step σ (Publication σ)) := fun _ => ⟨rfl, rfl⟩

protected theorem work (act : Work σ α) : Discreet (work act) := fun _ => ⟨rfl, rfl⟩

protected theorem bind {x : Step σ α} {f : α → Step σ β} (first : Discreet x)
    (rest : ∀ a, Discreet (f a)) : Discreet (x >>= f) := by
  intro q
  have kept := first q
  cases ran : x.run q with
  | mk result t =>
    rw [ran] at kept
    cases result with
    | ok a =>
      rw [bind_ok ran]
      exact ⟨(rest a t).1.trans kept.1, (rest a t).2.trans kept.2⟩
    | error e =>
      rw [bind_error ran]
      exact kept

theorem parcel (routing : String → Route) : Discreet (parcel routing : Step σ Parcel) := by
  intro q
  unfold Publication.parcel
  rw [get_bind, set_bind]
  cases wrapped : (Envelope.wrap q.message q.flow q.supply).1 with
  | ok envelope =>
    rw [bind_ok (run_ofExcept _)]
    exact ⟨rfl, rfl⟩
  | error e =>
    rw [bind_error (run_ofExcept _)]
    exact ⟨rfl, rfl⟩

theorem send (broker : Broker σ) (trace : List (String × String)) (parcel : Parcel) :
    Discreet (send broker trace parcel) := by
  unfold Publication.send
  refine (Discreet.work _).bind fun answer => ?_
  cases answer with
  | ok sequence => exact fun _ => ⟨rfl, rfl⟩
  | error e => exact .throw _

theorem declareAndSend (broker : Broker σ) (trace : List (String × String)) (parcel : Parcel) :
    Discreet (declareAndSend broker trace parcel) := by
  unfold Publication.declareAndSend
  refine (Discreet.work _).bind fun answer => Discreet.get.bind fun q => ?_
  dsimp only
  refine Discreet.bind (fun _ => ⟨rfl, rfl⟩) fun _ => ?_
  split
  · exact .throw _
  · exact .send broker trace parcel

/-- The end of publishing is one of them, for any broker. -/
theorem terminal (broker : Broker σ) (routing : String → Route) (trace : List (String × String)) :
    Discreet (terminal broker routing trace) := by
  unfold Publication.terminal
  refine (Discreet.parcel routing).bind fun parcel => (Discreet.work _).bind fun cancelled =>
    Discreet.get.bind fun q => ?_
  split
  · exact .throw _
  · exact .send broker trace parcel
  · exact .declareAndSend broker trace parcel

end Discreet

/-! ## What the stages do -/

/-- What the stages make of a publication: the state they leave, and the error if they end it
there. Without one the last stage follows. -/
inductive Prepared (p : Publication σ) : Option MessagingError → Publication σ → Prop where
  /-- The message has violations, which are reported. -/
  | invalid (invalid : p.message.violations ≠ []) :
    Prepared p (some (.validation p.message.violations))
      { p with around := { p.around with
          log := p.around.log ++
            [.failedValidation p.message.contract.name p.message.violations] } }
  /-- The message has an identifier. -/
  | known (known : p.message.id.isNil = false) : Prepared p none p
  /-- The message takes an identifier, and its flow records it. -/
  | recorded (unknown : p.message.id.isNil = true) {c : MessageContext} {flow : Flow}
      (caused : p.flow.setCause p.supply.drawId.1 = .ok (c, flow)) :
    Prepared p none { p with
      message := p.message.withId p.supply.drawId.1
      supply := p.supply.drawId.2
      flow }
  /-- The message takes an identifier, and its flow refuses it. -/
  | refused (valid : p.message.violations = []) (unknown : p.message.id.isNil = true)
      {e : MessagingError} (refused : p.flow.setCause p.supply.drawId.1 = .error e) :
    Prepared p (some e) { p with
      message := p.message.withId p.supply.drawId.1
      supply := p.supply.drawId.2 }

/-- How a publication goes on from where the stages left it. -/
def goOn (last : Step σ Unit) (q : Publication σ) :
    Option MessagingError → Except MessagingError Unit × Publication σ
  | none => last.run q
  | some e => (.error e, q)

theorem enrichment_refused {rest : Step σ Unit} {e : MessagingError}
    (unknown : p.message.id.isNil = true)
    (refused : p.flow.setCause p.supply.drawId.1 = .error e) :
    (enrichment rest).run p =
      (.error e, { p with
        message := p.message.withId p.supply.drawId.1
        supply := p.supply.drawId.2 }) := by
  have drawn : (drawId : Step σ Uuid).run p =
      (.ok p.supply.drawId.1, { p with supply := p.supply.drawId.2 }) := rfl
  unfold enrichment
  rw [get_bind, if_pos unknown, bind_ok drawn, modify_bind, get_bind, refused,
    bind_error (run_ofExcept _)]

/-- The stages do the same before any last one. -/
theorem standard_prepared (p : Publication σ) :
    ∃ ended q, Prepared p ended q ∧
      ∀ last, (Pipeline.run standard last).run p = goOn last q ended := by
  unfold standard
  by_cases valid : p.message.violations = []
  · have passed : ∀ last, (Pipeline.run [validation, enrichment] last).run p =
        (enrichment last).run p := fun _ => validation_valid valid
    cases unknown : p.message.id.isNil with
    | false => exact ⟨_, _, .known unknown, fun last => (passed last).trans (enrichment_known unknown)⟩
    | true =>
      cases caused : p.flow.setCause p.supply.drawId.1 with
      | ok recorded =>
        exact ⟨_, _, .recorded unknown caused, fun last =>
          (passed last).trans (enrichment_caused unknown caused)⟩
      | error e =>
        exact ⟨_, _, .refused valid unknown caused, fun last =>
          (passed last).trans (enrichment_refused unknown caused)⟩
  · exact ⟨_, _, .invalid valid, fun last => validation_invalid valid⟩

/-! ## Together or not at all -/

/-- A valid message that would be given an identifier, in a flow that cannot record it. -/
structure Unrecordable (p : Publication σ) : Prop where
  valid : p.message.violations = []
  unknown : p.message.id.isNil = true
  unchained : p.flow.current = none

/-- Message and flow went on together. Either the message has another identifier, which the flow has
for a cause, or both are as they were. -/
structure Together (p p' : Publication σ) : Prop where
  assigned : p'.message.id ≠ p.message.id →
    p'.message = p.message.withId p'.message.id ∧
      ∃ c, p.flow.current = some c ∧ p'.flow = .of (c.causedBy p'.message.id)
  kept : p'.message.id = p.message.id → p'.message = p.message ∧ p'.flow = p.flow

/-- Nothing has come of a publication but identifiers drawn and events reported. -/
def Untouched (p p' : Publication σ) : Prop :=
  p' = { p with supply := p'.supply, around := { p.around with log := p'.around.log } }

/-- The stages let a publication through to the last one, in some state. -/
def Reaches (p q : Publication σ) : Prop :=
  ∀ last, (Pipeline.run standard last).run p = last.run q

namespace Together

variable {p' : Publication σ}

theorem of_kept (message : p'.message = p.message) (flow : p'.flow = p.flow) : Together p p' where
  assigned changed := absurd (congrArg Message.id message) changed
  kept _ := ⟨message, flow⟩

theorem of_recorded {id : Uuid} {c : MessageContext} {flow : Flow}
    (unknown : p.message.id.isNil = true) (caused : p.flow.setCause id = .ok (c, flow))
    (message : p'.message = p.message.withId id) (recorded : p'.flow = flow) : Together p p' := by
  have taken : p'.message.id = id := by rw [message, Message.id_withId]
  obtain ⟨before, current, rfl⟩ := Flow.recorded_of_setCause caused
  constructor
  · intro _
    rw [taken]
    exact ⟨message, before, current, recorded⟩
  · intro same
    -- The flow takes no nil identifier, so that the message cannot have kept its own.
    have fresh : id.isNil = false := setCause_ok caused
    rw [← taken, same, unknown] at fresh
    cases fresh

end Together

/-- A message that was refused the identifier it took has still no other than before, unless its
flow had no context. -/
theorem message_of_refused {e : MessagingError} (unknown : p.message.id.isNil = true)
    (refused : p.flow.setCause p.supply.drawId.1 = .error e) (chained : p.flow.current ≠ none) :
    p.message.withId p.supply.drawId.1 = p.message := by
  have drawn : p.supply.drawId.1 = p.message.id := by
    have isNil := (Flow.setCause_error refused).2.resolve_right chained
    unfold Uuid.isNil at isNil unknown
    rw [of_decide_eq_true isNil, of_decide_eq_true unknown]
  rw [drawn, Message.withId_self]

/-- A message that has its identifier from an attempt that was refused goes on under it in a flow
with a context, which records nothing. -/
theorem reaches_again {q : Publication σ} {id : Uuid} (unrecordable : p.Unrecordable)
    (fresh : id.isNil = false) (message : q.message = p.message.withId id) : Reaches q q := by
  intro last
  have valid : q.message.violations = [] := by
    rw [message]
    exact Message.violations_withId unrecordable.valid unrecordable.unknown id
  have known : q.message.id.isNil = false := by
    rw [message, Message.id_withId, fresh]
  unfold standard
  rw [Pipeline.run_cons, validation_valid valid]
  exact enrichment_known known

/-- Identifier and cause are recorded together, or not at all. For any message, flow, token and last
stage that leaves message and flow alone, and however the last stage ends:

* the message has another identifier than before exactly if the flow has it for a cause, and nothing
  else is changed about either of them; where the last stage was not reached, both are as they were,
  and so is all else that another attempt starts from;
* the exception is a valid message without an identifier in a flow without a context. It is given
  one, the attempt fails for the missing context, and no later attempt records the identifier. -/
theorem recorded_together (last : Step σ Unit) (discreet : Discreet last) (p : Publication σ) :
    let (result, p') := (Pipeline.run standard last).run p
    (¬ p.Unrecordable →
      Together p p' ∧
        ((∃ q, Reaches p q) ∨
          Untouched p p' ∧ ∀ last', (Pipeline.run standard last').run p = (result, p'))) ∧
    (p.Unrecordable →
      p'.message = p.message.withId p.supply.drawId.1 ∧ p'.flow = p.flow ∧
        (∃ reason, result = .error (.invalidArgument "causation_id" reason)) ∧
        (p.supply.drawId.1.isNil = false → ∀ c,
          Reaches { p' with flow := .of c } { p' with flow := .of c })) := by
  obtain ⟨ended, q, prepared, ran⟩ := standard_prepared p
  rw [ran last]
  cases prepared with
  | invalid invalid =>
    refine ⟨fun _ => ⟨.of_kept rfl rfl, .inr ⟨rfl, ran⟩⟩, fun unrecordable => ?_⟩
    exact absurd unrecordable.valid invalid
  | known known =>
    obtain ⟨message, flow⟩ := discreet p
    refine ⟨fun _ => ⟨.of_kept message flow, .inl ⟨p, ran⟩⟩, fun unrecordable => ?_⟩
    rw [unrecordable.unknown] at known
    cases known
  | recorded unknown caused =>
    obtain ⟨message, flow⟩ := discreet _
    refine ⟨fun _ => ⟨.of_recorded unknown caused message flow, .inl ⟨_, ran⟩⟩,
      fun unrecordable => ?_⟩
    obtain ⟨before, current, _⟩ := Flow.recorded_of_setCause caused
    rw [unrecordable.unchained] at current
    cases current
  | refused valid unknown refused =>
    constructor
    · intro recordable
      have same := message_of_refused unknown refused fun unchained =>
        recordable ⟨valid, unknown, unchained⟩
      refine ⟨.of_kept same rfl, .inr ⟨?_, ran⟩⟩
      unfold Untouched
      dsimp only [goOn]
      rw [same]
    · intro unrecordable
      obtain ⟨reason, rfl⟩ := (Flow.setCause_error refused).1
      exact ⟨rfl, rfl, ⟨reason, rfl⟩, fun fresh c => reaches_again unrecordable fresh rfl⟩

/-- The news of a deletion, without an identifier, in the flow of a chain. -/
def chained (c : MessageContext) : Publication (Unit × List Broker.Call) :=
  { unchained ⟨.clientDeleted, ⟨.nil⟩⟩ with flow := .of c }

/-- Where there is a chain, the identifier is the cause of what follows. -/
theorem recorded_together_chained :
    let c : MessageContext := ⟨.nil, none, .epoch⟩
    let ran := (Pipeline.run standard (terminal indulgent.watched (.of "bus") [])).run (chained c)
    ran.2.message.id.isNil = false ∧ ran.2.flow = .of (c.causedBy ran.2.message.id) := by
  obtain ⟨recordable, _⟩ :=
    recorded_together (terminal indulgent.watched (.of "bus") []) (.terminal _ _ _)
      (chained ⟨.nil, none, .epoch⟩)
  have linked : ¬ (chained ⟨.nil, none, .epoch⟩).Unrecordable := by
    intro unrecordable
    cases unrecordable.unchained
  obtain ⟨_, c, current, flow⟩ := (recordable linked).1.assigned (by decide)
  cases current
  exact ⟨rfl, flow⟩

/-- Where there is none, the identifier is assigned and not recorded: the attempt fails, and another
one in a chain goes on under that identifier, of which its flow knows nothing. -/
theorem assigned_unrecorded :
    let attempt := (Pipeline.run standard (terminal indulgent.watched (.of "bus") [])).run
    let p := unchained ⟨.clientDeleted, ⟨.nil⟩⟩
    let c : MessageContext := ⟨.nil, none, .epoch⟩
    (∃ reason, (attempt p).1 = .error (.invalidArgument "causation_id" reason)) ∧
      (attempt p).2.message.id ≠ p.message.id ∧ (attempt p).2.flow = p.flow ∧
      (attempt { (attempt p).2 with flow := .of c }).1 = .ok () ∧
      (attempt { (attempt p).2 with flow := .of c }).2.flow = .of c := by
  refine ⟨⟨_, rfl⟩, by decide, rfl, rfl, rfl⟩

end Publication

end Courier
