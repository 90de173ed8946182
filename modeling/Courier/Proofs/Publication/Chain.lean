import Courier.Proofs.Publication.Course
import Mathlib.Logic.Function.Basic

/-!
# The chain of causes in a flow

Publishes in one flow, one after the other, whatever each of them meets. All that is handed over
belongs to one chain, and each envelope's cause is the identifier that was given to a message last,
whether or not that message was sent (`Attempt.causal_chain`).
-/

namespace Courier
set_option autoImplicit false
open Acting Confirm

variable {σ : Type}

/-- A publish that is asked for: its message, and what it meets apart from its flow. -/
structure Attempt (σ : Type) where
  message : Message
  broker : Broker σ
  routing : String → Route
  trace : List (String × String)
  declared : List Route
  supply : Supply
  around : Surroundings σ

/-- A publish that was made: how it ended and what it left, the calls of the broker among it. -/
structure Attempt.Made (σ : Type) where
  attempt : Attempt σ
  result : Except MessagingError Receipt
  left : Publication (σ × List Broker.Call)

namespace Attempt

/-- The publication of an attempt in a flow, before anything was asked of the broker. -/
def publication (a : Attempt σ) (f : Flow) : Publication (σ × List Broker.Call) where
  message := a.message
  flow := f
  receipt := none
  supply := a.supply
  declared := a.declared
  around := ⟨(a.around.world, []), a.around.cancelled, a.around.log⟩

/-- Publishes in a flow. -/
def make (a : Attempt σ) (f : Flow) : Made σ :=
  let (result, left) :=
    (Publication.publish Publication.standard
      (Publication.terminal a.broker.watched a.routing a.trace)).run (a.publication f)
  ⟨a, result, left⟩

/-- Publishes in the flow of one of those who hold a flow, one after the other. -/
def makeAll {ι : Type} [DecidableEq ι] (holder : ι) (flows : ι → Flow) :
    List (Attempt σ) → List (Made σ) × (ι → Flow)
  | [] => ([], flows)
  | a :: as =>
    let made := a.make (flows holder)
    let (rest, flows) := makeAll holder (Function.update flows holder made.left.flow) as
    (made :: rest, flows)

namespace Made

/-- What was asked of the broker. -/
def calls (m : Made σ) : List Broker.Call := m.left.around.world.2

/-- The identifier that the message was given: it was valid and came without one. -/
def assigned (m : Made σ) : Option Uuid :=
  if m.attempt.message.violations = [] ∧ m.attempt.message.id.isNil = true then
    some m.left.message.id
  else none

end Made

/-- The context of publishes in a flow: the one it holds, or that which the first of them creates. -/
def origin (f : Flow) (attempts : List (Attempt σ)) : Option MessageContext :=
  f.current.or (attempts.head?.map fun a => (MessageContext.start a.supply).1)

/-- The cause after some publishes: the identifier given last, or the one there was at first. -/
def latest (initial : Option Uuid) (made : List (Made σ)) : Option Uuid :=
  (made.filterMap Made.assigned).getLast?.or initial

theorem origin_cons (f : Flow) (a : Attempt σ) (attempts : List (Attempt σ)) :
    origin f (a :: attempts) = some (f.getOrCreate a.supply).1 := by
  unfold origin Flow.getOrCreate
  cases f.current <;> rfl

theorem origin_of_current {f : Flow} {c : MessageContext} (current : f.current = some c)
    (attempts : List (Attempt σ)) : origin f attempts = some c := by
  unfold origin
  rw [current]
  rfl

theorem latest_cons (initial : Option Uuid) (m : Made σ) (made : List (Made σ)) :
    latest initial (m :: made) = latest (m.assigned.or initial) made := by
  unfold latest
  rw [List.filterMap_cons]
  cases m.assigned with
  | none => rfl
  | some id =>
    dsimp only
    rw [List.getLast?_cons]
    cases (made.filterMap Made.assigned).getLast? <;> rfl

/-! ## One publish -/

end Attempt

namespace Publication

variable {p : Publication (σ × List Broker.Call)} {c : MessageContext}

/-- What a publish leaves is what its stages left in a flow that has a context. -/
theorem publish_left {τ : Type} (stages : List (Stage τ)) (last : Step τ Unit) (q : Publication τ) :
    ((publish stages last).run q).2 = ((Pipeline.run stages last).run q.established).2 := by
  unfold publish
  rw [bind_ok (establish_run q)]
  cases ran : (Pipeline.run stages last).run q.established with
  | mk result left =>
    cases result with
    | error e => rw [bind_error ran]
    | ok _ =>
      rw [bind_ok ran, get_bind]
      cases left.receipt <;> rfl

/-- A publish in a flow goes as it does in the same flow with its context. -/
theorem publish_established {τ : Type} (stages : List (Stage τ)) (last : Step τ Unit)
    (q : Publication τ) : (publish stages last).run q = (publish stages last).run q.established := by
  obtain ⟨c, current⟩ := q.established_current
  unfold publish
  rw [bind_ok (establish_run q), bind_ok (establish_run q.established), established_known current]

/-- The context is the flow's, or that of a new chain. -/
theorem current_established {τ : Type} (q : Publication τ) :
    q.established.flow.current = some (q.flow.getOrCreate q.supply).1 ∧
      q.established.supply.ids = q.supply.ids := by
  cases current : q.flow.current with
  | some c =>
    rw [established_known current]
    unfold Flow.getOrCreate
    rw [current]
    exact ⟨rfl, rfl⟩
  | none =>
    rw [established_unknown current]
    unfold Flow.getOrCreate
    rw [current]
    exact ⟨rfl, rfl⟩

/-- A publish that left its flow in a context: every frame handed over holds the message that is
left, in that context. -/
structure LeftIn (p : Publication (σ × List Broker.Call)) (c : MessageContext)
    (left : Publication (σ × List Broker.Call)) : Prop where
  current : left.flow.current = some c
  handed : ∃ calls, left.around.world.2 = p.around.world.2 ++ calls ∧
    ∀ frame answer, .published frame answer ∈ calls →
      ∃ s, frame.payload = (Envelope.around left.message c s).body

/-- The last stage hands over the message as it is, in the context that the flow has. -/
theorem terminal_leftIn (broker : Broker σ) (routing : String → Route)
    (trace : List (String × String)) (current : p.flow.current = some c) :
    let left := ((terminal broker.watched routing trace).run p).2
    LeftIn p c left ∧ left.message = p.message := by
  intro left
  obtain ⟨calls, outcome, course, asked⟩ := terminal_course broker routing trace current
  have message : left.message = p.message := asked.message
  refine ⟨⟨?_, calls, asked.calls, ?_⟩, message⟩
  · rw [asked.flow]
    exact current
  · intro frame answer published
    obtain ⟨rfl, _⟩ := course.of_published published
    refine ⟨p.supply, ?_⟩
    rw [Parcel.payload_frame, message]

/-- A message with violations is left alone, and so is the context; nothing is asked of the
broker. -/
theorem publish_leftIn_invalid (broker : Broker σ) (routing : String → Route)
    (trace : List (String × String)) (current : p.flow.current = some c)
    (invalid : p.message.violations ≠ []) :
    let left := ((publish standard (terminal broker.watched routing trace)).run p).2
    LeftIn p c left ∧ left.message = p.message := by
  intro left
  have ran : (publish standard (terminal broker.watched routing trace)).run p = _ :=
    publish_invalid invalid
  have same : left = _ := congrArg Prod.snd ran
  rw [established_known current] at same
  rw [same]
  refine ⟨⟨current, [], (List.append_nil _).symm, ?_⟩, rfl⟩
  intro frame answer published
  cases published

/-- A valid message with an identifier is left alone, and so is the context. -/
theorem publish_leftIn_known (broker : Broker σ) (routing : String → Route)
    (trace : List (String × String)) (current : p.flow.current = some c)
    (valid : p.message.violations = []) (known : p.message.id.isNil = false) :
    let left := ((publish standard (terminal broker.watched routing trace)).run p).2
    LeftIn p c left ∧ left.message = p.message := by
  intro left
  have ran : left = ((terminal broker.watched routing trace).run p).2 := by
    show ((publish _ _).run p).2 = _
    rw [publish_left, established_known current]
    unfold standard
    rw [Pipeline.run_cons, Pipeline.run_cons, Pipeline.run_nil, validation_valid valid,
      enrichment_known known]
  rw [ran]
  exact terminal_leftIn broker routing trace current

/-- A valid message without an identifier is given one, which is the cause from then on. -/
theorem publish_leftIn_unknown (broker : Broker σ) (routing : String → Route)
    (trace : List (String × String)) (current : p.flow.current = some c)
    (valid : p.message.violations = []) (unknown : p.message.id.isNil = true)
    (fresh : p.supply.drawId.1.isNil = false) :
    let left := ((publish standard (terminal broker.watched routing trace)).run p).2
    LeftIn p (c.causedBy p.supply.drawId.1) left ∧
      left.message = p.message.withId p.supply.drawId.1 := by
  intro left
  let q : Publication (σ × List Broker.Call) := { p with
    message := p.message.withId p.supply.drawId.1
    supply := p.supply.drawId.2
    flow := .of (c.causedBy p.supply.drawId.1) }
  have ran : left = ((terminal broker.watched routing trace).run q).2 := by
    show ((publish _ _).run p).2 = _
    rw [publish_left, established_known current]
    unfold standard
    rw [Pipeline.run_cons, Pipeline.run_cons, Pipeline.run_nil, validation_valid valid,
      enrichment_unknown unknown current fresh]
  obtain ⟨leftIn, message⟩ := terminal_leftIn (p := q) broker routing trace rfl
  rw [ran]
  exact ⟨⟨leftIn.current, leftIn.handed⟩, message⟩

end Publication

namespace Attempt

/-- What one publish makes of a context: the cause is the identifier that the message was given, if
it was given one, and nothing else changes. -/
structure Made.Carries (m : Made σ) (c c' : MessageContext) : Prop where
  context : c' = { c with causationId := m.assigned.or c.causationId }
  current : m.left.flow.current = some c'
  handed : ∀ frame answer, .published frame answer ∈ m.calls →
    ∃ s, frame.payload = (Envelope.around m.left.message c' s).body
  given : ∀ id, m.assigned = some id →
    id.isNil = false ∧ m.left.message = m.attempt.message.withId id
  untouched : m.assigned = none → m.left.message = m.attempt.message

theorem Made.assigned_of_invalid {m : Made σ} (invalid : m.attempt.message.violations ≠ []) :
    m.assigned = none := if_neg fun h => invalid h.1

theorem Made.assigned_of_known {m : Made σ} (known : m.attempt.message.id.isNil = false) :
    m.assigned = none := if_neg fun h => Bool.false_ne_true (known.symm.trans h.2)

/-- A publish carries on the flow's context, or that of a new chain. -/
theorem make_carries (a : Attempt σ) (f : Flow) (fresh : ∀ n, (a.supply.ids n).isNil = false) :
    ∃ c', (a.make f).Carries (f.getOrCreate a.supply).1 c' := by
  let p := (a.publication f).established
  obtain ⟨current, ids⟩ := (a.publication f).current_established
  have drawn : p.supply.drawId.1.isNil = false := by
    show (p.supply.ids _).isNil = false
    rw [ids]
    exact fresh _
  have left : (a.make f).left = _ := congrArg Prod.snd (Publication.publish_established
    Publication.standard (Publication.terminal a.broker.watched a.routing a.trace) (a.publication f))
  -- the frames are those of the publish, as nothing was asked before it
  have frames {c' : MessageContext} (leftIn : Publication.LeftIn p c' (a.make f).left) :
      ∀ frame answer, .published frame answer ∈ (a.make f).calls →
        ∃ s, frame.payload = (Envelope.around (a.make f).left.message c' s).body := by
    obtain ⟨calls, noted, handed⟩ := leftIn.handed
    have all : (a.make f).calls = calls := noted
    rw [all]
    exact handed
  by_cases valid : a.message.violations = []
  · cases unknown : a.message.id.isNil with
    | false =>
      have none : (a.make f).assigned = none := Made.assigned_of_known unknown
      obtain ⟨leftIn, message⟩ := Publication.publish_leftIn_known a.broker a.routing a.trace
        current valid unknown
      rw [← left] at leftIn message
      refine ⟨_, ?_, leftIn.current, frames leftIn, ?_, fun _ => message⟩
      · rw [none]
        rfl
      · intro id given
        rw [none] at given
        cases given
    | true =>
      obtain ⟨leftIn, message⟩ := Publication.publish_leftIn_unknown a.broker a.routing a.trace
        current valid unknown drawn
      rw [← left] at leftIn message
      have given : (a.make f).assigned = some p.supply.drawId.1 := by
        unfold Made.assigned
        rw [message, Message.id_withId]
        exact if_pos ⟨valid, unknown⟩
      refine ⟨_, ?_, leftIn.current, frames leftIn, ?_, ?_⟩
      · rw [given]
        rfl
      · intro id same
        rw [given] at same
        cases same
        exact ⟨drawn, message⟩
      · intro none
        rw [given] at none
        cases none
  · have none : (a.make f).assigned = none := Made.assigned_of_invalid valid
    obtain ⟨leftIn, message⟩ := Publication.publish_leftIn_invalid a.broker a.routing a.trace
      current valid
    rw [← left] at leftIn message
    refine ⟨_, ?_, leftIn.current, frames leftIn, ?_, fun _ => message⟩
    · rw [none]
      rfl
    · intro id given
      rw [none] at given
      cases given

/-! ## Publishes in a row -/

section Row

variable {ι : Type} [DecidableEq ι] {holder : ι} {flows flows' : ι → Flow}
  {attempts : List (Attempt σ)}

/-- Hands a copy of a holder's flow to a child. -/
def branch (flows : ι → Flow) (holder child : ι) : ι → Flow :=
  Function.update flows child (flows holder)

theorem attempts_makeAll : (makeAll holder flows attempts).1.map Made.attempt = attempts := by
  induction attempts generalizing flows with
  | nil => rfl
  | cons a as ih => exact congrArg (a :: ·) ih

/-- The flows of others are left alone. -/
theorem makeAll_of_ne {other : ι} (apart : other ≠ holder) :
    (makeAll holder flows attempts).2 other = flows other := by
  induction attempts generalizing flows with
  | nil => rfl
  | cons a as ih =>
    show (makeAll holder (Function.update flows holder _) as).2 other = _
    rw [ih, Function.update_of_ne apart]

/-- Nothing but the holder's own flow matters to what is published in it. -/
theorem makeAll_congr (same : flows holder = flows' holder) :
    (makeAll holder flows attempts).1 = (makeAll holder flows' attempts).1 := by
  induction attempts generalizing flows flows' with
  | nil => rfl
  | cons a as ih =>
    show a.make (flows holder) :: (makeAll holder (Function.update flows holder _) as).1
      = a.make (flows' holder) :: (makeAll holder (Function.update flows' holder _) as).1
    rw [same]
    congr 1
    apply ih
    rw [Function.update_self, Function.update_self]

/-- Every publish carries on the first context, with the cause given last. -/
theorem makeAll_carries {c : MessageContext} (origin : origin (flows holder) attempts = some c)
    (fresh : ∀ a ∈ attempts, ∀ n, (a.supply.ids n).isNil = false) {k : Nat} {m : Made σ}
    (found : (makeAll holder flows attempts).1[k]? = some m) :
    let made := (makeAll holder flows attempts).1
    m.Carries { c with causationId := latest c.causationId (made.take k) }
      { c with causationId := latest c.causationId (made.take (k + 1)) } := by
  induction attempts generalizing flows c k with
  | nil => cases found
  | cons a as ih =>
    intro made
    obtain ⟨freshFirst, freshRest⟩ := List.forall_mem_cons.1 fresh
    obtain ⟨c', carries⟩ := make_carries a (flows holder) freshFirst
    rw [origin_cons, Option.some_inj] at origin
    rw [origin] at carries
    have context := carries.context
    have split : made = a.make (flows holder)
      :: (makeAll holder (Function.update flows holder (a.make (flows holder)).left.flow) as).1 := rfl
    cases k with
    | zero =>
      cases found
      rw [split, List.take_zero, List.take_succ_cons, List.take_zero, latest_cons]
      rw [context] at carries
      exact carries
    | succ k =>
      have after : ((Function.update flows holder (a.make (flows holder)).left.flow) holder).current
          = some c' := by
        rw [Function.update_self]
        exact carries.current
      have rest := ih (origin_of_current after as) freshRest found
      rw [split, List.take_succ_cons, List.take_succ_cons, latest_cons, latest_cons]
      rw [context] at rest
      exact rest

/-- The chain of a flow. For publishes of any messages in the flow of one holder, one after the
other, whatever the brokers answer and whenever the tokens fire:

* all belong to the chain of the context that the flow held, or that the first publish created: the
  flow keeps its correlation and its time, and every envelope handed over has that correlation;
* the cause in the flow and on what is handed over is the identifier given last, by then, to a valid
  message that came without one, be it sent or not, or the one there was at first;
* a message with violations stays as it was, and so does the cause;
* what others hold is left alone, a copy of the flow among it. -/
theorem causal_chain (holder : ι) (flows : ι → Flow) (attempts : List (Attempt σ))
    (fresh : ∀ a ∈ attempts, ∀ n, (a.supply.ids n).isNil = false) :
    let (made, after) := makeAll holder flows attempts
    made.map Made.attempt = attempts ∧
    (∀ k m, made[k]? = some m → ∃ c, origin (flows holder) attempts = some c ∧
      m.left.flow.current
          = some { c with causationId := latest c.causationId (made.take (k + 1)) } ∧
      (∀ frame answer, .published frame answer ∈ m.calls →
        ∃ e, frame.payload = Envelope.body e ∧ Envelope.decode frame.payload = .ok e.settled ∧
          e.correlationId = c.correlationId ∧
          e.causationId = latest c.causationId (made.take (k + 1))) ∧
      (∀ id, m.assigned = some id →
        id.isNil = false ∧ m.left.message = m.attempt.message.withId id) ∧
      (m.attempt.message.violations ≠ [] → m.left.message = m.attempt.message ∧
        latest c.causationId (made.take (k + 1)) = latest c.causationId (made.take k))) ∧
    (∀ other, other ≠ holder → after other = flows other) ∧
    (∀ child, child ≠ holder →
      let (made', after') := makeAll holder (branch flows holder child) attempts
      made' = made ∧ after' child = flows holder) := by
  refine ⟨attempts_makeAll, ?publishes, fun other apart => makeAll_of_ne apart, ?copies⟩
  case publishes =>
    intro k m found
    obtain ⟨c, origin⟩ : ∃ c, origin (flows holder) attempts = some c := by
      cases attempts with
      | nil => cases found
      | cons a as => exact ⟨_, origin_cons _ a as⟩
    have carries := makeAll_carries origin fresh found
    refine ⟨c, origin, carries.current, ?frames, carries.given, ?invalid⟩
    case frames =>
      intro frame answer published
      obtain ⟨s, payload⟩ := carries.handed frame answer published
      refine ⟨_, payload, ?_, rfl, rfl⟩
      rw [payload]
      exact Envelope.decode_body m.left.message.isRaw_payload
    case invalid =>
      intro invalid
      have none : m.assigned = none := Made.assigned_of_invalid invalid
      have context := congrArg MessageContext.causationId carries.context
      rw [none] at context
      exact ⟨carries.untouched none, context⟩
  case copies =>
    intro child apart
    have same : branch flows holder child holder = flows holder :=
      Function.update_of_ne apart.symm _ _
    have kept : branch flows holder child child = flows holder := Function.update_self _ _ _
    exact ⟨makeAll_congr same, (makeAll_of_ne apart).trans kept⟩

end Row

/-- An identifier of one octet, sixteen times. -/
def repeated (octet : UInt8) : Uuid := ⟨List.replicate 16 octet, List.length_replicate⟩

/-- A publish that meets no hindrance, with one identifier to draw. -/
def smooth (m : Message) (id : Uuid) : Attempt Unit where
  message := m
  broker := Publication.indulgent
  routing := .of "bus"
  trace := []
  declared := []
  supply := .fresh (fun _ => id) fun _ => .epoch
  around := ⟨(), false, []⟩

/-- The news of a deletion is given an identifier, a demand that names no client none; the news that
comes with one of its own is then sent with the first as its cause. -/
theorem causal_chain_deletions :
    let attempts := [smooth ⟨.clientDeleted, ⟨.nil⟩⟩ (repeated 1),
      smooth ⟨.deleteClient, ⟨.nil⟩⟩ (repeated 2), smooth ⟨.clientDeleted, ⟨repeated 9⟩⟩ (repeated 3)]
    ∃ (m : Made Unit) (frame : Frame) (e : Envelope),
      (makeAll () (fun _ => Flow.empty) attempts).1[2]? = some m ∧
      .published frame (.ok 7) ∈ m.calls ∧ frame.payload = e.body ∧
      e.correlationId = repeated 1 ∧ e.causationId = some (repeated 1) := by
  intro attempts
  have fresh : ∀ a ∈ attempts, ∀ n, (a.supply.ids n).isNil = false := by
    intro a mem n
    simp only [attempts, List.mem_cons, List.not_mem_nil, or_false] at mem
    obtain rfl | rfl | rfl := mem <;> rfl
  obtain ⟨_, publishes, _⟩ := causal_chain () (fun _ => Flow.empty) attempts fresh
  obtain ⟨c, origin, _, handed, _⟩ := publishes 2 _ rfl
  cases origin
  obtain ⟨e, payload, _, correlation, cause⟩ :=
    handed _ (.ok 7) (List.mem_cons_of_mem _ (List.mem_singleton.2 rfl))
  exact ⟨_, _, e, rfl, List.mem_cons_of_mem _ (List.mem_singleton.2 rfl), payload, correlation, cause⟩

end Attempt

end Courier
