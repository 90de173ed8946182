import Courier.Proofs.Dispatch.Intake
import Courier.Proofs.Settlement

/-!
# What the deeds of a loop do

A deed of a loop is what one of its moves does (`Worker.Does`): to take a delivery leaves the link
alone, to handle it is one run of the handler on its body, and to settle it puts the requests of its
settlement to the server. A move of the loop without a deed leaves the link alone as well, and a
loop has no part in the moves of others (`Intake.does_act`). A loop that runs is never stuck
(`Intake.goes_on`).
-/

namespace Courier
set_option autoImplicit false

variable {σ τ : Type}

/-- That a delivery could not be settled is reported and no more. -/
theorem Consumer.conclude_eq (c : Consumer τ) (d : Delivery)
    (outcome : Except MessagingError Unit) (s : Surroundings τ) :
    ∃ log, (c.conclude d outcome s).2 = { (c.settle d outcome s).2 with log } := by
  unfold conclude
  rw [Work.bind_apply]
  cases (c.settle d outcome s).1 with
  | ok _ => exact ⟨_, rfl⟩
  | error e => exact ⟨_, rfl⟩

namespace Worker

section Effects

variable (server : Server σ)
  (receive : Octets → Work (Link (σ × List Request)) (Except MessagingError Unit))
  (policy : RetryPolicy) (queue : String) (channel : Nat)
  (s t : Surroundings (Link (σ × List Request)))

/-- What a move of a loop does to the link and its server, which records the requests put to it,
given the deed that comes of it, if any. -/
inductive Does : List Deed → Prop where
  | nothing (alone : t.world = s.world) : Does []
  | took (d : Delivery) (alone : t.world = s.world) : Does [.took d]
  | handled {d : Delivery} {outcome : Except MessagingError Unit}
      {received : Surroundings (Link (σ × List Request))} {log : List Log.Event}
      (ran : receive d.body s = (outcome, received)) (after : t = { received with log }) :
    Does [.handled d outcome]
  | settled {d : Delivery} {outcome : Except MessagingError Unit} {requests : List Request}
      {log : List Log.Event}
      (settlement : requests = d.settlement policy queue channel d.properties.deathCount outcome
        (server.request (d.copyTo channel (queue ++ "-dlq")) s.world.server.1).1)
      (after : t = { s with
        world := { s.world with
          server := (server.afterAll requests s.world.server.1, s.world.server.2 ++ requests) }
        log }) :
    Does [.settled d outcome]

end Effects

variable {server : Server σ}
  {receive : Octets → Work (Link (σ × List Request)) (Except MessagingError Unit)}
  {policy : RetryPolicy} {name : String} {channel : Nat} {w : Worker (σ × List Request)}

theorem does_poll (w : Worker (σ × List Request)) (feed : Feed) (n : Nat) (fires : Bool)
    (s : Surroundings (Link (σ × List Request))) :
    let ran := (w.poll feed n fires).run s
    Does server receive policy name channel s ran.2 ran.1.2.1 := by
  cases fired : s.cancelled with
  | true =>
    rw [poll_fired fired]
    exact .nothing rfl
  | false =>
    rw [poll_live fired]
    cases feed n with
    | none => cases fires <;> exact .nothing rfl
    | some item =>
      cases item with
      | delivery d => exact .took d rfl
      | failure reason => exact .nothing rfl

theorem Serves.attends (serves : w.Serves server.recorded receive name policy channel)
    (d : Delivery) (s : Surroundings (Link (σ × List Request))) :
    let ran := (w.consumer.attend d).run s
    Does server receive policy name channel s ran.2 [.handled d ran.1] := by
  have handles : w.consumer.handle d.body s = receive d.body s := by rw [serves.consumer]; rfl
  cases ran : receive d.body s with
  | mk outcome received =>
    obtain ⟨log, attended⟩ := w.consumer.attend_eq (handles.trans ran)
    change let ran := w.consumer.attend d s
      Does server receive policy name channel s ran.2 [.handled d ran.1]
    rw [attended]
    exact .handled ran rfl

theorem Serves.concludes (serves : w.Serves server.recorded receive name policy channel)
    (d : Delivery) (outcome : Except MessagingError Unit)
    (s : Surroundings (Link (σ × List Request))) :
    Does server receive policy name channel s ((w.consumer.conclude d outcome).run s).2
      [.settled d outcome] := by
  let c := Dispatch.consumer server.recorded policy
    ⟨policy.queue name, w.loop.subscription.channel⟩ channel receive
  have settled : Dispatch.Settled server.recorded _ s (c.settle d outcome s) :=
    Dispatch.settle_settled outcome
  obtain ⟨⟨log, after⟩, -⟩ := settled
  obtain ⟨log', concluded⟩ := c.conclude_eq d outcome s
  rw [after, server.recorded_afterAll] at concluded
  rw [serves.consumer_eq]
  exact .settled rfl concluded

theorem Serves.does_turn (serves : w.Serves server.recorded receive name policy channel)
    (turn : Turn) (s : Surroundings (Link (σ × List Request))) :
    let ran := (w.step turn.step).run s
    Does server receive policy name channel s ran.2 ran.1.2 := by
  cases running : w.isRunning with
  | false =>
    rw [step_of_not_running running]
    exact .nothing rfl
  | true =>
    cases turn with
    | notice =>
      cases waits : w.stage with
      | waiting =>
        rw [Turn.step, step_notice running waits]
        exact .nothing rfl
      | taken d | handled d outcome =>
        rw [Turn.step, step_of_running running, waits]
        exact .nothing rfl
    | handle =>
      cases taken : w.stage with
      | taken d =>
        rw [Turn.step, step_handle running taken]
        exact serves.attends d s
      | waiting | handled d outcome =>
        rw [Turn.step, step_of_running running, taken]
        exact .nothing rfl
    | settle =>
      cases handled : w.stage with
      | handled d outcome =>
        rw [Turn.step, step_settle running handled]
        exact serves.concludes d outcome s
      | waiting | taken d =>
        rw [Turn.step, step_of_running running, handled]
        exact .nothing rfl
    | abort =>
      rw [Turn.step, step_of_running running]
      cases w.stage <;> exact .nothing rfl

end Worker

namespace Intake

/-- Whether a move is one of a loop. -/
def Move.isOf (m : Move σ) (k : Nat) : Bool :=
  match m with
  | .poll j _ | .turn j _ => j = k
  | .setUp | .join | .cancel | .elsewhere _ => false

/-- A loop does nothing in the moves of others. -/
theorem deedsOf_act {k : Nat} {m : Move σ} (other : m.isOf k = false) (server : Server σ)
    (routing : String → Route) (receive : Octets → Work (Link σ) (Except MessagingError Unit))
    (feeds : Nat → Feed) (s : Intake σ) :
    (s.act server routing receive feeds m).service.deedsOf k = s.service.deedsOf k := by
  cases m with
  | poll j fires =>
    change (s.poll feeds j fires).service.deedsOf k = _
    rcases s.poll_cases feeds j fires with same | ⟨w, here, idle⟩
    · rw [same]
    · rw [poll_idle here idle]
      exact Service.deedsOf_put_of_ne (of_decide_eq_false other)
  | turn j turn =>
    change (s.service.advance j turn.step).deedsOf k = _
    cases here : s.service.workers[j]? with
    | none => rw [Service.advance_none here]
    | some w =>
      rw [Service.advance_eq here rfl]
      exact Service.deedsOf_put_of_ne (of_decide_eq_false other)
  | setUp =>
    change (s.service.setUp server routing receive).deedsOf k = _
    have came := s.service.setUp_cases server routing receive
    generalize s.service.setUp server routing receive = next at came ⊢
    cases came <;> rfl
  | join =>
    change s.service.join.deedsOf k = _
    have came := s.service.join_cases
    generalize s.service.join = next at came ⊢
    cases came <;> rfl
  | cancel | elsewhere change => rfl

variable {server : Server σ}
  {receive : Octets → Work (Link (σ × List Request)) (Except MessagingError Unit)}
  {s : Intake (σ × List Request)} {policy : RetryPolicy} {name : String} {channel k : Nat}

/-- What a loop does in a move of its own. -/
theorem does_act (routing : String → Route) (feeds : Nat → Feed)
    (serves : ∀ w, s.service.workers[k]? = some w →
      w.Serves server.recorded receive name policy channel)
    {m : Move (σ × List Request)} (own : m.isOf k = true) :
    let t := s.act server.recorded routing receive feeds m
    ∃ deeds, t.service.deedsOf k = s.service.deedsOf k ++ deeds ∧
      Worker.Does server receive policy name channel s.service.around t.service.around deeds := by
  intro t
  cases m with
  | poll j fires =>
    obtain rfl : j = k := of_decide_eq_true own
    change ∃ deeds, (s.poll feeds j fires).service.deedsOf j = _ ∧
      Worker.Does _ _ _ _ _ _ (s.poll feeds j fires).service.around deeds
    rcases s.poll_cases feeds j fires with same | ⟨w, here, idle⟩
    · rw [same]
      exact ⟨[], (List.append_nil _).symm, .nothing rfl⟩
    · rw [poll_idle here idle]
      exact ⟨_, Service.deedsOf_put_self, w.does_poll _ _ fires _⟩
  | turn j turn =>
    obtain rfl : j = k := of_decide_eq_true own
    change ∃ deeds, (s.service.advance j turn.step).deedsOf j = _ ∧
      Worker.Does _ _ _ _ _ _ (s.service.advance j turn.step).around deeds
    cases here : s.service.workers[j]? with
    | none =>
      rw [Service.advance_none here]
      exact ⟨[], (List.append_nil _).symm, .nothing rfl⟩
    | some w =>
      rw [Service.advance_eq here rfl]
      exact ⟨_, Service.deedsOf_put_self, (serves w here).does_turn turn _⟩
  | setUp | join | cancel | elsewhere change => cases own

/-! ## How a loop gets on -/

/-- There is a move for a loop to get on by, wherever it is. One that waits stops if the token has
fired, draws the next item of its feed if there is one, and stops if there is none. One that has
taken a delivery handles it, and one that has handled it settles it. -/
structure GoesOn (server : Server σ) (routing : String → Route)
    (receive : Octets → Work (Link σ) (Except MessagingError Unit)) (feeds : Nat → Feed)
    (s : Intake σ) (k : Nat) (w : Worker σ) : Prop where
  stops : w.stage = .waiting → s.service.around.cancelled = true → ∀ fires,
    (s.act server routing receive feeds (.poll k fires)).stateAt k = some (.stopped .cancelled)
  draws : w.stage = .waiting → s.service.around.cancelled = false →
    (feeds k (s.drawn k)).isSome → ∀ fires,
      (s.act server routing receive feeds (.poll k fires)).drawn k = s.drawn k + 1
  ends : w.stage = .waiting → s.service.around.cancelled = false →
    feeds k (s.drawn k) = none → ∀ fires,
      (s.act server routing receive feeds (.poll k fires)).stateAt k =
        some (.stopped (if fires then .cancelled else .streamEnded))
  handles : ∀ d, w.stage = .taken d → ∃ outcome,
    (s.act server routing receive feeds (.turn k .handle)).service.deedsOf k =
      s.service.deedsOf k ++ [.handled d outcome]
  settles : ∀ d outcome, w.stage = .handled d outcome →
    (s.act server routing receive feeds (.turn k .settle)).service.deedsOf k =
      s.service.deedsOf k ++ [.settled d outcome]

theorem goes_on {k : Nat} {s : Intake σ} {w : Worker σ} (here : s.service.workers[k]? = some w)
    (running : w.isRunning) (server : Server σ) (routing : String → Route)
    (receive : Octets → Work (Link σ) (Except MessagingError Unit)) (feeds : Nat → Feed) :
    GoesOn server routing receive feeds s k w := by
  have polls (waits : w.stage = .waiting) (fires : Bool) :
      s.act server routing receive feeds (.poll k fires) = _ :=
    poll_idle here (Worker.isIdle_iff.2 ⟨running, waits⟩) fires
  have stopped {exit : Exit} {deeds : List Worker.Deed} {around : Surroundings (Link σ)}
      {drawn : Nat → Nat} : stateAt
        { service := s.service.put k (w.setState (.stopped exit)) deeds around, drawn } k =
          some (.stopped exit) :=
    stateAt_eq_some.2 ⟨_, Service.getElem?_put here _ _ _, rfl⟩
  constructor
  case stops =>
    intro waits fired fires
    rw [polls waits, Worker.poll_fired fired]
    exact stopped
  case draws =>
    intro waits live there fires
    rw [polls waits, Worker.poll_live live]
    obtain ⟨item, at_n⟩ := Option.isSome_iff_exists.1 there
    rw [at_n]
    cases item <;> exact if_pos rfl
  case ends =>
    intro waits live atEnd fires
    rw [polls waits, Worker.poll_live live, atEnd]
    cases fires <;> exact stopped
  case handles =>
    intro d taken
    change ∃ outcome, (s.service.advance k .handle).deedsOf k = _
    rw [Service.advance_eq here (Worker.step_handle running taken _)]
    exact ⟨_, Service.deedsOf_put_self⟩
  case settles =>
    intro d outcome handled
    change (s.service.advance k .settle).deedsOf k = _
    rw [Service.advance_eq here (Worker.step_settle running handled _)]
    exact Service.deedsOf_put_self

/-! ## What a loop works by -/

section Kept

variable {server : Server σ} {routing : String → Route}
  {receive : Octets → Work (Link σ) (Except MessagingError Unit)} {feeds : Nat → Feed}
  {s : Intake σ} {policy : RetryPolicy} {name : String} {channel k : Nat} {w w' : Worker σ}

/-- A loop keeps its subscription and its consumer, whatever happens. -/
theorem kept_after (here : s.service.workers[k]? = some w) (moves : List (Move σ)) :
    ∃ state stage, (s.after server routing receive feeds moves).service.workers[k]? =
      some { w with loop := { w.loop with state }, stage } := by
  induction moves generalizing s w with
  | nil => exact ⟨w.loop.state, w.stage, here⟩
  | cons m moves ih =>
    cases change_act server routing receive feeds s m k with
    | still workers => exact ih (workers.trans here)
    | started vacant => cases here.symm.trans vacant
    | passed here' there _ passage =>
      cases here.symm.trans here'
      obtain ⟨_, _, rfl⟩ := passage.kept_consumer
      obtain ⟨state, stage, last⟩ := ih there
      exact ⟨state, stage, last⟩

/-- So what it works by is known from any later time. -/
theorem serves_of_after {moves : List (Move σ)}
    (there : (s.after server routing receive feeds moves).service.workers[k]? = some w')
    (serves : w'.Serves server receive name policy channel)
    (here : s.service.workers[k]? = some w) : w.Serves server receive name policy channel := by
  obtain ⟨state, stage, kept⟩ := kept_after here moves
  cases there.symm.trans kept
  exact ⟨serves.queue, serves.consumer⟩

end Kept

end Intake

end Courier
