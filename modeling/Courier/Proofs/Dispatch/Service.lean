import Courier.Link.Run
import Courier.Proofs.Acting
import Courier.Proofs.Dispatch.Loop
import Courier.Proofs.Registry
import Courier.Proofs.Settlement

/-!
# How a dispatch returns

A dispatch that has set up every queue returns when its loops have stopped, and nothing is done
after that. One that fails to set up a queue returns at once (`Service.result_cases`): the loops
that it has started go on as if it had not (`Service.outlived`).

Without anything in between, setting up the queues is what `Dispatch.start` does
(`Service.start_alone`), and a loop does what its consumer's run does (`Service.loop_alone`).
-/

namespace Courier
set_option autoImplicit false
open Acting

variable {σ : Type}

namespace Dispatch

theorem subscribe_queue {server : Server σ} {routing : String → Route} {name : String}
    {s t : Surroundings (Link σ)} {subscription : Subscription}
    (ran : (subscribe server routing name).run s = (.ok subscription, t)) :
    subscription.queue = s.world.policy.queue name := by
  unfold subscribe at ran
  rw [bind_ok (x := Link.current) (a := s.world) (t := s) rfl] at ran
  dsimp only at ran
  obtain ⟨_, _, _, ran⟩ := bind_eq_ok ran
  obtain ⟨i, _, _, ran⟩ := bind_eq_ok ran
  obtain ⟨_, _, _, ran⟩ := bind_eq_ok ran
  obtain ⟨_, _, _, ran⟩ := bind_eq_ok ran
  obtain ⟨_, _, _, ran⟩ := bind_eq_ok ran
  cases ran
  rfl

section SubscribeAll

variable {server : Server σ} {routing : String → Route} {name : String} {names : List String}
  {loops : List ConsumerLoop} {s t : Surroundings (Link σ)}

theorem subscribeAll_ok {subscription : Subscription}
    (ran : (subscribe server routing name).run s = (.ok subscription, t)) :
    (subscribeAll server routing loops (name :: names)).run s =
      (subscribeAll server routing (loops ++ [⟨subscription, .running⟩]) names).run t := by
  have first : StateT.run (ExceptT.run (subscribe server routing name)) s = (.ok subscription, t) :=
    ran
  rw [subscribeAll, StateT.run_bind, first]
  rfl

theorem subscribeAll_error {e : BrokerError}
    (ran : (subscribe server routing name).run s = (.error e, t)) :
    (subscribeAll server routing loops (name :: names)).run s =
      (⟨loops, some (.error (.ofBroker e))⟩, t) := by
  have first : StateT.run (ExceptT.run (subscribe server routing name)) s = (.error e, t) := ran
  rw [subscribeAll, StateT.run_bind, first]
  rfl

end SubscribeAll

/-- A dispatch that waits for its loops returns only if none of them runs. -/
theorem join_result {d : Dispatch} {s : Surroundings σ} (waits : d.result = none)
    (done : ((join d).run s).1.result.isSome) : ∀ l ∈ d.loops, l.state ≠ .running := by
  intro l mem running
  have goesOn : (d.loops.any fun l => decide (l.state = .running)) = true :=
    List.any_eq_true.2 ⟨l, mem, decide_eq_true running⟩
  unfold join at done
  rw [goesOn, Bool.or_true, if_pos rfl] at done
  exact absurd waits (Option.isSome_iff_ne_none.1 done)

/-- A dispatch that has returned, or whose loops run, is left as it is. -/
theorem join_waits {d : Dispatch}
    (waits : (d.result.isSome || d.loops.any fun l => l.state = .running) = true)
    (s : Surroundings σ) : (join d).run s = (d, s) := by
  unfold join
  rw [if_pos waits]
  rfl

theorem join_returned {d : Dispatch} (returned : d.result.isSome) (s : Surroundings σ) :
    (join d).run s = (d, s) :=
  join_waits (by rw [returned, Bool.true_or]) s

/-- A dispatch whose loops have stopped returns; if none was brought down, with what the first one
was lost by. -/
theorem join_stopped {d : Dispatch} (waits : d.result = none)
    (stopped : ∀ l ∈ d.loops, l.state ≠ .running) (s : Surroundings σ) :
    ∃ log r, ((∀ l ∈ d.loops, l.state ≠ .aborted) → r = (firstLost d.loops).mapError .ofBroker) ∧
      (join d).run s = ({ d with result := some r }, { s with log }) := by
  have returns : ¬ (d.result.isSome || d.loops.any fun l => l.state = .running) = true := by
    rw [waits, Option.isSome_none, Bool.false_or, List.any_eq_true]
    rintro ⟨l, mem, running⟩
    exact stopped l mem (of_decide_eq_true running)
  unfold join
  rw [if_neg returns]
  split
  · next down =>
    refine ⟨_, _, fun none => ?_, rfl⟩
    obtain ⟨l, mem, aborted⟩ := List.any_eq_true.1 down
    exact absurd (of_decide_eq_true aborted) (none l mem)
  · cases firstLost d.loops with
    | ok _ => exact ⟨s.log, _, fun _ => rfl, rfl⟩
    | error e => exact ⟨s.log, _, fun _ => rfl, rfl⟩

end Dispatch

namespace Service

variable {server : Server σ} {routing : String → Route}
  {receive : Octets → Work (Link σ) (Except MessagingError Unit)} {s : Service σ}

/-! ## Steps of a dispatch -/

section SettingUp

variable {name : String} {pending : List String} {t : Surroundings (Link σ)}

theorem setUp_returned (returned : s.result.isSome) : s.setUp server routing receive = s := by
  obtain ⟨r, result⟩ := Option.isSome_iff_exists.1 returned
  unfold setUp
  rw [result]
  cases s.pending <;> rfl

theorem setUp_complete (complete : s.pending = []) : s.setUp server routing receive = s := by
  unfold setUp
  rw [complete]

theorem setUp_ok (receive : Octets → Work (Link σ) (Except MessagingError Unit))
    (still : s.pending = name :: pending) (waits : s.result = none)
    {subscription : Subscription}
    (ran : (Dispatch.subscribe server routing name).run s.around = (.ok subscription, t)) :
    ∃ w : Worker σ, w.loop = ⟨subscription, .running⟩ ∧
      s.setUp server routing receive =
        { s with around := t, pending, workers := s.workers ++ [w] } := by
  unfold setUp
  simp only [still, waits, ran]
  exact ⟨_, rfl, rfl⟩

theorem setUp_error (still : s.pending = name :: pending) (waits : s.result = none)
    {e : BrokerError}
    (ran : (Dispatch.subscribe server routing name).run s.around = (.error e, t)) :
    s.setUp server routing receive =
      { s with around := t, result := some (.error (.ofBroker e)) } := by
  unfold setUp
  simp only [still, waits, ran]

/-- What it comes to that a dispatch sets up its next queue. -/
inductive SetUp (server : Server σ) (routing : String → Route)
    (receive : Octets → Work (Link σ) (Except MessagingError Unit)) (s : Service σ) :
    Service σ → Prop where
  | nothing : SetUp server routing receive s s
  | started {name : String} {pending : List String} {t : Surroundings (Link σ)}
      {subscription : Subscription} (still : s.pending = name :: pending) (waits : s.result = none)
      (ran : (Dispatch.subscribe server routing name).run s.around = (.ok subscription, t)) :
    SetUp server routing receive s { s with
      around := t
      pending
      workers := s.workers ++ [{
        loop := ⟨subscription, .running⟩
        consumer := Dispatch.consumer server t.world.policy subscription
          (t.world.handle subscription.channel) receive }] }
  | failed {name : String} {pending : List String} {t : Surroundings (Link σ)} {e : BrokerError}
      (still : s.pending = name :: pending) (waits : s.result = none)
      (ran : (Dispatch.subscribe server routing name).run s.around = (.error e, t)) :
    SetUp server routing receive s { s with around := t, result := some (.error (.ofBroker e)) }

theorem setUp_cases (server : Server σ) (routing : String → Route)
    (receive : Octets → Work (Link σ) (Except MessagingError Unit)) (s : Service σ) :
    SetUp server routing receive s (s.setUp server routing receive) := by
  cases waits : s.result with
  | some r =>
    rw [setUp_returned (Option.isSome_of_eq_some waits)]
    exact .nothing
  | none =>
    cases still : s.pending with
    | nil =>
      rw [setUp_complete still]
      exact .nothing
    | cons name pending =>
      cases ran : (Dispatch.subscribe server routing name).run s.around with
      | mk answer around =>
        cases answer with
        | ok subscription =>
          have started : SetUp server routing receive s _ := .started still waits ran
          unfold setUp
          simp only [still, waits, ran] at started ⊢
          exact started
        | error e =>
          rw [setUp_error still waits ran]
          exact .failed still waits ran

end SettingUp

/-- What it comes to that a dispatch is to wait for its loops. -/
inductive Join (s : Service σ) : Service σ → Prop where
  | nothing : Join s s
  | returned (complete : s.pending = []) (waits : s.result = none)
      (stopped : ∀ w ∈ s.workers, w.isRunning = false) {log : List Log.Event}
      {r : Except MessagingError Unit}
      (told : (∀ w ∈ s.workers, w.loop.state ≠ .aborted) →
        r = (Dispatch.firstLost s.dispatch.loops).mapError .ofBroker) :
    Join s { s with around := { s.around with log }, result := some r }

theorem join_stopped (complete : s.pending = []) (waits : s.result = none)
    (stopped : ∀ w ∈ s.workers, w.isRunning = false) :
    ∃ log r, ((∀ w ∈ s.workers, w.loop.state ≠ .aborted) →
        r = (Dispatch.firstLost s.dispatch.loops).mapError .ofBroker) ∧
      s.join = { s with around := { s.around with log }, result := some r } := by
  have none (l : ConsumerLoop) (mem : l ∈ s.dispatch.loops) : l.state ≠ .running := by
    obtain ⟨w, mem', rfl⟩ := List.mem_map.1 mem
    exact of_decide_eq_false (stopped w mem')
  obtain ⟨log, r, told, ran⟩ := Dispatch.join_stopped (d := s.dispatch) waits none s.around
  refine ⟨log, r, fun unaborted => told fun l mem => ?_, ?_⟩
  · obtain ⟨w, mem', rfl⟩ := List.mem_map.1 mem
    exact unaborted w mem'
  · unfold join
    simp only [complete, ran]

theorem join_cases (s : Service σ) : Join s s.join := by
  cases complete : s.pending with
  | cons name pending =>
    have same : s.join = s := by
      unfold join
      rw [complete]
    rw [same]
    exact .nothing
  | nil =>
    by_cases waits :
      (s.dispatch.result.isSome || s.dispatch.loops.any fun l => l.state = .running) = true
    · have same : s.join = s := by
        unfold join
        rw [Dispatch.join_waits waits]
        split <;> rfl
      rw [same]
      exact .nothing
    · rw [Bool.or_eq_true, not_or] at waits
      have unreturned : s.result = none := Option.not_isSome_iff_eq_none.1 waits.1
      have stopped (w : Worker σ) (mem : w ∈ s.workers) : w.isRunning = false :=
        Bool.eq_false_iff.2 fun running =>
          waits.2 (List.any_eq_true.2 ⟨w.loop, List.mem_map_of_mem mem, running⟩)
      obtain ⟨log, r, told, returned⟩ := join_stopped complete unreturned stopped
      rw [returned]
      exact .returned complete unreturned stopped told

theorem put_self {k : Nat} {w : Worker σ} (here : s.workers[k]? = some w) (deeds : List Worker.Deed)
    (around : Surroundings (Link σ)) :
    s.put k w deeds around = { s with around, deeds := s.deeds ++ deeds.map (k, ·) } := by
  obtain ⟨lt, rfl⟩ := List.getElem?_eq_some_iff.1 here
  unfold put
  rw [List.set_getElem_self]

theorem put_put (s : Service σ) (k : Nat) (w w' : Worker σ) (deeds deeds' : List Worker.Deed)
    (around around' : Surroundings (Link σ)) :
    (s.put k w deeds around).put k w' deeds' around' = s.put k w' (deeds ++ deeds') around' := by
  unfold put
  rw [List.set_set, List.map_append, List.append_assoc]

theorem getElem?_put {k : Nat} {w : Worker σ} (here : s.workers[k]? = some w) (w' : Worker σ)
    (deeds : List Worker.Deed) (around : Surroundings (Link σ)) :
    (s.put k w' deeds around).workers[k]? = some w' :=
  List.getElem?_set_self (List.getElem?_eq_some_iff.1 here).1

theorem queues_put {k : Nat} {w w' : Worker σ} (here : s.workers[k]? = some w)
    (same : w'.loop.subscription = w.loop.subscription) (deeds : List Worker.Deed)
    (around : Surroundings (Link σ)) : (s.put k w' deeds around).queues = s.queues := by
  unfold put queues
  apply List.ext_getElem?
  intro j
  rw [List.getElem?_map, List.getElem?_map, List.getElem?_set]
  split
  · next at_k =>
    rw [← at_k, if_pos (List.getElem?_eq_some_iff.1 here).1, here, Option.map_some, Option.map_some,
      same]
  · rfl

theorem advance_eq {k : Nat} {w w' : Worker σ} {step : Worker.Step} {deeds : List Worker.Deed}
    {around : Surroundings (Link σ)} (here : s.workers[k]? = some w)
    (ran : (w.step step).run s.around = ((w', deeds), around)) :
    s.advance k step = s.put k w' deeds around := by
  unfold advance
  simp only [here, ran]

theorem advance_none {k : Nat} (none : s.workers[k]? = none) (step : Worker.Step) :
    s.advance k step = s := by
  unfold advance
  rw [none]

theorem queues_advance (s : Service σ) (k : Nat) (step : Worker.Step) :
    (s.advance k step).queues = s.queues := by
  cases here : s.workers[k]? with
  | none => rw [advance_none here]
  | some w =>
    rw [advance_eq here rfl]
    exact queues_put here (w.step_subscription step s.around) _ _

/-- A loop that has stopped does not go on. -/
theorem advance_of_not_running {k : Nat}
    (stopped : ∀ w, s.workers[k]? = some w → w.isRunning = false) (step : Worker.Step) :
    s.advance k step = s := by
  cases here : s.workers[k]? with
  | none => exact advance_none here step
  | some w =>
    rw [advance_eq here (Worker.step_of_not_running (stopped w here) step s.around), put_self here,
      List.map_nil, List.append_nil]

theorem advance_stopped (stopped : ∀ w ∈ s.workers, w.isRunning = false) (k : Nat)
    (step : Worker.Step) : s.advance k step = s :=
  advance_of_not_running (fun w here => stopped w (List.mem_of_getElem? here)) step

/-! ## Orderly dispatches -/

/-- Among some moves the subscription for a type failed. -/
def Refused (server : Server σ) (routing : String → Route)
    (receive : Octets → Work (Link σ) (Except MessagingError Unit)) (s : Service σ)
    (moves : List (Move σ)) (name : String) (e : BrokerError) : Prop :=
  ∃ earlier later, moves = earlier ++ .setUp :: later ∧
    ((Dispatch.subscribe server routing name).run
      (s.after server routing receive earlier).around).1 = .error e

/-- How far a dispatch over some names has come: a loop was started for each name that is set up; if
it has returned, either the next name could not be set up, or there is no such name and no loop
runs. -/
structure Orderly (failed : String → BrokerError → Prop) (names : List String) (s : Service σ) :
    Prop where
  names_eq : names = s.queues ++ s.pending
  returned : ∀ r, s.result = some r →
    (∃ name later e, s.pending = name :: later ∧ failed name e ∧ r = .error (.ofBroker e)) ∨
    (s.pending = [] ∧ ∀ w ∈ s.workers, w.isRunning = false)

theorem orderly_start (failed : String → BrokerError → Prop) (registry : Registry)
    (around : Surroundings (Link σ)) : Orderly failed registry.names (start registry around) :=
  ⟨rfl, nofun⟩

namespace Orderly

variable {failed : String → BrokerError → Prop} {names : List String}

theorem setUp (h : Orderly failed names s)
    (fails : ∀ name e, ((Dispatch.subscribe server routing name).run s.around).1 = .error e →
      failed name e) :
    Orderly failed names (s.setUp server routing receive) := by
  cases waits : s.result with
  | some r =>
    rw [setUp_returned (Option.isSome_of_eq_some waits)]
    exact h
  | none =>
    cases still : s.pending with
    | nil =>
      rw [setUp_complete still]
      exact h
    | cons name pending =>
      cases ran : (Dispatch.subscribe server routing name).run s.around with
      | mk answer around =>
        cases answer with
        | ok subscription =>
          obtain ⟨w, started, next⟩ := setUp_ok receive still waits ran
          rw [next]
          refine ⟨?_, fun r done => ?_⟩
          · have named : subscription.queue.name = name := by
              rw [Dispatch.subscribe_queue ran, RetryPolicy.name_queue]
            rw [h.names_eq, still, ← named]
            unfold queues
            rw [List.map_append, List.map_singleton, started, List.append_assoc,
              List.singleton_append]
          · cases waits.symm.trans done
        | error e =>
          have failure := fails name e (congrArg Prod.fst ran)
          rw [setUp_error still waits ran]
          refine ⟨h.names_eq, fun r done => .inl ⟨name, pending, e, still, failure, ?_⟩⟩
          exact (Option.some.inj done).symm

theorem advance (h : Orderly failed names s) (k : Nat) (step : Worker.Step) :
    Orderly failed names (s.advance k step) := by
  have pending : (s.advance k step).pending = s.pending := by
    unfold Service.advance
    split <;> rfl
  have result : (s.advance k step).result = s.result := by
    unfold Service.advance
    split <;> rfl
  refine ⟨?_, fun r done => ?_⟩
  · rw [queues_advance, pending]
    exact h.names_eq
  · rw [result] at done
    rcases h.returned r done with ⟨name, later, e, still, failed⟩ | ⟨complete, stopped⟩
    · exact .inl ⟨name, later, e, pending.trans still, failed⟩
    · rw [advance_stopped stopped]
      exact .inr ⟨complete, stopped⟩

theorem join (h : Orderly failed names s) : Orderly failed names s.join := by
  unfold Service.join
  split
  · next complete =>
    refine ⟨h.names_eq, fun r done => .inr ⟨complete, fun w mem => ?_⟩⟩
    cases waits : s.result with
    | some r =>
      rcases h.returned r waits with ⟨name, later, e, still, _⟩ | ⟨_, stopped⟩
      · cases complete.symm.trans still
      · exact stopped w mem
    | none =>
      have ended := Dispatch.join_result (d := s.dispatch) waits (Option.isSome_of_eq_some done)
      exact decide_eq_false (ended w.loop (List.mem_map_of_mem mem))
  · exact h

/-- The loops are started in the order of the names. -/
theorem name_at (h : Orderly failed names s) {k : Nat} {w : Worker σ}
    (here : s.workers[k]? = some w) : names[k]? = some w.loop.subscription.queue.name := by
  have listed : s.queues[k]? = some w.loop.subscription.queue.name := by
    unfold queues
    rw [List.getElem?_map, here]
    rfl
  rw [h.names_eq, List.getElem?_append_left (List.getElem?_eq_some_iff.1 listed).1]
  exact listed

/-- Whatever happens, a dispatch stays orderly. -/
theorem after (h : Orderly failed names s) (moves : List (Move σ))
    (fails : ∀ name e, Refused server routing receive s moves name e → failed name e) :
    Orderly failed names (s.after server routing receive moves) := by
  induction moves generalizing s with
  | nil => exact h
  | cons m moves ih =>
    have next : Orderly failed names (s.act server routing receive m) := by
      cases m with
      | setUp => exact h.setUp fun name e refused => fails name e ⟨[], moves, rfl, refused⟩
      | loop k step => exact h.advance k step
      | join => exact h.join
      | cancel => exact ⟨h.names_eq, h.returned⟩
      | elsewhere change => exact ⟨h.names_eq, h.returned⟩
    refine ih next fun name e ⟨earlier, later, split, refused⟩ => ?_
    exact fails name e ⟨m :: earlier, later, congrArg (m :: ·) split, refused⟩

end Orderly

/-- A dispatch has returned after it set up every queue, and none of its loops runs. -/
structure Over (s : Service σ) : Prop where
  complete : s.pending = []
  returned : s.result.isSome
  stopped : ∀ w ∈ s.workers, w.isRunning = false

namespace Over

/-- Once a dispatch is over, nothing changes but its surroundings. -/
theorem act (server : Server σ) (routing : String → Route)
    (receive : Octets → Work (Link σ) (Except MessagingError Unit)) (h : Over s) (m : Move σ) :
    ∃ around, s.act server routing receive m = { s with around } := by
  cases m with
  | setUp => exact ⟨s.around, setUp_complete h.complete⟩
  | loop k step => exact ⟨s.around, advance_stopped h.stopped k step⟩
  | join =>
    refine ⟨s.around, ?_⟩
    change s.join = s
    unfold join
    split
    · rw [Dispatch.join_returned (d := s.dispatch) h.returned]
      rfl
    · rfl
  | cancel => exact ⟨_, rfl⟩
  | elsewhere change => exact ⟨_, rfl⟩

theorem after (h : Over s) (moves : List (Move σ)) :
    ∃ around, s.after server routing receive moves = { s with around } := by
  induction moves generalizing s with
  | nil => exact ⟨s.around, rfl⟩
  | cons m moves ih =>
    obtain ⟨around, next⟩ := h.act server routing receive m
    obtain ⟨around', last⟩ := ih ⟨h.complete, h.returned, h.stopped⟩ (s := { s with around })
    refine ⟨around', ?_⟩
    change Service.after server routing receive moves (s.act server routing receive m) = _
    rw [next, last]

end Over

/-! ## Loops that go on -/

section Loops

variable {k : Nat} {w : Worker σ}

theorem after_append (moves more : List (Move σ)) :
    s.after server routing receive (moves ++ more) =
      (s.after server routing receive moves).after server routing receive more :=
  List.foldl_append

/-- A loop that runs and waits takes the delivery that comes, whether the dispatch has returned or
not, and does what its consumer does. -/
theorem outlived (here : s.workers[k]? = some w) (running : w.isRunning)
    (waits : w.stage = .waiting) (live : s.around.cancelled = false) (d : Delivery) :
    let outcome := ((w.consumer.attend d).run s.around).1
    s.after server routing receive
        [.loop k (.encounter (.delivery d)), .loop k .handle, .loop k .settle] =
      { s with
        around := ((w.consumer.take d).run s.around).2
        deeds := s.deeds ++ [(k, .took d), (k, .handled d outcome), (k, .settled d outcome)] } := by
  let taken : Worker σ := { w with stage := .taken d }
  have took := advance_eq here (Worker.encounter_live running waits live (.delivery d))
  have handled := advance_eq (getElem?_put here taken [.took d] s.around)
    (Worker.step_handle (w := taken) running rfl s.around)
  have processed : (w.consumer.take d).run s.around =
      (w.consumer.conclude d ((w.consumer.attend d).run s.around).1).run
        ((w.consumer.attend d).run s.around).2 := rfl
  rw [processed]
  generalize (w.consumer.attend d).run s.around = ran at handled
  let done : Worker σ := { w with stage := .handled d ran.1 }
  rw [put_put] at handled
  have settled := advance_eq (getElem?_put here done [.took d, .handled d ran.1] ran.2)
    (Worker.step_settle (w := done) running rfl ran.2)
  have back : { w with stage := .waiting } = w := by rw [← waits]
  rw [put_put, back, put_self here] at settled
  change ((s.advance k _).advance k _).advance k _ = _
  rw [took, handled]
  exact settled

/-- A loop that has stopped leaves everything as it is. -/
theorem after_of_not_running (here : s.workers[k]? = some w) (stopped : w.isRunning = false)
    (steps : List Worker.Step) : s.after server routing receive (steps.map (.loop k)) = s := by
  induction steps with
  | nil => rfl
  | cons step steps ih =>
    have same (w' : Worker σ) (here' : s.workers[k]? = some w') : w'.isRunning = false := by
      rwa [← Option.some.inj (here.symm.trans here')]
    have still : s.advance k step = s := advance_of_not_running same step
    change Service.after server routing receive _ (s.advance k step) = s
    rw [still]
    exact ih

/-- A loop that nothing comes in between does what its consumer's run does. -/
theorem loop_alone (here : s.workers[k]? = some w) (running : w.isRunning)
    (waits : w.stage = .waiting) (happenings : List Happening) :
    let ran := (w.consumer.run happenings).run s.around
    let steps : List Worker.Step := happenings.flatMap Happening.steps ++ [.notice]
    let t := s.after server routing receive (steps.map (.loop k))
    t.around = ran.2 ∧ t.workers = s.workers.set k (w.ended ran.1) := by
  dsimp only
  -- Each of them is one move, or three for a delivery, and leaves the loop waiting or stopped.
  induction happenings generalizing s with
  | nil =>
    have met : s.after server routing receive [.loop k .notice] = _ :=
      advance_eq here (Worker.step_notice running waits s.around)
    rw [List.flatMap_nil, List.nil_append, List.map_singleton, met, Consumer.run_nil]
    exact ⟨rfl, rfl⟩
  | cons happening happenings ih =>
    rw [List.flatMap_cons, List.append_assoc, List.map_append, after_append]
    cases fired : s.around.cancelled with
    | true =>
      obtain ⟨more, split⟩ := happening.steps_eq_cons
      have next := advance_eq here (Worker.encounter_fired running waits fired happening)
      have here' := getElem?_put here (w.setState (.stopped .cancelled)) [] s.around
      have met : s.after server routing receive (happening.steps.map (.loop k)) =
          s.put k (w.setState (.stopped .cancelled)) [] s.around := by
        rw [split, List.map_cons]
        change Service.after server routing receive _ (s.advance k (.encounter happening)) = _
        rw [next, after_of_not_running here' rfl]
      rw [met, after_of_not_running here' rfl, Consumer.run_fired _ fired]
      exact ⟨rfl, rfl⟩
    | false =>
      have next := advance_eq here (Worker.encounter_live running waits fired happening)
      rw [Consumer.run_live _ fired]
      cases happening with
      | delivery d =>
        have met : s.after server routing receive
            ((Happening.delivery d).steps.map (.loop k)) = _ :=
          outlived here running waits fired d
        rw [met]
        exact ih here
      | streamError reason =>
        have met : s.after server routing receive
            ((Happening.streamError reason).steps.map (.loop k)) = _ :=
          next.trans (put_self here _ _)
        rw [met]
        exact ih here
      | streamEnd =>
        have met : s.after server routing receive (Happening.streamEnd.steps.map (.loop k)) = _ :=
          next
        rw [met, after_of_not_running (getElem?_put here _ _ _) rfl]
        exact ⟨rfl, rfl⟩
      | cancellation =>
        have met : s.after server routing receive
            (Happening.cancellation.steps.map (.loop k)) = _ :=
          next.trans (put_self here _ _)
        rw [met]
        exact ih here

end Loops

/-! ## Setting up -/

theorem after_setUp_returned (returned : s.result.isSome) (n : Nat) :
    s.after server routing receive (List.replicate n .setUp) = s := by
  induction n with
  | zero => rfl
  | succ n ih =>
    rw [List.replicate_succ]
    change Service.after server routing receive _ (s.setUp server routing receive) = s
    rw [setUp_returned returned, ih]

theorem setUp_alone (waits : s.result = none) :
    let t := s.after server routing receive (List.replicate s.pending.length .setUp)
    (Dispatch.subscribeAll server routing s.dispatch.loops s.pending).run s.around
      = (t.dispatch, t.around) := by
  dsimp only
  induction still : s.pending generalizing s with
  | nil =>
    have unfinished : s.dispatch = ⟨s.dispatch.loops, none⟩ :=
      congrArg (Dispatch.mk s.dispatch.loops) waits
    change (_, s.around) = (s.dispatch, s.around)
    rw [unfinished]
  | cons name pending ih =>
    have first : s.after server routing receive (List.replicate (name :: pending).length .setUp) =
        (s.setUp server routing receive).after server routing receive
          (List.replicate pending.length .setUp) := rfl
    rw [first]
    cases ran : (Dispatch.subscribe server routing name).run s.around with
    | mk answer around =>
      cases answer with
      | ok subscription =>
        obtain ⟨worker, started, next⟩ := setUp_ok receive still waits ran
        rw [next, Dispatch.subscribeAll_ok ran]
        have rest :=
          ih (s := { s with around, pending, workers := s.workers ++ [worker] }) waits rfl
        rw [← rest]
        change _ = (Dispatch.subscribeAll server routing ((s.workers ++ [worker]).map (·.loop))
          pending).run around
        rw [List.map_append, List.map_singleton, started]
        rfl
      | error e =>
        rw [setUp_error still waits ran, after_setUp_returned rfl, Dispatch.subscribeAll_error ran]
        rfl

/-- Setting up the queues with nothing in between is what starting a dispatch does. -/
theorem start_alone (registry : Registry) (around : Surroundings (Link σ)) :
    let s := (start registry around).after server routing receive
      (List.replicate registry.names.length .setUp)
    (Dispatch.start server routing registry).run around = (s.dispatch, s.around) :=
  setUp_alone (s := start registry around) rfl

/-! ## The result -/

/-- How a dispatch that has returned stands, whatever happened before. Either the subscription for a
type failed: then its error is the result, and loops were started for the types before it. Or there
is a loop for every type: then none of them runs, and whatever happens, nothing changes but the
surroundings. -/
theorem result_cases (server : Server σ) (routing : String → Route)
    (receive : Octets → Work (Link σ) (Except MessagingError Unit)) (registry : Registry)
    (around : Surroundings (Link σ)) (moves : List (Move σ)) (r : Except MessagingError Unit)
    (done : ((start registry around).after server routing receive moves).result = some r) :
    let s := (start registry around).after server routing receive moves
    (∃ name later e, registry.names = s.queues ++ name :: later ∧
      Refused server routing receive (start registry around) moves name e ∧
      r = .error (.ofBroker e)) ∨
    (registry.names = s.queues ∧ (∀ w ∈ s.workers, w.isRunning = false) ∧
      ∀ more, ∃ around, s.after server routing receive more = { s with around }) := by
  intro s
  have orderly : Orderly (Refused server routing receive (start registry around) moves)
      registry.names s :=
    (orderly_start _ registry around).after moves fun _ _ refused => refused
  rcases orderly.returned r done with ⟨name, later, e, still, failed⟩ | ⟨complete, stopped⟩
  · left
    refine ⟨name, later, e, ?_, failed⟩
    rw [orderly.names_eq, still]
  · right
    have finished : Over s := ⟨complete, Option.isSome_of_eq_some done, stopped⟩
    refine ⟨?_, stopped, finished.after⟩
    rw [orderly.names_eq, complete, List.append_nil]

section Runs

/-- A server that does not let a queue be consumed, and grants whatever else it is asked for. -/
def withholding (queue : String) : Server Unit :=
  { Server.granting with
    request := fun
      | .subscribe _ name _ => return if name = queue then .error "refused" else .ok ()
      | _ => return .ok () }

/-- A registry of two types. -/
def twoTypes : Registry := ⟨[.of .clientCreated, .of .createClient]⟩

theorem names_twoTypes : twoTypes.names = ["ClientCreated", "CreateClient"] :=
  Registry.names_of_pairwise (by decide)

/-- A dispatch that begins to consume two types, where requests are recorded. -/
def ofTwoTypes : Service (Unit × List Request) :=
  start twoTypes (Link.fresh Settings.default .requeue ((), []))

/-- A service after some moves, whose handlers have nothing to do. -/
def served (server : Server Unit) (moves : List (Move (Unit × List Request)))
    (s : Service (Unit × List Request)) : Service (Unit × List Request) :=
  s.after server.recorded (Route.of defaultExchange) (fun _ => return .ok ()) moves

/-- Both queues are set up, the token fires and both loops see it; then the dispatch returns, and a
delivery that comes is not taken. -/
theorem result_cases_cancelled :
    let s := ofTwoTypes |> served .granting
      [.setUp, .setUp, .cancel, .loop 0 .notice, .loop 1 .notice, .join]
    let t := s |> served .granting [.loop 0 (.encounter (.delivery ⟨1, [], {}⟩))]
    s.result = some (.ok ()) ∧ s.queues = twoTypes.names ∧
      (∀ w ∈ s.workers, w.isRunning = false) ∧ t.deeds = s.deeds := by
  intro s t
  have done : s.result = some (.ok ()) := by
    unfold s ofTwoTypes start
    rw [names_twoTypes]
    rfl
  have stands := result_cases Server.granting.recorded (Route.of defaultExchange)
    (fun _ => return .ok ()) twoTypes (Link.fresh Settings.default .requeue ((), [])) _ _ done
  rcases stands with ⟨_, _, _, _, _, failed⟩ | ⟨all, stopped, finished⟩
  · cases failed
  · obtain ⟨around, same⟩ := finished [.loop 0 (.encounter (.delivery ⟨1, [], {}⟩))]
    have still : t = { s with around } := same
    rw [still]
    exact ⟨done, all.symm, stopped, rfl⟩

/-- The second queue cannot be consumed, so the dispatch returns; the loop of the first one runs,
and takes, handles and settles a delivery after that, which the server is asked to take as done. -/
theorem loop_outlives :
    let d : Delivery := ⟨1, [], {}⟩
    let s := ofTwoTypes |> served (withholding "CreateClient") [.setUp, .setUp]
    let t := s |> served (withholding "CreateClient")
      [.loop 0 (.encounter (.delivery d)), .loop 0 .handle, .loop 0 .settle]
    s.result = some (.error (.ofBroker (.consume "CreateClient"))) ∧
      (∃ w ∈ s.workers, w.isRunning) ∧
      s.deeds = [] ∧
      t.deeds = [(0, .took d), (0, .handled d (.ok ())), (0, .settled d (.ok ()))] ∧
      t.around.world.server.2 = s.around.world.server.2 ++ [.ack 0 1] := by
  unfold ofTwoTypes start
  rw [names_twoTypes]
  exact ⟨rfl, ⟨_, List.mem_singleton_self _, rfl⟩, rfl, rfl, rfl⟩

end Runs

end Service

end Courier
