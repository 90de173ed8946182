import Courier.Proofs.Dispatch.Deeds

/-!
# What a dispatch consumes

The loops of a dispatch lose nothing that their streams bring, repeat nothing and keep its order:
each delivery is handled by one run of the handler and settled by the requests of its settlement.
The dispatch that waits for its loops returns with what the first of them was lost by
(`Intake.consumed_in_order`).
-/

namespace Courier
set_option autoImplicit false

variable {σ : Type}

/-- Among loops that have stopped, either all were cancelled, or there is a first one that was lost,
and it is told of. -/
theorem Dispatch.firstLost_cases {loops : List ConsumerLoop}
    (stopped : ∀ l ∈ loops, ∃ exit, l.state = .stopped exit) :
    (firstLost loops = .ok () ∧ ∀ l ∈ loops, l.state = .stopped .cancelled) ∨
    ∃ before lost later, loops = before ++ lost :: later ∧
      (∀ l ∈ before, l.state = .stopped .cancelled) ∧ lost.state = .stopped .streamEnded ∧
      firstLost loops = .error (.consumerLost lost.subscription.queue.name) := by
  induction loops with
  | nil => exact .inl ⟨rfl, List.forall_mem_nil _⟩
  | cons l loops ih =>
    obtain ⟨subscription, state⟩ := l
    obtain ⟨exit, at_exit⟩ := stopped _ List.mem_cons_self
    cases at_exit
    cases exit with
    | streamEnded => exact .inr ⟨[], _, loops, rfl, List.forall_mem_nil _, rfl, rfl⟩
    | cancelled =>
      have same : firstLost (⟨subscription, .stopped .cancelled⟩ :: loops) = firstLost loops := rfl
      rw [same]
      rcases ih fun l mem => stopped l (List.mem_cons_of_mem _ mem) with
        ⟨all, cancelled⟩ | ⟨before, lost, later, rfl, cancelled, ended, told⟩
      · exact .inl ⟨all, List.forall_mem_cons.2 ⟨rfl, cancelled⟩⟩
      · exact .inr ⟨_ :: before, lost, later, rfl, List.forall_mem_cons.2 ⟨rfl, cancelled⟩, ended,
          told⟩

namespace Service

/-- The loop of a queue has stopped for the end of its stream. -/
def Lost (s : Service σ) (queue : String) : Prop :=
  ∃ w ∈ s.workers, w.loop.subscription.queue.name = queue ∧ w.loop.state = .stopped .streamEnded

/-- A dispatch that brings no loop down: if it has returned, then after all of its loops, with what
the first of them was lost by. -/
structure Patient (s : Service σ) : Prop where
  unaborted : ∀ w ∈ s.workers, w.loop.state ≠ .aborted
  returned : ∀ r, s.result = some r → s.pending = [] ∧ (∀ w ∈ s.workers, w.isRunning = false) ∧
    r = (Dispatch.firstLost s.dispatch.loops).mapError .ofBroker

theorem patient_start (registry : Registry) (around : Surroundings (Link σ)) :
    (start registry around).Patient :=
  ⟨List.forall_mem_nil _, nofun⟩

theorem stopped_of_not_running {w : Worker σ} (halted : w.isRunning = false)
    (unaborted : w.loop.state ≠ .aborted) : ∃ exit, w.loop.state = .stopped exit := by
  cases state : w.loop.state with
  | running =>
    rw [Worker.isRunning_iff.2 state] at halted
    cases halted
  | stopped exit => exact ⟨exit, rfl⟩
  | aborted => exact absurd state unaborted

/-- The result of a patient dispatch over names in ascending order. -/
theorem Patient.result {s : Service σ} {names : List String} {r : Except MessagingError Unit}
    (h : s.Patient) (names_eq : names = s.queues ++ s.pending) (ascending : names.Pairwise (· ≤ ·))
    (done : s.result = some r) :
    s.queues = names ∧ (∀ w ∈ s.workers, ∃ exit, w.loop.state = .stopped exit) ∧
      (r = .ok () ↔ ∀ w ∈ s.workers, w.loop.state = .stopped .cancelled) ∧
      (r ≠ .ok () → ∃ queue, r = .error (.ofBroker (.consumerLost queue)) ∧ s.Lost queue ∧
        ∀ other, s.Lost other → queue ≤ other) := by
  obtain ⟨complete, halted, told⟩ := h.returned r done
  have all : s.queues = names := by rw [names_eq, complete, List.append_nil]
  have stopped (w : Worker σ) (mem : w ∈ s.workers) : ∃ exit, w.loop.state = .stopped exit :=
    stopped_of_not_running (halted w mem) (h.unaborted w mem)
  have loops : ∀ l ∈ s.dispatch.loops, ∃ exit, l.state = .stopped exit :=
    List.forall_mem_map.2 stopped
  refine ⟨all, stopped, ?_⟩
  rcases Dispatch.firstLost_cases loops with
    ⟨none, cancelled⟩ | ⟨before, lost, later, split, cancelled, ended, first⟩
  · rw [none] at told
    exact ⟨iff_of_true told (List.forall_mem_map.1 cancelled), fun failed => absurd told failed⟩
  · rw [first] at told
    obtain ⟨w, mem, rfl⟩ := List.mem_map.1 (split ▸ List.mem_append_right before List.mem_cons_self)
    have failed : r ≠ .ok () := by
      rw [told]
      nofun
    refine ⟨iff_of_false failed fun all => ?_, fun _ => ⟨_, told, ⟨w, mem, rfl, ended⟩, ?_⟩⟩
    · cases ended.symm.trans (all w mem)
    · rintro other ⟨v, mem', rfl, ended'⟩
      -- The loop that was lost is the first one or behind it, and so is its queue.
      have behind : v.loop ∈ w.loop :: later := by
        have listed := List.mem_map_of_mem (f := fun w : Worker σ => w.loop) mem'
        rw [show s.workers.map (·.loop) = before ++ w.loop :: later from split] at listed
        refine (List.mem_append.1 listed).resolve_left fun early => ?_
        cases ended'.symm.trans (cancelled _ early)
      have queues : s.queues =
          (before ++ w.loop :: later).map fun l : ConsumerLoop => l.subscription.queue.name := by
        rw [← split]
        unfold dispatch Service.queues
        rw [List.map_map]
        rfl
      rw [← all, queues, List.map_append, List.map_cons] at ascending
      have first := (List.pairwise_cons.1 (List.pairwise_append.1 ascending).2.1).1
      rcases List.mem_cons.1 behind with same | later
      · exact same ▸ String.le_refl _
      · exact first _ (List.mem_map_of_mem later)

end Service

namespace Intake

variable {server : Server σ} {routing : String → Route}
  {receive : Octets → Work (Link σ) (Except MessagingError Unit)} {feeds : Nat → Feed}
  {s : Intake σ}

/-- Among some moves, whenever a queue was to be set up it could be. -/
def Subscribed (server : Server σ) (routing : String → Route)
    (receive : Octets → Work (Link σ) (Except MessagingError Unit)) (feeds : Nat → Feed)
    (s : Intake σ) (moves : List (Move σ)) : Prop :=
  ∀ earlier later name pending, moves = earlier ++ .setUp :: later →
    let t := (s.after server routing receive feeds earlier).service
    t.result = none → t.pending = name :: pending →
      ∃ subscription, ((Dispatch.subscribe server routing name).run t.around).1 = .ok subscription

theorem Subscribed.tail {m : Move σ} {moves : List (Move σ)}
    (h : Subscribed server routing receive feeds s (m :: moves)) :
    Subscribed server routing receive feeds (s.act server routing receive feeds m) moves :=
  fun earlier later name pending split =>
    h (m :: earlier) later name pending (congrArg (m :: ·) split)

theorem result_poll (feeds : Nat → Feed) (s : Intake σ) (k : Nat) (fires : Bool) :
    (s.poll feeds k fires).service.result = s.service.result := by
  rcases s.poll_cases feeds k fires with same | ⟨w, here, idle⟩
  · rw [same]
  · rw [poll_idle here idle]
    rfl

theorem unaborted_act (unaborted : ∀ w ∈ s.service.workers, w.loop.state ≠ .aborted) (m : Move σ)
    (calm : ∀ k, m ≠ .turn k .abort) :
    ∀ w ∈ (s.act server routing receive feeds m).service.workers, w.loop.state ≠ .aborted := by
  intro w' mem aborted
  obtain ⟨k, there⟩ := List.mem_iff_getElem?.1 mem
  cases change_act server routing receive feeds s m k with
  | still workers =>
    exact unaborted w' (List.mem_of_getElem? (workers.symm.trans there)) aborted
  | started _ there' running =>
    cases there.symm.trans there'
    rw [Worker.isRunning_iff, aborted] at running
    cases running
  | passed here there' _ passage =>
    cases there.symm.trans there'
    rcases passage.down_of_aborted aborted with before | brought
    · exact unaborted _ (List.mem_of_getElem? here) before
    · exact calm k brought

theorem patient_act (h : s.service.Patient) (m : Move σ) (calm : ∀ k, m ≠ .turn k .abort)
    (subscribed : Subscribed server routing receive feeds s [m]) :
    (s.act server routing receive feeds m).service.Patient := by
  refine ⟨unaborted_act h.unaborted m calm, ?_⟩
  intro r done
  cases before : s.service.result with
  | some r' =>
    obtain ⟨complete, halted, told⟩ := h.returned r' before
    have finished : s.service.Over := ⟨complete, Option.isSome_of_eq_some before, halted⟩
    obtain ⟨moves, acted⟩ := act_service server routing receive feeds s m
    obtain ⟨around, same⟩ : ∃ around,
        s.service.after server routing receive moves = { s.service with around } :=
      finished.after moves
    rw [acted, same] at done ⊢
    cases before.symm.trans done
    exact ⟨complete, halted, told⟩
  | none =>
    cases m with
    | poll k fires =>
      have unchanged := s.result_poll feeds k fires
      cases before.symm.trans (unchanged.symm.trans done)
    | turn k turn =>
      have unchanged : (s.service.advance k turn.step).result = s.service.result := by
        unfold Service.advance
        split <;> rfl
      cases before.symm.trans (unchanged.symm.trans done)
    | setUp =>
      change (s.service.setUp server routing receive).result = some r at done
      have came := s.service.setUp_cases server routing receive
      generalize s.service.setUp server routing receive = next at came done
      cases came with
      | nothing | started => cases before.symm.trans done
      | failed still waits ran =>
        obtain ⟨subscription, granted⟩ := subscribed [] [] _ _ rfl waits still
        change ((Dispatch.subscribe server routing _).run s.service.around).1 = _ at granted
        rw [ran] at granted
        cases granted
    | join =>
      change s.service.join.result = some r at done
      change s.service.join.pending = [] ∧ (∀ w ∈ s.service.join.workers, _) ∧
        r = (Dispatch.firstLost s.service.join.dispatch.loops).mapError .ofBroker
      have came := s.service.join_cases
      generalize s.service.join = next at came done ⊢
      cases came with
      | nothing => cases before.symm.trans done
      | returned complete waits halted told =>
        cases done
        exact ⟨complete, halted, told h.unaborted⟩
    | cancel | elsewhere change => cases before.symm.trans done

theorem patient_after (h : s.service.Patient) (moves : List (Move σ))
    (calm : ∀ k, .turn k .abort ∉ moves)
    (subscribed : Subscribed server routing receive feeds s moves) :
    (s.after server routing receive feeds moves).service.Patient := by
  induction moves generalizing s with
  | nil => exact h
  | cons m moves ih =>
    refine ih (patient_act h m ?_ ?_) (fun k mem => calm k (List.mem_cons_of_mem m mem))
      subscribed.tail
    · intro k same
      exact calm k (same ▸ List.mem_cons_self)
    · intro earlier later name pending split
      refine subscribed earlier (later ++ moves) name pending ?_
      rw [← List.cons_append, ← List.append_assoc, ← split]
      rfl

theorem orderly_after (registry : Registry) (around : Surroundings (Link σ))
    (moves : List (Move σ)) :
    Service.Orderly (fun _ _ => True) registry.names
      ((start registry around).after server routing receive feeds moves).service :=
  of_service (fun moves => (Service.orderly_start _ registry around).after moves
    fun _ _ _ => trivial) moves

theorem serving_after (registry : Registry) (around : Surroundings (Link σ))
    (moves : List (Move σ)) :
    ((start registry around).after server routing receive feeds moves).service.Serving server
      receive :=
  of_service (Service.serving_start server receive registry around).after moves

/-- The loops of a dispatch consume what their streams bring, in order, and the dispatch returns
with what came of them. For any feeds and handlers, any server, which records its requests, and any
moves:

* what a loop did are the whole courses of the deliveries among the items it has drawn, in order,
  but for one that is in hand. A loop that has stopped has none in hand; it was cancelled if the
  token had fired when it stopped, and otherwise it had found the end of its stream;
* the loop works for the name at its place in the registry, by a policy and on a channel. It does
  nothing in the moves that are not its own. In one that is, it takes a delivery, or does nothing,
  and leaves the link alone; or it runs the handler once on the body of a delivery, for the outcome
  that the delivery is settled by; or it puts to the server the requests of a delivery's settlement,
  and no others. As long as it runs there is a move for it to get on by;
* after the token has fired no loop takes anything;
* if every queue could be set up and no loop was brought down, a dispatch that has returned has a
  loop for every type and all have stopped. Its result is a success exactly if all were cancelled,
  and otherwise the loss of the least queue among those lost. It returns once its loops have
  stopped. -/
theorem consumed_in_order (server : Server σ) (routing : String → Route)
    (receive : Octets → Work (Link (σ × List Request)) (Except MessagingError Unit))
    (lasting : ∀ body, Work.Lasting (receive body)) (feeds : Nat → Feed) (registry : Registry)
    (around : Surroundings (Link (σ × List Request))) (moves : List (Move (σ × List Request))) :
    let after := fun moves =>
      (start registry around).after server.recorded routing receive feeds moves
    let s := after moves
    (∀ k (w : Worker (σ × List Request)), s.service.workers[k]? = some w →
      (∃ done : List (Delivery × Except MessagingError Unit),
        (feeds k).deliveries (s.drawn k) = done.map Prod.fst ++ w.stage.inHand ∧
        s.service.deedsOf k = done.flatMap Worker.course ++ w.stage.begun) ∧
      (∀ i < s.drawn k, (feeds k i).isSome) ∧
      (∀ exit, w.loop.state = .stopped exit →
        w.stage = .waiting ∧ (exit = .streamEnded → feeds k (s.drawn k) = none) ∧
        ∃ earlier m later, moves = earlier ++ m :: later ∧
          (after earlier).stateAt k = some .running ∧
          let t := after (earlier ++ [m])
          t.stateAt k = some (.stopped exit) ∧
            exit = if t.service.around.cancelled then .cancelled else .streamEnded) ∧
      (w.isRunning → s.GoesOn server.recorded routing receive feeds k w) ∧
      ∃ name policy channel, registry.names[k]? = some name ∧
        w.loop.subscription.queue = policy.queue name ∧
        ∀ earlier m later, moves = earlier ++ m :: later →
          let u := (after earlier).service
          let t := (after (earlier ++ [m])).service
          (m.isOf k = false → t.deedsOf k = u.deedsOf k) ∧
          (m.isOf k = true → ∃ deeds, t.deedsOf k = u.deedsOf k ++ deeds ∧
            Worker.Does server receive policy name channel u.around t.around deeds)) ∧
    (∀ earlier later, moves = earlier ++ later →
      (after earlier).service.around.cancelled = true →
      ∀ k, s.service.takenBy k = (after earlier).service.takenBy k) ∧
    (Subscribed server.recorded routing receive feeds (start registry around) moves →
      (∀ k, .turn k .abort ∉ moves) →
      (∀ r, s.service.result = some r →
        s.service.queues = registry.names ∧
        (∀ w ∈ s.service.workers, ∃ exit, w.loop.state = .stopped exit) ∧
        (r = .ok () ↔ ∀ w ∈ s.service.workers, w.loop.state = .stopped .cancelled) ∧
        (r ≠ .ok () → ∃ queue, r = .error (.ofBroker (.consumerLost queue)) ∧
          s.service.Lost queue ∧ ∀ other, s.service.Lost other → queue ≤ other)) ∧
      (s.service.result = none → s.service.pending = [] →
        (∀ w ∈ s.service.workers, w.isRunning = false) → s.service.join.result.isSome)) := by
  intro after s
  have sound : Sound feeds s := (sound_start feeds registry around).after moves
  have orderly : Service.Orderly (fun _ _ => True) registry.names s.service :=
    orderly_after registry around moves
  refine ⟨fun k w here => ?_, ?_, ?_⟩
  · have kept := sound.kept k w here
    refine ⟨kept.deeds, kept.present, fun exit stopped => ⟨kept.settled exit stopped, ?_, ?_⟩,
      fun running => goes_on here running _ _ _ _, ?_⟩
    · rintro rfl
      exact kept.ended stopped
    · refine stopped_at moves ?_ (stateAt_eq_some.2 ⟨w, here, stopped⟩)
      nofun
    · obtain ⟨name, policy, channel, serves⟩ :=
        serving_after registry around moves w (List.mem_of_getElem? here)
      have named := orderly.name_at here
      rw [serves.queue, policy.name_queue] at named
      refine ⟨name, policy, channel, named, serves.queue, ?_⟩
      rintro earlier m later split u t
      have next : after (earlier ++ [m]) =
          (after earlier).act server.recorded routing receive feeds m := after_append _ _
      have last : s = (after earlier).after server.recorded routing receive feeds (m :: later) := by
        unfold s
        rw [split]
        exact after_append _ _
      unfold u t
      rw [next]
      rw [last] at here
      exact ⟨fun other => deedsOf_act other _ _ _ _ _,
        does_act routing feeds fun v there => serves_of_after here serves there⟩
  · intro earlier later split fired k
    have rest : s = (after earlier).after server.recorded routing receive feeds later := by
      unfold s
      rw [split]
      exact after_append _ _
    rw [rest]
    exact taken_after_fired lasting (serving_after registry around earlier) fired later k
  · intro subscribed calm
    have patient : s.service.Patient :=
      patient_after (Service.patient_start registry around) moves calm subscribed
    constructor
    · intro r done
      exact patient.result orderly.names_eq registry.pairwise_names done
    · intro waits complete halted
      obtain ⟨log, r, _, returned⟩ := Service.join_stopped complete waits halted
      rw [returned]
      rfl

section Runs

/-- A dispatch that begins to consume two types. -/
def ofTwoTypes : Intake (Unit × List Request) :=
  start Service.twoTypes (Link.fresh Settings.default .requeue ((), []))

theorem ofTwoTypes_eq :
    ofTwoTypes = ⟨⟨Link.fresh Settings.default .requeue ((), []), ["ClientCreated", "CreateClient"],
      [], [], none⟩, fun _ => 0⟩ := by
  unfold ofTwoTypes start Service.start
  rw [Service.names_twoTypes]

/-- The first feed brings a delivery and then failures, the others have ended. -/
def oneBusy (k : Nat) : Feed := fun n =>
  if k = 0 then if n = 0 then some (.delivery ⟨1, [], {}⟩) else some (.failure "interrupted")
  else none

/-- Two loops are started. The first one takes a delivery, the second one finds its feed at its end;
the first one settles its delivery, meets a failure while the token fires, and stops. -/
def firstBusy : List (Move (Unit × List Request)) :=
  [.setUp, .setUp, .poll 0 false, .poll 1 false, .turn 0 .handle, .turn 0 .settle, .poll 0 true,
    .poll 0 false, .join]

/-- A handler that fails. -/
def fails : Octets → Work (Link (Unit × List Request)) (Except MessagingError Unit) :=
  fun _ => return .error .missingContext

theorem subscribed_firstBusy :
    Subscribed Server.granting.recorded (Route.of "bus") fails oneBusy ofTwoTypes firstBusy := by
  intro earlier later name pending split t waits still
  unfold t at still ⊢
  rw [ofTwoTypes_eq] at still ⊢
  unfold firstBusy at split
  match earlier with
  | [] =>
    cases still
    exact ⟨_, rfl⟩
  | [m] =>
    cases split
    cases still
    exact ⟨_, rfl⟩
  | m :: m' :: earlier =>
    have mem : Move.setUp ∈ earlier.append (Move.setUp :: later) :=
      List.mem_append_right earlier List.mem_cons_self
    rw [← (List.cons.inj (List.cons.inj split).2).2] at mem
    simp at mem

/-- The delivery was taken, handled and settled though its handler failed, by one request to bring
it again, and the dispatch returns with the loss of the second queue. -/
theorem consumed_in_order_firstBusy :
    let s := ofTwoTypes.after Server.granting.recorded (Route.of "bus") fails oneBusy firstBusy
    s.service.deedsOf 0 = Worker.course (⟨1, [], {}⟩, .error .missingContext) ∧
      s.service.around.world.server.2.getLast? = some (.nack 0 1 true) ∧
      s.stateAt 0 = some (.stopped .cancelled) ∧
      s.service.result = some (.error (.ofBroker (.consumerLost "CreateClient"))) ∧
      s.service.Lost "CreateClient" := by
  intro s
  obtain ⟨loops, _, results⟩ := consumed_in_order Server.granting (Route.of "bus") fails
    (fun _ _ fired => fired) oneBusy Service.twoTypes
    (Link.fresh Settings.default .requeue ((), [])) firstBusy
  have ran : s = after Server.granting.recorded (Route.of "bus") fails oneBusy firstBusy
      ⟨⟨Link.fresh Settings.default .requeue ((), []), ["ClientCreated", "CreateClient"], [], [],
        none⟩, fun _ => 0⟩ := by
    rw [← ofTwoTypes_eq]
  have record : s.service.around.world.server.2.getLast? = some (.nack 0 1 true) := by
    rw [ran]
    rfl
  have done : s.service.result = some (.error (.ofBroker (.consumerLost "CreateClient"))) := by
    rw [ran]
    rfl
  have cancelled : s.stateAt 0 = some (.stopped .cancelled) := by
    rw [ran]
    rfl
  have drawn : s.drawn 0 = 2 := by
    rw [ran]
    rfl
  have handled : .handled ⟨1, [], {}⟩ (.error .missingContext) ∈ s.service.deedsOf 0 := by
    rw [ran]
    exact List.mem_cons_of_mem _ List.mem_cons_self
  refine ⟨?_, record, cancelled, done, ?_⟩
  · obtain ⟨w, here, stopped⟩ := stateAt_eq_some.1 cancelled
    obtain ⟨⟨courses, all, deeds⟩, _, exits, _⟩ := loops 0 w here
    have waits := (exits _ stopped).1
    change s.service.deedsOf 0 = _ at deeds
    change (oneBusy 0).deliveries (s.drawn 0) = _ at all
    rw [waits, drawn] at all
    rw [waits] at deeds
    have one : courses.map Prod.fst = [⟨1, [], {}⟩] := (List.append_nil _).symm.trans all.symm
    obtain ⟨⟨d, outcome⟩, rfl, same⟩ := List.map_eq_singleton_iff.1 one
    cases same
    rw [deeds] at handled ⊢
    have known : outcome = .error .missingContext := by
      simpa [Worker.course, Worker.Stage.begun, eq_comm] using handled
    rw [known]
    rfl
  · have calm (k : Nat) : Move.turn k .abort ∉ firstBusy := by
      unfold firstBusy
      simp
    obtain ⟨_, _, _, failed⟩ := (results subscribed_firstBusy calm).1 _ done
    have lossy : Except.error (.ofBroker (.consumerLost "CreateClient")) ≠
        (.ok () : Except MessagingError Unit) := by
      rintro ⟨⟩
    obtain ⟨queue, same, lost, _⟩ := failed lossy
    cases same
    exact lost

end Runs

end Intake

end Courier
