import Courier.Dispatch.Intake
import Courier.Proofs.Dispatch.Token

/-!
# What a loop does with its feed

A loop goes through its feed item by item (`Worker.Passage`). What it did are the whole courses of
the deliveries it has drawn, one after the other, and of the last one as much as its stage tells
(`Worker.Kept`); it stops only between two of them. Once the token has fired no loop takes any more
(`Intake.taken_after_fired`), and the token also decides what a loop stops with
(`Intake.stopped_at`).

To its service, all this is one run among others (`Intake.after_service`).
-/

namespace Courier
set_option autoImplicit false

variable {σ : Type}

/-- The delivery that an item is. -/
def Item.delivery? : Item → Option Delivery
  | delivery d => some d
  | failure _ => none

/-- The deliveries among the items before a position. -/
def Feed.deliveries (feed : Feed) (n : Nat) : List Delivery :=
  (List.range n).filterMap fun i => (feed i).bind Item.delivery?

theorem Feed.deliveries_succ (feed : Feed) (n : Nat) :
    feed.deliveries (n + 1) =
      feed.deliveries n ++ ((feed n).bind Item.delivery?).toList := by
  unfold deliveries
  rw [List.range_succ, List.filterMap_append]
  cases item : (feed n).bind Item.delivery? <;> simp [item]

namespace Worker

/-- What is done with a delivery in all, given what came of it. -/
def course (done : Delivery × Except MessagingError Unit) : List Deed :=
  [.took done.1, .handled done.1 done.2, .settled done.1 done.2]

/-- The delivery that a loop is at, if any. -/
def Stage.inHand : Stage → List Delivery
  | waiting => []
  | taken d => [d]
  | handled d _ => [d]

/-- What was done so far with the delivery that a loop is at. -/
def Stage.begun : Stage → List Deed
  | waiting => []
  | taken d => [.took d]
  | handled d outcome => [.took d, .handled d outcome]

/-- The delivery that was taken by a deed. -/
def Deed.taken? : Deed → Option Delivery
  | took d => some d
  | _ => none

/-! ## One move of one loop -/

section Passages

variable (feed : Feed) (fired fired' : Bool) (down : Prop) (w : Worker σ) (n : Nat)

/-- What a move can make of a loop at a position of its feed, and what the loop does, given whether
the token has fired before the move and after it, and whether the move brings the loop down. -/
inductive Passage : Worker σ → List Deed → Nat → Prop where
  | still : Passage w [] n
  | took (running : w.isRunning) (waits : w.stage = .waiting) (live : fired = false) {d : Delivery}
      (item : feed n = some (.delivery d)) : Passage { w with stage := .taken d } [.took d] (n + 1)
  | skipped (running : w.isRunning) (live : fired = false) {reason : String}
      (item : feed n = some (.failure reason)) : Passage w [] (n + 1)
  | handled (running : w.isRunning) {d : Delivery} (taken : w.stage = .taken d)
      (outcome : Except MessagingError Unit) :
    Passage { w with stage := .handled d outcome } [.handled d outcome] n
  | settled (running : w.isRunning) {d : Delivery} {outcome : Except MessagingError Unit}
      (handled : w.stage = .handled d outcome) :
    Passage { w with stage := .waiting } [.settled d outcome] n
  | cancelled (running : w.isRunning) (waits : w.stage = .waiting) (seen : fired' = true) :
    Passage (w.setState (.stopped .cancelled)) [] n
  | ended (running : w.isRunning) (waits : w.stage = .waiting) (live : fired' = false)
      (atEnd : feed n = none) : Passage (w.setState (.stopped .streamEnded)) [] n
  | aborted (running : w.isRunning) (brought : down) : Passage (w.setState .aborted) [] n

end Passages

section Moves

variable {w : Worker σ} {feed : Feed} {n : Nat} {s : Surroundings (Link σ)} {down : Prop}

theorem isRunning_iff : w.isRunning = true ↔ w.loop.state = .running := by
  unfold isRunning
  exact decide_eq_true_iff

theorem isIdle_iff : w.isIdle = true ↔ w.isRunning = true ∧ w.stage = .waiting := by
  unfold isIdle
  cases w.stage <;> simp

/-- A token that has fired comes before the feed. -/
theorem poll_fired (fired : s.cancelled = true) (fires : Bool) :
    (w.poll feed n fires).run s = ((w.setState (.stopped .cancelled), [], n), s) := by
  unfold poll
  rw [Work.isCancelled_bind, fired]
  rfl

theorem poll_live (live : s.cancelled = false) (fires : Bool) :
    (w.poll feed n fires).run s =
      match feed n, fires with
      | some (.delivery d), fires =>
        (({ w with stage := .taken d }, [.took d], n + 1),
          { s with cancelled := fires || s.cancelled })
      | some (.failure reason), fires =>
        ((w, [], n + 1), { s with
          cancelled := fires || s.cancelled
          log := s.log ++ [.streamFailed reason w.consumer.queue.name] })
      | none, true => ((w.setState (.stopped .cancelled), [], n), { s with cancelled := true })
      | none, false =>
        ((w.setState (.stopped .streamEnded), [], n),
          { s with log := s.log ++ [.streamEnded w.consumer.queue.name] }) := by
  obtain ⟨link, cancelled, log⟩ := s
  cases live
  unfold poll
  cases feed n with
  | none => cases fires <;> rfl
  | some item => cases item <;> cases fires <;> rfl

theorem passage_poll (idle : w.isIdle) (fires : Bool) :
    let ran := (w.poll feed n fires).run s
    Passage feed s.cancelled ran.2.cancelled down w n ran.1.1 ran.1.2.1 ran.1.2.2 := by
  obtain ⟨running, waits⟩ := isIdle_iff.1 idle
  cases fired : s.cancelled with
  | true =>
    rw [poll_fired fired]
    exact .cancelled running waits fired
  | false =>
    rw [poll_live fired]
    cases item : feed n with
    | none =>
      cases fires with
      | true => exact .cancelled running waits rfl
      | false => exact .ended running waits fired item
    | some item' =>
      cases item' with
      | delivery d => exact .took running waits rfl item
      | failure reason => exact .skipped running rfl item

theorem passage_turn (feed : Feed) (n : Nat) (turn : Turn) (brought : turn = .abort → down)
    (s : Surroundings (Link σ)) :
    let ran := (w.step turn.step).run s
    Passage feed s.cancelled ran.2.cancelled down w n ran.1.1 ran.1.2 n := by
  cases running : w.isRunning with
  | false =>
    rw [step_of_not_running running]
    exact .still
  | true =>
    cases turn with
    | notice =>
      cases waits : w.stage with
      | waiting =>
        rw [Turn.step, step_notice running waits]
        cases fired : s.cancelled with
        | true => exact .cancelled running waits fired
        | false => exact .still
      | taken d | handled d outcome =>
        rw [Turn.step, step_of_running running, waits]
        exact .still
    | handle =>
      cases taken : w.stage with
      | taken d =>
        rw [Turn.step, step_handle running taken]
        exact .handled running taken _
      | waiting | handled d outcome =>
        rw [Turn.step, step_of_running running, taken]
        exact .still
    | settle =>
      cases handled : w.stage with
      | handled d outcome =>
        rw [Turn.step, step_settle running handled]
        exact .settled running handled
      | waiting | taken d =>
        rw [Turn.step, step_of_running running, handled]
        exact .still
    | abort =>
      rw [Turn.step, step_of_running running]
      cases w.stage <;> exact .aborted running (brought rfl)

end Moves

/-! ## A loop and its feed -/

/-- How a loop stands to its feed at a position, after some deeds: all before the position is there,
and the deliveries among it were taken, handled and settled one after the other, but for one that is
in hand. A loop that has stopped has none in hand, and one that found its feed at its end is
there. -/
structure Kept (w : Worker σ) (feed : Feed) (n : Nat) (deeds : List Deed) : Prop where
  present : ∀ i < n, (feed i).isSome
  deeds : ∃ done : List (Delivery × Except MessagingError Unit),
    feed.deliveries n = done.map Prod.fst ++ w.stage.inHand ∧
      deeds = done.flatMap course ++ w.stage.begun
  settled : ∀ exit, w.loop.state = .stopped exit → w.stage = .waiting
  ended : w.loop.state = .stopped .streamEnded → feed n = none

/-- A loop that was just started. -/
theorem Kept.started {feed : Feed} {w : Worker σ} (running : w.isRunning)
    (waits : w.stage = .waiting) : w.Kept feed 0 [] := by
  have unstopped (exit : Exit) : w.loop.state ≠ .stopped exit := by
    rw [isRunning_iff.1 running]
    nofun
  refine ⟨fun i lt => absurd lt (Nat.not_lt_zero i), ⟨[], ?_, ?_⟩, fun _ _ => waits, ?_⟩
  · rw [waits]
    rfl
  · rw [waits]
    rfl
  · exact fun stopped => absurd stopped (unstopped .streamEnded)

namespace Passage

variable {feed : Feed} {fired fired' : Bool} {down : Prop} {w w' : Worker σ} {n n' : Nat}
  {deeds more : List Deed}

/-- A loop that does not run does not move. -/
theorem of_not_running (stopped : w.isRunning = false)
    (h : Passage feed fired fired' down w n w' more n') : w' = w ∧ more = [] ∧ n' = n := by
  cases h with
  | still => exact ⟨rfl, rfl, rfl⟩
  | took running | skipped running | handled running | settled running | cancelled running
  | ended running | aborted running =>
    rw [running] at stopped
    cases stopped

/-- After the token has fired nothing is taken. -/
theorem of_fired (h : Passage feed true fired' down w n w' more n') :
    more.filterMap Deed.taken? = [] := by
  cases h with
  | took _ _ live => cases live
  | still | skipped | handled | settled | cancelled | ended | aborted => rfl

theorem kept (h : Passage feed fired fired' down w n w' more n') (kept : w.Kept feed n deeds) :
    w'.Kept feed n' (deeds ++ more) := by
  obtain ⟨present, ⟨done, drawn, did⟩, settled, ended⟩ := kept
  have further {item : Item} (here : feed n = some item) : ∀ i < n + 1, (feed i).isSome := by
    intro i lt
    rcases Nat.lt_succ_iff_lt_or_eq.1 lt with before | rfl
    · exact present i before
    · exact Option.isSome_of_eq_some here
  have unstopped (running : w.isRunning) (exit : Exit) : w.loop.state ≠ .stopped exit := by
    rw [isRunning_iff.1 running]
    nofun
  cases h with
  | still =>
    rw [List.append_nil]
    exact ⟨present, ⟨done, drawn, did⟩, settled, ended⟩
  | took running waits live item =>
    rw [waits] at drawn did
    refine ⟨further item, ⟨done, ?_, ?_⟩, ?_, ?_⟩
    · rw [Feed.deliveries_succ, item, drawn]
      simp [Stage.inHand, Item.delivery?]
    · rw [did]
      simp [Stage.begun]
    · intro exit stopped
      exact absurd stopped (unstopped running exit)
    · intro stopped
      exact absurd stopped (unstopped running .streamEnded)
  | skipped running live item =>
    refine ⟨further item, ⟨done, ?_, ?_⟩, settled, ?_⟩
    · rw [Feed.deliveries_succ, item, drawn]
      simp [Item.delivery?]
    · rw [did, List.append_nil]
    · intro stopped
      cases (ended stopped).symm.trans item
  | handled running taken outcome =>
    rw [taken] at drawn did
    refine ⟨present, ⟨done, drawn, ?_⟩, ?_, ?_⟩
    · rw [did, List.append_assoc]
      rfl
    · intro exit stopped
      exact absurd stopped (unstopped running exit)
    · intro stopped
      exact absurd stopped (unstopped running .streamEnded)
  | @settled running d outcome handled =>
    rw [handled] at drawn did
    refine ⟨present, ⟨done ++ [(d, outcome)], ?_, ?_⟩, ?_, ?_⟩
    · rw [drawn]
      simp [Stage.inHand]
    · rw [did, List.flatMap_append, List.append_assoc]
      simp [Stage.begun, course]
    · intro exit stopped
      rfl
    · intro stopped
      exact absurd stopped (unstopped running .streamEnded)
  | cancelled running waits seen =>
    rw [List.append_nil]
    refine ⟨present, ⟨done, drawn, did⟩, fun _ _ => waits, ?_⟩
    intro stopped
    cases stopped
  | ended running waits live atEnd =>
    rw [List.append_nil]
    exact ⟨present, ⟨done, drawn, did⟩, fun _ _ => waits, fun _ => atEnd⟩
  | aborted running brought =>
    rw [List.append_nil]
    refine ⟨present, ⟨done, drawn, did⟩, ?_, ?_⟩
    · intro exit stopped
      cases stopped
    · intro stopped
      cases stopped

/-- A loop keeps its subscription and its consumer. -/
theorem kept_consumer (h : Passage feed fired fired' down w n w' more n') :
    ∃ state stage, w' = { w with loop := { w.loop with state }, stage } := by
  cases h <;> exact ⟨_, _, rfl⟩

/-- A loop that stops is told why by the token. -/
theorem exit (h : Passage feed fired fired' down w n w' more n') (running : w.isRunning)
    {exit : Exit} (stopped : w'.loop.state = .stopped exit) :
    exit = if fired' then .cancelled else .streamEnded := by
  have still : w.loop.state ≠ .stopped exit := by
    rw [isRunning_iff.1 running]
    nofun
  cases h with
  | still | took | skipped | handled | settled => exact absurd stopped still
  | cancelled _ _ seen =>
    cases stopped
    rw [seen]
    rfl
  | ended _ _ live =>
    cases stopped
    rw [live]
    rfl
  | aborted => cases stopped

/-- Nothing but a move that brings it down makes a loop abort. -/
theorem down_of_aborted (h : Passage feed fired fired' down w n w' more n')
    (aborted : w'.loop.state = .aborted) : w.loop.state = .aborted ∨ down := by
  cases h with
  | still | took | skipped | handled | settled => exact .inl aborted
  | cancelled | ended => cases aborted
  | aborted _ brought => exact .inr brought

end Passage

end Worker

/-! ## Moves of an intake -/

namespace Service

variable {s : Service σ} {j k : Nat} {w : Worker σ} {deeds : List Worker.Deed}
  {around : Surroundings (Link σ)}

/-- What a loop did, one thing after the other. -/
def deedsOf (s : Service σ) (k : Nat) : List Worker.Deed :=
  s.deeds.filterMap fun (j, deed) => if j = k then some deed else none

/-- The deliveries that a loop took. -/
def takenBy (s : Service σ) (k : Nat) : List Delivery := (s.deedsOf k).filterMap Worker.Deed.taken?

theorem deedsOf_put_self : (s.put k w deeds around).deedsOf k = s.deedsOf k ++ deeds := by
  unfold put deedsOf
  rw [List.filterMap_append, List.filterMap_map]
  change _ ++ deeds.filterMap (fun deed => if k = k then some deed else none) = _
  simp

theorem deedsOf_put_of_ne (other : j ≠ k) : (s.put j w deeds around).deedsOf k = s.deedsOf k := by
  unfold put deedsOf
  rw [List.filterMap_append, List.filterMap_map]
  change _ ++ deeds.filterMap (fun deed => if j = k then some deed else none) = _
  simp [other]

theorem getElem?_put_of_ne (other : j ≠ k) :
    (s.put j w deeds around).workers[k]? = s.workers[k]? :=
  List.getElem?_set_ne other

end Service

namespace Intake

variable {server : Server σ} {routing : String → Route}
  {receive : Octets → Work (Link σ) (Except MessagingError Unit)} {feeds : Nat → Feed}
  {s : Intake σ} {k : Nat} {w : Worker σ}

section Polls

theorem poll_idle (here : s.service.workers[k]? = some w) (idle : w.isIdle) (fires : Bool) :
    s.poll feeds k fires =
      let ran := (w.poll (feeds k) (s.drawn k) fires).run s.service.around
      { service := s.service.put k ran.1.1 ran.1.2.1 ran.2
        drawn := fun j => if j = k then ran.1.2.2 else s.drawn j } := by
  unfold poll
  simp only [here, idle, if_true]
  rfl

/-- A poll is either one of a loop that waits, or nothing. -/
theorem poll_cases (feeds : Nat → Feed) (s : Intake σ) (k : Nat) (fires : Bool) :
    s.poll feeds k fires = s ∨ ∃ w, s.service.workers[k]? = some w ∧ w.isIdle := by
  cases here : s.service.workers[k]? with
  | none =>
    left
    unfold poll
    rw [here]
  | some w =>
    cases idle : w.isIdle with
    | true => exact .inr ⟨w, rfl, idle⟩
    | false =>
      left
      unfold poll
      simp only [here, idle, Bool.false_eq_true, if_false]

/-- To a service a poll is what its loop came upon, and the token. -/
theorem poll_service (server : Server σ) (routing : String → Route)
    (receive : Octets → Work (Link σ) (Except MessagingError Unit)) (feeds : Nat → Feed)
    (s : Intake σ) (k : Nat) (fires : Bool) :
    ∃ moves, (s.poll feeds k fires).service = s.service.after server routing receive moves := by
  rcases s.poll_cases feeds k fires with same | ⟨w, here, idle⟩
  · exact ⟨[], by rw [same]; rfl⟩
  · obtain ⟨running, waits⟩ := Worker.isIdle_iff.1 idle
    have noticed := Worker.step_notice running waits
    rw [poll_idle here idle]
    cases fired : s.service.around.cancelled with
    | true =>
      refine ⟨[.loop k .notice], ?_⟩
      change _ = s.service.advance k .notice
      rw [Worker.poll_fired fired, Service.advance_eq here (noticed s.service.around), fired]
      rfl
    | false =>
      have came (happening : Happening) :=
        Service.advance_eq here (Worker.encounter_live running waits fired happening)
      have cameAndFired (happening : Happening) :=
        congrArg (Service.act server routing receive · .cancel) (came happening)
      rw [Worker.poll_live fired]
      cases feeds k (s.drawn k) with
      | none =>
        let spent := { s.service with around := { s.service.around with cancelled := true } }
        have stopped := Service.advance_eq (s := spent) here (noticed spent.around)
        cases fires with
        | true => exact ⟨[.cancel, .loop k .notice], stopped.symm⟩
        | false => exact ⟨[.loop k (.encounter .streamEnd)], (came .streamEnd).symm⟩
      | some item =>
        cases item with
        | delivery d =>
          let met : Service.Move σ := .loop k (.encounter (.delivery d))
          cases fires with
          | true => exact ⟨[met, .cancel], (cameAndFired (.delivery d)).symm⟩
          | false => exact ⟨[met], (came (.delivery d)).symm⟩
        | failure reason =>
          let met : Service.Move σ := .loop k (.encounter (.streamError reason))
          cases fires with
          | true => exact ⟨[met, .cancel], (cameAndFired (.streamError reason)).symm⟩
          | false => exact ⟨[met], (came (.streamError reason)).symm⟩

end Polls

theorem act_service (server : Server σ) (routing : String → Route)
    (receive : Octets → Work (Link σ) (Except MessagingError Unit)) (feeds : Nat → Feed)
    (s : Intake σ) (m : Move σ) :
    ∃ moves, (s.act server routing receive feeds m).service =
      s.service.after server routing receive moves := by
  cases m with
  | poll k fires => exact poll_service server routing receive feeds s k fires
  | turn k turn => exact ⟨[.loop k turn.step], rfl⟩
  | setUp => exact ⟨[.setUp], rfl⟩
  | join => exact ⟨[.join], rfl⟩
  | cancel => exact ⟨[.cancel], rfl⟩
  | elsewhere change => exact ⟨[.elsewhere change], rfl⟩

/-- Whatever loops draw, their service runs as services run. -/
theorem after_service (server : Server σ) (routing : String → Route)
    (receive : Octets → Work (Link σ) (Except MessagingError Unit)) (feeds : Nat → Feed)
    (moves : List (Move σ)) (s : Intake σ) :
    ∃ moves', (s.after server routing receive feeds moves).service =
      s.service.after server routing receive moves' := by
  induction moves generalizing s with
  | nil => exact ⟨[], rfl⟩
  | cons m moves ih =>
    obtain ⟨first, acted⟩ := act_service server routing receive feeds s m
    obtain ⟨rest, ran⟩ := ih (s.act server routing receive feeds m)
    refine ⟨first ++ rest, ran.trans ?_⟩
    rw [acted, Service.after_append]

/-- What holds of a service after any moves of its own holds of it whatever its loops draw. -/
theorem of_service {P : Service σ → Prop}
    (holds : ∀ moves, P (s.service.after server routing receive moves)) (moves : List (Move σ)) :
    P (s.after server routing receive feeds moves).service := by
  obtain ⟨moves', ran⟩ := after_service server routing receive feeds moves s
  rw [ran]
  exact holds moves'

theorem after_append (moves more : List (Move σ)) :
    s.after server routing receive feeds (moves ++ more) =
      (s.after server routing receive feeds moves).after server routing receive feeds more :=
  List.foldl_append

/-- What a move can do at the place of a loop, given whether it brings that loop down. -/
inductive Change (feeds : Nat → Feed) (down : Prop) (k : Nat) (s t : Intake σ) : Prop where
  | still (workers : t.service.workers[k]? = s.service.workers[k]?)
    (deeds : t.service.deedsOf k = s.service.deedsOf k) (drawn : t.drawn k = s.drawn k)
  /-- A loop was started, which runs and waits. -/
  | started (vacant : s.service.workers[k]? = none) {w : Worker σ}
    (there : t.service.workers[k]? = some w) (running : w.isRunning) (waits : w.stage = .waiting)
    (deeds : t.service.deedsOf k = s.service.deedsOf k) (drawn : t.drawn k = s.drawn k)
  /-- The loop has made a passage. -/
  | passed {w w' : Worker σ} {more : List Worker.Deed} (here : s.service.workers[k]? = some w)
    (there : t.service.workers[k]? = some w')
    (deeds : t.service.deedsOf k = s.service.deedsOf k ++ more)
    (passage : Worker.Passage (feeds k) s.service.around.cancelled t.service.around.cancelled down w
      (s.drawn k) w' more (t.drawn k))

section Changes

variable {down : Prop}

theorem change_poll (feeds : Nat → Feed) (s : Intake σ) (j : Nat) (fires : Bool) (k : Nat) :
    Change feeds down k s (s.poll feeds j fires) := by
  rcases s.poll_cases feeds j fires with same | ⟨w, here, idle⟩
  · rw [same]
    exact .still rfl rfl rfl
  · rw [poll_idle here idle]
    by_cases other : j = k
    · subst other
      refine .passed here (Service.getElem?_put here _ _ _) Service.deedsOf_put_self ?_
      dsimp only
      rw [if_pos rfl]
      exact Worker.passage_poll idle fires
    · exact .still (Service.getElem?_put_of_ne other) (Service.deedsOf_put_of_ne other)
        (if_neg (Ne.symm other))

theorem change_turn (feeds : Nat → Feed) (s : Intake σ) (j : Nat) (turn : Worker.Turn) {k : Nat}
    (brought : j = k → turn = .abort → down) :
    Change feeds down k s { s with service := s.service.advance j turn.step } := by
  cases here : s.service.workers[j]? with
  | none =>
    rw [Service.advance_none here]
    exact .still rfl rfl rfl
  | some w =>
    generalize went : (w.step turn.step).run s.service.around = ran
    rw [Service.advance_eq here went]
    by_cases other : j = k
    · subst other
      have passage :=
        w.passage_turn (feeds j) (s.drawn j) turn (brought rfl) s.service.around
      rw [went] at passage
      exact .passed here (Service.getElem?_put here _ _ _) Service.deedsOf_put_self passage
    · exact .still (Service.getElem?_put_of_ne other) (Service.deedsOf_put_of_ne other) rfl

theorem change_setUp (server : Server σ) (routing : String → Route)
    (receive : Octets → Work (Link σ) (Except MessagingError Unit)) (feeds : Nat → Feed)
    (s : Intake σ) (k : Nat) :
    Change feeds down k s { s with service := s.service.setUp server routing receive } := by
  have came := s.service.setUp_cases server routing receive
  generalize s.service.setUp server routing receive = next at came ⊢
  cases came with
  | nothing | failed => exact .still rfl rfl rfl
  | started =>
    -- The new loop comes behind the others.
    rcases Nat.lt_trichotomy k s.service.workers.length with before | rfl | behind
    · exact .still (List.getElem?_append_left before) rfl rfl
    · exact .started (List.getElem?_eq_none (Nat.le_refl _)) List.getElem?_concat_length rfl rfl
        rfl rfl
    · refine .still ?_ rfl rfl
      rw [List.getElem?_eq_none (Nat.le_of_lt behind)]
      apply List.getElem?_eq_none
      rw [List.length_append]
      exact behind

/-- The one move that brings a loop down is its abort. -/
theorem change_act (server : Server σ) (routing : String → Route)
    (receive : Octets → Work (Link σ) (Except MessagingError Unit)) (feeds : Nat → Feed)
    (s : Intake σ) (m : Move σ) (k : Nat) :
    Change feeds (m = .turn k .abort) k s (s.act server routing receive feeds m) := by
  cases m with
  | poll j fires => exact change_poll feeds s j fires k
  | turn j turn =>
    refine change_turn feeds s j turn fun at_k abort => ?_
    rw [at_k, abort]
  | setUp => exact change_setUp server routing receive feeds s k
  | join =>
    change Change _ _ _ _ { s with service := s.service.join }
    have came := s.service.join_cases
    generalize s.service.join = next at came ⊢
    cases came <;> exact .still rfl rfl rfl
  | cancel | elsewhere change => exact .still rfl rfl rfl

end Changes

/-! ## Runs -/

/-- Every loop stands to its feed as it should, and where there is no loop nothing was done. -/
structure Sound (feeds : Nat → Feed) (s : Intake σ) : Prop where
  kept : ∀ k (w : Worker σ), s.service.workers[k]? = some w →
    w.Kept (feeds k) (s.drawn k) (s.service.deedsOf k)
  vacant : ∀ k, s.service.workers[k]? = none → s.drawn k = 0 ∧ s.service.deedsOf k = []

theorem sound_start (feeds : Nat → Feed) (registry : Registry) (around : Surroundings (Link σ)) :
    Sound feeds (start registry around) where
  kept _ _ here := by cases here
  vacant _ _ := ⟨rfl, rfl⟩

namespace Sound

theorem act (h : Sound feeds s) (m : Move σ) :
    Sound feeds (s.act server routing receive feeds m) := by
  constructor
  · intro k w' there
    cases change_act server routing receive feeds s m k with
    | still workers deeds drawn =>
      rw [deeds, drawn]
      exact h.kept k w' (workers.symm.trans there)
    | started vacant there' running waits deeds drawn =>
      cases there.symm.trans there'
      obtain ⟨undrawn, undone⟩ := h.vacant k vacant
      rw [deeds, drawn, undrawn, undone]
      exact .started running waits
    | passed here there' deeds passage =>
      cases there.symm.trans there'
      rw [deeds]
      exact passage.kept (h.kept k _ here)
  · intro k there
    cases change_act server routing receive feeds s m k with
    | still workers deeds drawn =>
      rw [deeds, drawn]
      exact h.vacant k (workers.symm.trans there)
    | started _ there' | passed _ there' => cases there.symm.trans there'

theorem after (h : Sound feeds s) (moves : List (Move σ)) :
    Sound feeds (s.after server routing receive feeds moves) := by
  induction moves generalizing s with
  | nil => exact h
  | cons m moves ih => exact ih (h.act m)

end Sound

/-- Where a loop is, if it was started. -/
def stateAt (s : Intake σ) (k : Nat) : Option LoopState := s.service.workers[k]?.map (·.loop.state)

theorem stateAt_eq_some {state : LoopState} :
    s.stateAt k = some state ↔ ∃ w, s.service.workers[k]? = some w ∧ w.loop.state = state := by
  unfold stateAt
  exact Option.map_eq_some_iff

/-- A loop that stops was running; the token tells why it stops. -/
theorem stops {exit : Exit} (m : Move σ) (before : s.stateAt k ≠ some (.stopped exit))
    (after : (s.act server routing receive feeds m).stateAt k = some (.stopped exit)) :
    s.stateAt k = some .running ∧
      exit = if (s.act server routing receive feeds m).service.around.cancelled then .cancelled
        else .streamEnded := by
  obtain ⟨w', there, stopped⟩ := stateAt_eq_some.1 after
  cases change_act server routing receive feeds s m k with
  | still workers =>
    exact absurd (stateAt_eq_some.2 ⟨w', workers.symm.trans there, stopped⟩) before
  | started _ there' running =>
    cases there.symm.trans there'
    rw [Worker.isRunning_iff, stopped] at running
    cases running
  | @passed w _ _ here there' _ passage =>
    cases there.symm.trans there'
    cases running : w.isRunning with
    | true =>
      exact ⟨stateAt_eq_some.2 ⟨w, here, Worker.isRunning_iff.1 running⟩,
        passage.exit running stopped⟩
    | false =>
      obtain ⟨rfl, _⟩ := passage.of_not_running running
      exact absurd (stateAt_eq_some.2 ⟨w', here, stopped⟩) before

/-- A loop that has stopped did so at one of the moves. -/
theorem stopped_at {exit : Exit} (moves : List (Move σ))
    (before : s.stateAt k ≠ some (.stopped exit))
    (after : (s.after server routing receive feeds moves).stateAt k = some (.stopped exit)) :
    ∃ earlier m later, moves = earlier ++ m :: later ∧
      (s.after server routing receive feeds earlier).stateAt k = some .running ∧
      let t := s.after server routing receive feeds (earlier ++ [m])
      t.stateAt k = some (.stopped exit) ∧
        exit = if t.service.around.cancelled then .cancelled else .streamEnded := by
  induction moves generalizing s with
  | nil => exact absurd after before
  | cons m moves ih =>
    by_cases now : (s.act server routing receive feeds m).stateAt k = some (.stopped exit)
    · obtain ⟨running, told⟩ := stops m before now
      exact ⟨[], m, moves, rfl, running, now, told⟩
    · obtain ⟨earlier, m', later, split, running, stopped⟩ := ih now after
      exact ⟨m :: earlier, m', later, congrArg (m :: ·) split, running, stopped⟩

/-- Once the token has fired, no loop takes anything. -/
theorem taken_after_fired (lasting : ∀ body, Work.Lasting (receive body))
    (serving : s.service.Serving server receive) (fired : s.service.around.cancelled = true)
    (moves : List (Move σ)) (k : Nat) :
    (s.after server routing receive feeds moves).service.takenBy k = s.service.takenBy k := by
  induction moves generalizing s with
  | nil => rfl
  | cons m moves ih =>
    obtain ⟨moves', acted⟩ := act_service server routing receive feeds s m
    have first : (s.act server routing receive feeds m).service.takenBy k =
        s.service.takenBy k := by
      unfold Service.takenBy
      cases change_act server routing receive feeds s m k with
      | still _ deeds | started _ _ _ _ deeds => rw [deeds]
      | passed _ _ deeds passage =>
        rw [fired] at passage
        rw [deeds, List.filterMap_append, passage.of_fired, List.append_nil]
    refine (ih ?_ ?_).trans first
    · rw [acted]
      exact serving.after moves'
    · rw [acted]
      exact Service.fired_after lasting serving fired moves'

end Intake

end Courier
