import Courier.Proofs.Confirm.Numbering
import Courier.Proofs.Confirm.Queue

/-!
# A lane without one of its publishes

What a lane would be if one of its publishes had never been made (`Desk.Unmade`). As long as no frame
of it goes over the wire, that lane stands still while the publish makes its moves, and keeps up with
all the other moves that get anywhere (`Desk.Unmade.own`, `Desk.Unmade.others`).
-/

namespace Courier.Confirm
set_option autoImplicit false

/-- Whether a move is a publish's own. -/
def Move.isOf (i : Nat) : Move → Bool
  | .cancel j | .advance j | .written j _ => i == j
  | .call .. | .confirm .. | .loseAll _ | .unwatch _ => false

theorem Move.of_isOf {i : Nat} {m : Move} (own : m.isOf i = true) :
    m = .cancel i ∨ m = .advance i ∨ ∃ result, m = .written i result := by
  cases m with
  | call | confirm | loseAll | unwatch => cases own
  | cancel j =>
    obtain rfl : i = j := beq_iff_eq.1 own
    exact .inl rfl
  | advance j =>
    obtain rfl : i = j := beq_iff_eq.1 own
    exact .inr (.inl rfl)
  | written j result =>
    obtain rfl : i = j := beq_iff_eq.1 own
    exact .inr (.inr ⟨result, rfl⟩)

/-- A move where the publish of number `i` was not made. -/
def Move.renumber (i : Nat) : Move → Move
  | .cancel j => .cancel (Confirm.renumber i j)
  | .advance j => .advance (Confirm.renumber i j)
  | .written j result => .written (Confirm.renumber i j) result
  | m => m

/-- What was handed to the wire where the publish of number `i` was not made. -/
def Sent.renumber (i : Nat) (s : Sent) : Sent := { s with call := Confirm.renumber i s.call }

/-- What a lane has for the publishes to come: the next number, the free places of its window, the
free turn to write, and the confirmations it waits for. -/
def Lane.accounts (l : Lane) : Nat × Nat × Nat × List Watch :=
  (l.next, l.window.free, l.turn.free, l.watches)

namespace Desk

variable {d d' : Desk} {dealt : List (Nat × Confirmation)} {window i j n taken taken' : Nat}
  {p p' : Phase}

/-- Whether a move gets anywhere: a publish whose wait is not over does not. -/
def goesOn (d : Desk) : Move → Bool
  | .advance j => d.canAdvance j
  | _ => true

/-! ## What holds of a lane at any time -/

/-- A lane in order: its places are all there, its frames are numbered as they were written, and
its gates are queues. -/
structure Sound (window : Nat) (d : Desk) : Prop where
  balanced : d.Balanced window
  numbered : d.Numbered
  windowQueue : d.lane.window.IsQueue
  turnQueue : d.lane.turn.IsQueue

end Desk

namespace Gate.IsQueue

variable {g : Gate} {i : Nat}

theorem ofPlaces (n : Nat) : (Gate.ofPlaces n).IsQueue :=
  ⟨n, [], by rw [ofQueue, List.drop_nil, List.take_nil, List.length_nil]; rfl⟩

theorem arrive (h : g.IsQueue) (i : Nat) : (g.arrive i).IsQueue := by
  obtain ⟨n, queue, rfl⟩ := h
  exact ⟨_, _, arrive_ofQueue n queue i⟩

theorem release (h : g.IsQueue) : g.release.IsQueue := by
  obtain ⟨n, queue, rfl⟩ := h
  exact ⟨_, _, release_ofQueue n queue⟩

theorem take (h : g.IsQueue) (ready : i ∈ g.ready) : (g.take i).IsQueue := by
  obtain ⟨n, queue, rfl⟩ := h
  exact ⟨_, _, take_ofQueue ready⟩

theorem leave (h : g.IsQueue) (i : Nat) : (g.leave i).IsQueue := by
  obtain ⟨n, queue, rfl⟩ := h
  exact ⟨_, _, leave_ofQueue n queue i⟩

end Gate.IsQueue

namespace Desk

variable {d d' : Desk} {dealt : List (Nat × Confirmation)} {window i j n taken taken' : Nat}
  {p p' : Phase}

namespace Sound

theorem start (key : String) (window : Nat) (tracker : Tracker) (log : List Log.Event) :
    Sound window ⟨.new key window, tracker, [], log⟩ where
  balanced := (balanced_start key window).of_lane rfl
  numbered := (numbered_start key window).quiet rfl rfl (fun _ _ found => found) (fun _ _ => rfl)
    fun _ _ => ⟨id, id⟩
  windowQueue := .ofPlaces _
  turnQueue := .ofPlaces _

/-- What others do to the tracker and the log is nothing to the lane. -/
theorem elsewhere (h : d.Sound window) (tracker : Tracker) (log : List Log.Event) :
    Sound window { d with tracker, log } where
  balanced := h.balanced.of_lane rfl
  numbered := h.numbered.quiet rfl rfl (fun _ _ found => found) (fun _ _ => rfl)
    fun _ _ => ⟨id, id⟩
  windowQueue := h.windowQueue
  turnQueue := h.turnQueue

theorem change (h : d.Sound window) (c : d.Change d' dealt) : d'.Sound window := by
  have windowQueue := h.windowQueue
  have turnQueue := h.turnQueue
  refine ⟨h.balanced.change c, h.numbered.change h.balanced c, ?_, ?_⟩
  · cases c with
    | none | called | told | dropped | lined | wrote | written | answered => exact windowQueue
    | queued => exact windowQueue.arrive _
    | leftWindow => exact windowQueue.leave _
    | placed known ready => exact windowQueue.take ready
    | gaveUp | leftTurn | failed => exact windowQueue.release
    | dealt =>
      show (Desk.resolve _ _ _).lane.window.release.IsQueue
      rw [lane_resolve]
      exact windowQueue.release
  · cases c with
    | none | called | told | dropped | queued | leftWindow | placed | gaveUp | answered =>
      exact turnQueue
    | lined => exact turnQueue.arrive _
    | leftTurn => exact turnQueue.leave _
    | wrote known call ready => exact turnQueue.take ready
    | written | failed => exact turnQueue.release
    | dealt =>
      show (Desk.resolve _ _ _).lane.turn.IsQueue
      rw [lane_resolve]
      exact turnQueue

theorem act (h : d.Sound window) (m : Move) : (d.act m).Sound window := h.change (act_change d m)

end Sound

theorem sent_advance (d : Desk) (i : Nat) :
    (d.advance i).sent = d.sent ∨ ∃ s, s.call = i ∧ (d.advance i).sent = d.sent ++ [s] := by
  unfold advance
  split
  · exact .inl rfl
  · split
    · split <;> exact .inl rfl
    · split
      · exact .inl rfl
      · split <;> exact .inl rfl
    · split <;> exact .inl rfl
    · split
      · exact .inl rfl
      · split
        · exact .inr ⟨_, rfl, rfl⟩
        · exact .inl rfl
    · exact .inl rfl
    · exact .inl rfl

/-- A frame goes to the wire only as its publish goes on, and stays there. -/
theorem sent_act (d : Desk) (m : Move) :
    (d.act m).sent = d.sent ∨ ∃ s, m = .advance s.call ∧ (d.act m).sent = d.sent ++ [s] := by
  cases m with
  | call frame cancelled => exact .inl rfl
  | cancel i => exact .inl rfl
  | advance i =>
    obtain same | ⟨s, rfl, more⟩ := sent_advance d i
    · exact .inl same
    · exact .inr ⟨s, rfl, more⟩
  | written i result =>
    left
    show (d.written i result).sent = d.sent
    unfold written
    split
    · cases result <;> rfl
    · rfl
  | confirm n a => exact .inl rfl
  | loseAll e => exact .inl rfl
  | unwatch j =>
    left
    show (d.unwatch j).sent = d.sent
    unfold unwatch
    split
    · exact sent_resolve _ _ _
    · rfl

theorem subset_sent_act (d : Desk) (m : Move) : d.sent ⊆ (d.act m).sent := by
  obtain same | ⟨s, _, more⟩ := sent_act d m
  · rw [same]
    exact List.Subset.refl _
  · rw [more]
    exact List.subset_append_left _ _

/-! ## Two lanes -/

section Lists

variable {α : Type} {f : α → α}

theorem getElem?_eraseIdx_renumber (xs : List α) (other : j ≠ i) :
    (xs.eraseIdx i)[renumber i j]? = xs[j]? := by
  unfold renumber
  rw [List.getElem?_eraseIdx]
  by_cases before : j < i
  · rw [if_pos before, if_pos before]
  · have behind : ¬ j - 1 < i := by omega
    have up : j - 1 + 1 = j := by omega
    rw [if_neg before, if_neg behind, up]

theorem eraseIdx_modify_self (xs : List α) (i : Nat) : (xs.modify i f).eraseIdx i = xs.eraseIdx i := by
  induction xs generalizing i with
  | nil => rw [List.modify_nil]
  | cons x xs ih =>
    cases i with
    | zero => rw [List.modify_zero_cons]; rfl
    | succ i => rw [List.modify_succ_cons, List.eraseIdx_cons_succ, List.eraseIdx_cons_succ, ih]

theorem eraseIdx_modify (xs : List α) (other : j ≠ i) :
    (xs.modify j f).eraseIdx i = (xs.eraseIdx i).modify (renumber i j) f := by
  induction xs generalizing i j with
  | nil => rw [List.modify_nil, List.eraseIdx_nil, List.modify_nil]
  | cons x xs ih =>
    cases i with
    | zero =>
      obtain ⟨j, rfl⟩ := Nat.exists_eq_succ_of_ne_zero other
      rw [List.modify_succ_cons]
      rfl
    | succ i =>
      cases j with
      | zero => rw [List.modify_zero_cons]; rfl
      | succ j =>
        have differ : j ≠ i := fun same => other (congrArg (· + 1) same)
        have up : renumber (i + 1) (j + 1) = renumber i j + 1 := by
          unfold renumber
          split <;> split <;> omega
        rw [List.modify_succ_cons, List.eraseIdx_cons_succ, List.eraseIdx_cons_succ, ih differ, up,
          List.modify_succ_cons]

end Lists

/-- Who stands at no gate could not be missed there. -/
theorem not_standing {g : Gate} {r : Phase} (line : g.Line fun j => d.phase j = some r)
    (known : d.phase j = some p) (differs : p ≠ r) : j ∉ g.standing := by
  intro stands
  have found := (line.mem j).1 stands
  rw [known] at found
  exact differs (Option.some.inj found)

/-- A lane at work where a publish is in a phase and has taken up some places of the window, and the
same lane where it was not made. -/
structure Unmade (i : Nat) (p : Phase) (taken : Nat) (d d' : Desk) : Prop where
  phase : d.phase i = some p
  window : d.lane.window.Spares i taken d'.lane.window
  turn : d.lane.turn.Spares i 0 d'.lane.turn
  calls : d'.lane.calls = d.lane.calls.eraseIdx i
  key : d'.lane.key = d.lane.key
  next : d'.lane.next = d.lane.next
  watches : d'.lane.watches = d.lane.watches
  tracker : d'.tracker = d.tracker
  sent : d'.sent = d.sent.map (Sent.renumber i)
  log : d'.log = d.log

namespace Unmade

theorem call_eq (h : Unmade i p taken d d') (other : j ≠ i) :
    d'.lane.calls[renumber i j]? = d.lane.calls[j]? := by
  rw [h.calls]
  exact getElem?_eraseIdx_renumber _ other

/-- A publish that has just been made. -/
theorem called (sound : d.Sound window) (frame : Frame) (cancelled : Bool) :
    Unmade d.lane.calls.length .arriving 0 (d.call frame cancelled) d := by
  have bound {j : Nat} {q : Phase} (known : d.phase j = some q) : j < d.lane.calls.length := by
    obtain ⟨bound, _⟩ := List.getElem?_eq_some_iff.1 known
    unfold phases at bound
    rwa [List.length_map] at bound
  have before {g : Gate} {r : Phase} (line : g.Line fun j => d.phase j = some r) :
      ∀ j ∈ g.standing, j < d.lane.calls.length := fun j stands => bound ((line.mem j).1 stands)
  have windowLine := sound.balanced.windowLine
  have turnLine := sound.balanced.turnLine
  constructor
  case phase =>
    have new : d.lane.calls.length = d.phases.length := List.length_map _ |>.symm
    rw [phase_call, if_pos new]
  case window => exact .of_absent sound.windowQueue windowLine.once (before windowLine)
  case turn => exact .of_absent sound.turnQueue turnLine.once (before turnLine)
  case calls =>
    show d.lane.calls = (d.lane.calls ++ [_]).eraseIdx d.lane.calls.length
    rw [List.eraseIdx_append_of_length_le (Nat.le_refl _), Nat.sub_self, List.eraseIdx_cons_zero,
      List.append_nil]
  case sent =>
    have same : ∀ s ∈ d.sent, s.renumber d.lane.calls.length = s := by
      intro s mem
      have made : s.call < d.lane.calls.length := by
        rcases sound.numbered.handed s mem with known | known | ⟨e, known⟩ <;> exact bound known
      unfold Sent.renumber
      rw [renumber_of_lt made]
    show d.sent = d.sent.map _
    rw [List.map_congr_left same, List.map_id']
  all_goals rfl

/-- What others do to the tracker and the log, they do to both. -/
theorem elsewhere (h : Unmade i p taken d d') (tracker : Tracker) (log : List Log.Event) :
    Unmade i p taken { d with tracker, log } { d' with tracker, log } :=
  { h with tracker := rfl, log := rfl }

/-- A publish that is over without its frame on the wire has left everything as it was. -/
theorem accounts_eq (h : Unmade i p p.holdsPlace.toNat d d') (sound : d.Sound window)
    {result : Except BrokerError Nat} (ended : p = .finished result) :
    d'.lane.accounts = d.lane.accounts := by
  subst ended
  have phase := h.phase
  have window := h.window.free_eq (not_standing sound.balanced.windowLine phase nofun)
  have turn := h.turn.free_eq (not_standing sound.balanced.turnLine phase nofun)
  unfold Lane.accounts
  rw [h.next, h.watches, window, turn]

/-! What a change of one of them takes of the other. -/

theorem onWindow (h : Unmade i p taken d d') {f f' : Gate → Gate}
    (spares : (f d.lane.window).Spares i taken' (f' d'.lane.window)) :
    Unmade i p taken' (d.onWindow f) (d'.onWindow f') :=
  { h with window := spares }

theorem onTurn (h : Unmade i p taken d d') {f f' : Gate → Gate}
    (spares : (f d.lane.turn).Spares i 0 (f' d'.lane.turn)) :
    Unmade i p taken (d.onTurn f) (d'.onTurn f') :=
  { h with turn := spares }

theorem onWindow_self (h : Unmade i p taken d d') {f : Gate → Gate}
    (spares : (f d.lane.window).Spares i taken' d'.lane.window) :
    Unmade i p taken' (d.onWindow f) d' :=
  { h with window := spares }

theorem onTurn_self (h : Unmade i p taken d d') {f : Gate → Gate}
    (spares : (f d.lane.turn).Spares i 0 d'.lane.turn) : Unmade i p taken (d.onTurn f) d' :=
  { h with turn := spares }

/-- The publish itself goes on. -/
theorem setPhase_self (h : Unmade i p taken d d') (p' : Phase) :
    Unmade i p' taken (d.setPhase i p') d' :=
  { h with
    phase := by rw [phase_setPhase h.phase, if_pos rfl]
    calls := h.calls.trans (eraseIdx_modify_self _ i).symm }

/-- Another one goes on. -/
theorem setPhase (h : Unmade i p taken d d') (other : j ≠ i) (q : Phase) :
    Unmade i p taken (d.setPhase j q) (d'.setPhase (renumber i j) q) :=
  { h with
    phase := by
      have phase := h.phase
      unfold Desk.phase at phase ⊢
      rw [phases_setPhase, List.getElem?_set_ne other]
      exact phase
    calls := by
      show d'.lane.calls.modify (renumber i j) _ = (d.lane.calls.modify j _).eraseIdx i
      rw [h.calls, eraseIdx_modify _ other] }

theorem cancel_self (h : Unmade i p taken d d') : Unmade i p taken (d.cancel i) d' :=
  { h with
    phase := by
      have phase := h.phase
      unfold Desk.phase at phase ⊢
      rw [phases_cancel]
      exact phase
    calls := h.calls.trans (eraseIdx_modify_self _ i).symm }

theorem cancel (h : Unmade i p taken d d') (other : j ≠ i) :
    Unmade i p taken (d.cancel j) (d'.cancel (renumber i j)) :=
  { h with
    phase := by
      have phase := h.phase
      unfold Desk.phase at phase ⊢
      rw [phases_cancel]
      exact phase
    calls := by
      show d'.lane.calls.modify (renumber i j) _ = (d.lane.calls.modify j _).eraseIdx i
      rw [h.calls, eraseIdx_modify _ other] }

theorem call (h : Unmade i p taken d d') (frame : Frame) (cancelled : Bool) :
    Unmade i p taken (d.call frame cancelled) (d'.call frame cancelled) := by
  have bound : i < d.lane.calls.length := by
    have phase := h.phase
    unfold Desk.phase phases at phase
    obtain ⟨bound, _⟩ := List.getElem?_eq_some_iff.1 phase
    rwa [List.length_map] at bound
  exact
    { h with
      phase := by
        have old : i ≠ d.phases.length := by
          unfold phases
          rw [List.length_map]
          exact Nat.ne_of_lt bound
        rw [phase_call, if_neg old]
        exact h.phase
      calls := by
        show d'.lane.calls ++ [_] = (d.lane.calls ++ [_]).eraseIdx i
        rw [h.calls, List.eraseIdx_append_of_lt_length bound] }

theorem write (h : Unmade i p taken d d') (other : j ≠ i) (frame : Frame) :
    Unmade i p taken (d.write j frame) (d'.write (renumber i j) frame) := by
  have moved := h.setPhase other (.writing d.lane.next)
  unfold Desk.write
  dsimp only
  rw [h.next, h.tracker, h.key]
  exact
    { moved with
      tracker := rfl
      sent := by
        show d'.sent ++ [_] = (d.sent ++ [_]).map _
        rw [h.sent, List.map_append]
        rfl }

/-! ## Moves -/

theorem advance (h : Unmade i p taken d d') (sound : d.Sound window) (other : j ≠ i)
    (goes : d.canAdvance j = true) :
    Unmade i p taken (d.advance j) (d'.advance (renumber i j)) := by
  have call := h.call_eq other
  unfold canAdvance at goes
  cases known : d.lane.calls[j]? with
  | none =>
    rw [known] at goes
    cases goes
  | some c =>
    have phase := phase_of_call known
    rw [known] at call goes
    unfold Desk.advance
    rw [known, call]
    dsimp only at goes ⊢
    cases found : c.phase with
    | arriving =>
      rw [found] at phase
      have new := not_standing sound.balanced.windowLine phase nofun
      dsimp only
      split
      · exact h.setPhase other _
      · exact (h.onWindow (h.window.arrive other new)).setPhase other _
    | awaitingPlace =>
      rw [found] at goes
      dsimp only
      split
      · exact (h.onWindow (h.window.leave other)).setPhase other _
      · next unfired =>
        have ready : d.lane.window.isReady j = true := by simpa [unfired] using goes
        have isReady := Gate.isReady_iff.1 ready
        rw [if_pos ready, if_pos (Gate.isReady_iff.2 (h.window.ready other isReady))]
        exact (h.onWindow (h.window.take other isReady)).setPhase other _
    | placed =>
      rw [found] at phase
      have new := not_standing sound.balanced.turnLine phase nofun
      dsimp only
      split
      · exact (h.onWindow h.window.release).setPhase other _
      · exact (h.onTurn (h.turn.arrive other new)).setPhase other _
    | awaitingTurn =>
      rw [found] at goes
      dsimp only
      split
      · exact ((h.onTurn (h.turn.leave other)).onWindow h.window.release).setPhase other _
      · next unfired =>
        have ready : d.lane.turn.isReady j = true := by simpa [unfired] using goes
        have isReady := Gate.isReady_iff.1 ready
        rw [if_pos ready, if_pos (Gate.isReady_iff.2 (h.turn.ready other isReady))]
        exact (h.onTurn (h.turn.take other isReady)).write other c.frame
    | writing n =>
      rw [found] at goes
      cases goes
    | finished result =>
      rw [found] at goes
      cases goes

theorem written (h : Unmade i p taken d d') (other : j ≠ i) (result : Except BrokerError Unit) :
    Unmade i p taken (d.written j result) (d'.written (renumber i j) result) := by
  have call := h.call_eq other
  unfold Desk.written
  rw [call]
  split
  · next frame cancelled n known =>
    cases result with
    | ok _ =>
      have moved := (h.onTurn h.turn.release).setPhase other (.finished (.ok n))
      exact
        { moved with
          next := congrArg (· + 1) h.next
          watches := congrArg (· ++ _) h.watches }
    | error e =>
      have moved := ((h.onTurn h.turn.release).onWindow h.window.release).setPhase other
        (.finished (.error e))
      exact
        { moved with
          tracker := by
            show d'.tracker.forget d'.lane.key n = d.tracker.forget d.lane.key n
            rw [h.tracker, h.key]
          log := congrArg (· ++ _) h.log }
  · exact h

theorem resolve (h : Unmade i p taken d d') (n : Nat) (a : Confirmation) :
    Unmade i p taken (d.resolve n a) (d'.resolve n a) := by
  have acked : (d'.tracker.ack d'.lane.key n false).1 = (d.tracker.ack d.lane.key n false).1 := by
    rw [h.tracker, h.key]
  have nacked : (d'.tracker.nack d'.lane.key n false).1 = (d.tracker.nack d.lane.key n false).1 := by
    rw [h.tracker, h.key]
  cases a with
  | ack returned => exact { h with tracker := acked, log := congrArg (· ++ _) h.log }
  | nack returned =>
    have log : d'.log ++ returnEvents returned ++ [.nacked d'.lane.key n] =
        d.log ++ returnEvents returned ++ [.nacked d.lane.key n] := by rw [h.log, h.key]
    exact { h with tracker := nacked, log }
  | notRequested => exact { h with tracker := acked }
  | lost error =>
    have log : d'.log ++ [.confirmationLost error d'.lane.key n] =
        d.log ++ [.confirmationLost error d.lane.key n] := by rw [h.log, h.key]
    exact { h with tracker := nacked, log }

theorem unwatch (h : Unmade i p taken d d') (j : Nat) :
    Unmade i p taken (d.unwatch j) (d'.unwatch j) := by
  unfold Desk.unwatch
  rw [h.watches]
  split
  · next n a known =>
    have resolved := h.resolve n a
    exact
      { resolved.onWindow resolved.window.release with
        watches := congrArg (List.eraseIdx · j) resolved.watches }
  · exact h

/-- A move that is not the publish's own, and gets anywhere, gets as far without it. -/
theorem others (h : Unmade i p taken d d') (sound : d.Sound window) {m : Move}
    (other : m.isOf i = false) (goes : d.goesOn m = true) :
    Unmade i p taken (d.act m) (d'.act (m.renumber i)) := by
  cases m with
  | call frame cancelled => exact h.call frame cancelled
  | cancel j => exact h.cancel (Ne.symm (by simpa [Move.isOf] using other))
  | advance j => exact h.advance sound (Ne.symm (by simpa [Move.isOf] using other)) goes
  | written j result => exact h.written (Ne.symm (by simpa [Move.isOf] using other)) result
  | confirm n a =>
    exact { h with watches := congrArg (List.map _) h.watches }
  | loseAll e =>
    exact { h with watches := congrArg (List.map _) h.watches }
  | unwatch j => exact h.unwatch j

theorem advance_self (h : Unmade i p p.holdsPlace.toNat d d') (sound : d.Sound window)
    (unsent : ∀ s ∈ (d.advance i).sent, s.call ≠ i) :
    ∃ p', Unmade i p' p'.holdsPlace.toNat (d.advance i) d' := by
  unfold Desk.advance at unsent ⊢
  cases known : d.lane.calls[i]? with
  | none => exact ⟨p, h⟩
  | some c =>
    have phase := phase_of_call known
    rw [known] at unsent
    dsimp only at unsent ⊢
    obtain rfl : p = c.phase := Option.some.inj (h.phase.symm.trans phase)
    cases found : c.phase with
    | arriving =>
      rw [found] at h phase
      have new := not_standing sound.balanced.windowLine phase nofun
      dsimp only
      split
      · exact ⟨.finished (.error .cancelled), h.setPhase_self _⟩
      · exact ⟨.awaitingPlace, (h.onWindow_self (h.window.arrive_self new)).setPhase_self _⟩
    | awaitingPlace =>
      rw [found] at h
      dsimp only
      split
      · exact ⟨.finished (.error .cancelled), (h.onWindow_self h.window.leave_self).setPhase_self _⟩
      · split
        · next ready =>
          have taken := h.window.take_self (Gate.isReady_iff.1 ready)
          exact ⟨.placed, (h.onWindow_self taken).setPhase_self _⟩
        · exact ⟨_, h⟩
    | placed =>
      rw [found] at h phase
      have new := not_standing sound.balanced.turnLine phase nofun
      dsimp only
      split
      · exact ⟨.finished (.error .cancelled),
          (h.onWindow_self h.window.release_self).setPhase_self _⟩
      · exact ⟨.awaitingTurn, (h.onTurn_self (h.turn.arrive_self new)).setPhase_self _⟩
    | awaitingTurn =>
      rw [found] at h unsent
      dsimp only at unsent ⊢
      split
      · have outOfLine : Unmade i _ _ (d.onTurn (·.leave i)) d' := h.onTurn_self h.turn.leave_self
        have left : Unmade i _ 0 ((d.onTurn (·.leave i)).onWindow (·.release)) d' :=
          outOfLine.onWindow_self h.window.release_self
        exact ⟨.finished (.error .cancelled), left.setPhase_self _⟩
      · next unfired =>
        rw [if_neg unfired] at unsent
        split
        · next ready =>
          rw [if_pos ready] at unsent
          exact absurd rfl (unsent _ (List.mem_append_right _ (List.mem_singleton.2 rfl)))
        · exact ⟨_, h⟩
    | writing n =>
      rw [found] at h
      exact ⟨_, h⟩
    | finished result =>
      rw [found] at h
      exact ⟨_, h⟩

/-- A publish whose frame does not go over the wire takes nothing that the others could miss. -/
theorem own (h : Unmade i p p.holdsPlace.toNat d d') (sound : d.Sound window) {m : Move}
    (mine : m.isOf i = true) (unsent : ∀ s ∈ (d.act m).sent, s.call ≠ i) :
    ∃ p', Unmade i p' p'.holdsPlace.toNat (d.act m) d' := by
  obtain rfl | rfl | ⟨result, rfl⟩ := Move.of_isOf mine
  · exact ⟨p, h.cancel_self⟩
  · exact h.advance_self sound unsent
  · have unsent' : ∀ s ∈ d.sent, s.call ≠ i := fun s mem =>
      unsent s (subset_sent_act d (.written i result) mem)
    refine ⟨p, ?_⟩
    show Unmade i p _ (d.written i result) d'
    unfold Desk.written
    split
    · next known =>
      -- its frame would be on the wire
      obtain ⟨s, mem, same, _⟩ := sound.numbered.own i _ (.inl (phase_of_call known))
      exact absurd same (unsent' s mem)
    · exact h

end Unmade

end Desk

end Courier.Confirm
