import Courier.Proofs.Confirm.Desk
import Courier.Proofs.Confirm.Family

/-!
# What a lane shares

A lane keeps its key, and does to the tracker it shares with others nothing but operations under
that key (`Desk.tracker_act`). What it does depends on the lane and the tracker alone, not on what
it has handed to the wire or reported (`Desk.act_bare`).
-/

namespace Courier.Confirm.Desk
set_option autoImplicit false

variable {d d' : Desk} {dealt : List (Nat × Confirmation)}

/-! ## Operations under the lane's key -/

theorem Change.key (c : d.Change d' dealt) : d'.lane.key = d.lane.key := by
  cases c with
  | dealt =>
    show (Desk.resolve _ _ _).lane.key = _
    rw [lane_resolve]
  | _ => rfl

theorem key_act (d : Desk) (m : Move) : (d.act m).lane.key = d.lane.key := (d.act_change m).key

theorem Change.tracker (c : d.Change d' dealt) :
    d'.tracker = d.tracker ∨
      ∃ op, Tracker.Op.channel op = d.lane.key ∧ d'.tracker = d.tracker.act op := by
  cases c with
  | wrote => exact .inr ⟨.track d.lane.key d.lane.next, rfl, rfl⟩
  | @failed i n => exact .inr ⟨.forget d.lane.key n, rfl, rfl⟩
  | @dealt j n a =>
    right
    cases a with
    | ack | notRequested => exact ⟨.ack d.lane.key n false, rfl, rfl⟩
    | nack | lost => exact ⟨.nack d.lane.key n false, rfl, rfl⟩
  | _ => exact .inl rfl

/-- A move does one thing to the tracker at most, under the lane's key. -/
theorem tracker_act (d : Desk) (m : Move) :
    (d.act m).tracker = d.tracker ∨
      ∃ op, Tracker.Op.channel op = d.lane.key ∧ (d.act m).tracker = d.tracker.act op :=
  (d.act_change m).tracker

theorem pendingFor_act_of_ne {other : String} (m : Move) (apart : d.lane.key ≠ other) :
    (d.act m).tracker.pendingFor other = d.tracker.pendingFor other := by
  obtain same | ⟨op, under, done⟩ := d.tracker_act m
  · rw [same]
  · rw [done]
    apply Tracker.pendingFor_act_of_ne
    rw [under]
    exact apart

theorem wellFormed_act (m : Move) (h : d.tracker.WellFormed) : (d.act m).tracker.WellFormed := by
  obtain same | ⟨op, _, done⟩ := d.tracker_act m
  · rw [same]
    exact h
  · rw [done]
    exact h.act op

/-- Nothing is counted but by dealing with a confirmation. -/
theorem counts_act (m : Move) (other : ∀ k, m ≠ .unwatch k) :
    (d.act m).tracker.acked = d.tracker.acked ∧ (d.act m).tracker.nacked = d.tracker.nacked := by
  have change := d.act_change m
  have none : d.dealing m = [] := by
    cases m with
    | unwatch k => exact absurd rfl (other k)
    | _ => rfl
  rw [none] at change
  generalize d.act m = d' at change
  cases change <;> exact ⟨rfl, rfl⟩

/-- What is counted is what is taken out under the lane's key. -/
theorem counts_unwatch (h : d.tracker.WellFormed) (k : Nat) :
    (d.unwatch k).tracker.acked + (d.unwatch k).tracker.nacked
        + ((d.unwatch k).tracker.pendingFor d.lane.key).length
      = d.tracker.acked + d.tracker.nacked + (d.tracker.pendingFor d.lane.key).length := by
  have taken (n acked nacked : Nat) :
      (Tracker.pendingFor ⟨Tracker.erase d.lane.key n false d.tracker.pending, acked, nacked⟩
          d.lane.key).length
        + d.tracker.covered d.lane.key n false = (d.tracker.pendingFor d.lane.key).length := by
    have parts := Tracker.length_eq_covered_add n false (d.tracker.pendingFor d.lane.key)
    have kept : Tracker.pendingFor
        ⟨Tracker.erase d.lane.key n false d.tracker.pending, acked, nacked⟩ d.lane.key
          = (d.tracker.pendingFor d.lane.key).filter fun m => !covers n false m :=
      Tracker.lookup_erase_self h.keys
    rw [kept]
    unfold Tracker.covered
    omega
  unfold unwatch
  split
  · next n a _ =>
    show (d.resolve n a).tracker.acked + (d.resolve n a).tracker.nacked
      + ((d.resolve n a).tracker.pendingFor d.lane.key).length = _
    cases a with
    | ack | notRequested =>
      have taken :=
        taken n (d.tracker.acked + d.tracker.covered d.lane.key n false) d.tracker.nacked
      simp only [resolve, Tracker.ack]
      omega
    | nack | lost =>
      have taken :=
        taken n d.tracker.acked (d.tracker.nacked + d.tracker.covered d.lane.key n false)
      simp only [resolve, Tracker.nack]
      omega
  · rfl

/-! ## The lane and the tracker alone -/

/-- A desk that has handed over and reported nothing. -/
def bare (d : Desk) : Desk := ⟨d.lane, d.tracker, [], []⟩

/-- A desk with something handed over and reported before. -/
def behind (d : Desk) (sent : List Sent) (log : List Log.Event) : Desk :=
  { d with sent := sent ++ d.sent, log := log ++ d.log }

theorem bare_behind (d : Desk) : d.bare.behind d.sent d.log = d := by
  simp [bare, behind]

/-- What was handed over and reported before makes no difference to a move. -/
theorem act_bare (d : Desk) (m : Move) : d.act m = (d.bare.act m).behind d.sent d.log := by
  have stays := d.bare_behind.symm
  obtain ⟨lane, tracker, sent, log⟩ := d
  cases m with
  | call | cancel | confirm | loseAll =>
    simp [act, bare, behind, call, cancel, confirm, loseAll]
  | advance i =>
    simp only [act, advance, bare]
    cases lane.calls[i]? with
    | none => exact stays
    | some c =>
      dsimp only
      cases c.phase with
      | arriving | placed =>
        dsimp only
        split <;> simp [behind, setPhase, onWindow, onTurn]
      | awaitingPlace =>
        dsimp only
        by_cases fired : c.cancelled = true <;> by_cases ready : lane.window.isReady i = true <;>
          simp [fired, ready, behind, setPhase, onWindow]
      | awaitingTurn =>
        dsimp only
        by_cases fired : c.cancelled = true <;> by_cases ready : lane.turn.isReady i = true <;>
          simp [fired, ready, behind, setPhase, onWindow, onTurn, write]
      | writing | finished => exact stays
  | written i result =>
    simp only [act, written, bare]
    split
    · cases result <;> simp [behind, setPhase, onWindow, onTurn]
    · exact stays
  | unwatch k =>
    simp only [act, unwatch, bare]
    split
    · next n a _ => cases a <;> simp [behind, resolve, onWindow]
    · exact stays

end Courier.Confirm.Desk
