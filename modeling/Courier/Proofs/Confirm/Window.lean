import Courier.Proofs.Confirm.Ledger
import Courier.Proofs.Lists
import Mathlib.Data.List.Perm.Subperm

/-!
# The window of outstanding confirmations

In every run of a lane the tracker has outstanding exactly what is being written or waits for its
confirmation, never more than the window has places; every place is free, held by a publish, or kept
for a confirmation; and each confirmation dealt with is counted once (`Run.window_conserved`).
-/

namespace Courier.Confirm
set_option autoImplicit false

namespace Desk

/-- Whether a publish holds a place in the window: one it has taken up, or one that is ready for
it. -/
def holds (d : Desk) (i : Nat) : Bool :=
  match d.phase i with
  | some .awaitingPlace => d.lane.window.isReady i
  | some p => p.holdsPlace
  | none => false

/-- The publishes that hold a place. -/
def holders (d : Desk) : List Nat := (List.range d.lane.calls.length).filter d.holds

/-- Counting the members of a list by their indices. -/
theorem countP_range_getElem? {α : Type} (xs : List α) (q : α → Bool) :
    (List.range xs.length).countP (fun i => xs[i]?.any q) = xs.countP q := by
  induction xs with
  | nil => rfl
  | cons x xs ih =>
    rw [List.length_cons, List.range_succ_eq_map, List.countP_cons, List.countP_map, List.countP_cons,
      ← ih]
    rfl

theorem countP_range_mem {xs : List Nat} {n : Nat} (once : xs.Nodup) (below : ∀ i ∈ xs, i < n) :
    (List.range n).countP (fun i => xs.contains i) = xs.length := by
  rw [List.countP_eq_length_filter]
  apply List.Perm.length_eq
  rw [List.perm_ext_iff_of_nodup (List.nodup_range.filter _) once]
  intro i
  rw [List.mem_filter, List.mem_range, List.contains_iff_mem]
  exact ⟨fun h => h.2, fun h => ⟨below i h, h⟩⟩

variable {d : Desk} {window : Nat}

/-- The holders are those whose place is ready and those who have taken one up. -/
theorem Balanced.length_holders (h : d.Balanced window) :
    d.holders.length = d.lane.window.ready.length + d.count Phase.holdsPlace := by
  have waits (i : Nat) (ready : i ∈ d.lane.window.ready) : d.phase i = some .awaitingPlace :=
    (h.windowLine.mem i).1 (Gate.mem_standing_of_ready ready)
  have once : d.lane.window.ready.Nodup := h.windowLine.once.sublist (List.sublist_append_right _ _)
  have length : d.lane.calls.length = d.phases.length := (List.length_map _).symm
  have below (i : Nat) (ready : i ∈ d.lane.window.ready) : i < d.phases.length :=
    (List.getElem?_eq_some_iff.1 (waits i ready)).1
  -- a ready place is that of a publish that waits, so no publish is counted twice
  have disjoint (i : Nat) (ready : d.lane.window.ready.contains i = true) :
      (d.phase i).any Phase.holdsPlace = false := by
    rw [waits i (List.contains_iff_mem.1 ready)]
    rfl
  have split (i : Nat) : d.holds i
      = (d.lane.window.ready.contains i || (d.phase i).any Phase.holdsPlace) := by
    unfold holds
    cases ready : d.lane.window.ready.contains i with
    | true =>
      rw [waits i (List.contains_iff_mem.1 ready)]
      exact ready
    | false =>
      rw [Bool.false_or]
      cases d.phase i with
      | none => rfl
      | some p =>
        cases p with
        | awaitingPlace => exact ready
        | _ => rfl
  unfold holders
  rw [← List.countP_eq_length_filter, funext split, length,
    countP_or_of_disjoint fun i _ => disjoint i, countP_range_mem once below]
  exact congrArg _ (countP_range_getElem? d.phases Phase.holdsPlace)

/-- Whoever writes holds a place. -/
theorem count_isWriting_le (d : Desk) : d.count Phase.isWriting ≤ d.count Phase.holdsPlace := by
  apply List.countP_mono_left
  intro p _ writes
  cases p with
  | writing n => rfl
  | _ => cases writes

/-- No more numbers are outstanding than the window has places. -/
theorem Accounted.length_pendingFor {key : String} {dealt : List (Nat × Confirmation)}
    {acked nacked : Nat} (h : d.Accounted key dealt acked nacked) (balanced : d.Balanced window) :
    (d.tracker.pendingFor key).length ≤ max window 1 := by
  have once : (d.tracker.pendingFor key).Nodup := (h.wellFormed.pendingFor key).imp Nat.ne_of_lt
  -- the numbers being written are all the next one
  have within : d.tracker.pendingFor key
      ⊆ d.lane.watched ++ List.replicate (d.count Phase.isWriting) d.lane.next := by
    intro n mem
    obtain waits | writes := (h.pending n).1 mem
    · exact List.mem_append_left _ waits
    · have pos : d.count Phase.isWriting ≠ 0 :=
        Nat.ne_of_gt (List.countP_pos_iff.2 ⟨_, writes, rfl⟩)
      exact List.mem_append_right _ (List.mem_replicate.2 ⟨pos, h.writing n writes⟩)
  have length := (List.Nodup.subperm once within).length_le
  have watched : d.lane.watched.length = d.lane.watches.length := List.length_map _
  have places := balanced.places
  have writers := d.count_isWriting_le
  rw [List.length_append, List.length_replicate, watched] at length
  unfold Gate.places at places
  omega

/-- What others do to the tracker under other keys leaves a lane's account as it is. -/
theorem Accounted.elsewhere {key : String} {dealt : List (Nat × Confirmation)} {acked nacked : Nat}
    (h : d.Accounted key dealt acked nacked) {op : Tracker.Op} (apart : op.channel ≠ key) :
    Accounted key dealt (acked + ((d.tracker.act op).acked - d.tracker.acked))
      (nacked + ((d.tracker.act op).nacked - d.tracker.nacked))
      { d with tracker := d.tracker.act op } where
  named := h.named
  wellFormed := h.wellFormed.act op
  pending n := by
    show n ∈ (d.tracker.act op).pendingFor key ↔ _
    rw [Tracker.pendingFor_act_of_ne apart]
    exact h.pending n
  writing := h.writing
  once := h.once
  written := h.written
  apart := h.apart
  below := h.below
  ackedCount := by
    have more := Tracker.acked_le_act d.tracker op
    have before := h.ackedCount
    dsimp only
    omega
  nackedCount := by
    have more := Tracker.nacked_le_act d.tracker op
    have before := h.nackedCount
    dsimp only
    omega

end Desk

namespace Run

variable {key : String} {window : Nat} {r : Run}

/-- In every run the places are balanced and the tracker agrees with the lane. -/
theorem Reachable.sound (reached : Reachable key window r) :
    r.desk.Balanced window ∧ r.desk.Accounted key r.dealt r.ackedElsewhere r.nackedElsewhere := by
  induction reached with
  | start => exact ⟨Desk.balanced_start key window, Desk.accounted_start key window⟩
  | @own r _ m ih =>
    obtain ⟨balanced, accounted⟩ := ih
    have change := r.desk.act_change m
    exact ⟨balanced.change change, accounted.change balanced change⟩
  | elsewhere _ op apart ih =>
    obtain ⟨balanced, accounted⟩ := ih
    exact ⟨balanced.of_lane rfl, accounted.elsewhere apart⟩

/-- The window is conserved. In every run of a lane, whatever others do to the tracker under other
keys: outstanding under the lane's key are, each once, the numbers that are being written and those
that were written and whose confirmation has not been dealt with; the places of the window are free,
held by publishes or kept for such confirmations, so that no more numbers are outstanding than there
are places; and each confirmation dealt with, nothing else, is counted by the lane, once and as what
it is. -/
theorem window_conserved (reached : Reachable key window r) :
    (∀ n, n ∈ r.desk.tracker.pendingFor key ↔
      .writing n ∈ r.desk.phases ∨
        .finished (.ok n) ∈ r.desk.phases ∧ n ∉ r.dealt.map (·.1)) ∧
    (r.desk.tracker.pendingFor key).Pairwise (· < ·) ∧
    (∀ n, n ∈ r.desk.lane.watches.map (·.sequence) ↔
      .finished (.ok n) ∈ r.desk.phases ∧ n ∉ r.dealt.map (·.1)) ∧
    (r.desk.lane.watches.map (·.sequence)).Nodup ∧
    r.desk.lane.window.free + r.desk.holders.length + r.desk.lane.watches.length = max 1 window ∧
    (r.desk.tracker.pendingFor key).length ≤ max 1 window ∧
    r.desk.tracker.acked = r.ackedElsewhere + r.dealt.countP (·.2.isAck) ∧
    r.desk.tracker.nacked = r.nackedElsewhere + r.dealt.countP (!·.2.isAck) := by
  obtain ⟨balanced, accounted⟩ := reached.sound
  have watched (n : Nat) : n ∈ r.desk.lane.watched ↔
      .finished (.ok n) ∈ r.desk.phases ∧ n ∉ r.dealt.map (·.1) := by
    rw [accounted.written]
    constructor
    · intro mem
      exact ⟨.inl mem, accounted.apart n mem⟩
    · rintro ⟨mem | mem, apart⟩
      · exact mem
      · exact (apart mem).elim
  refine ⟨fun n => ?_, accounted.wellFormed.pendingFor key, watched, accounted.once, ?_, ?_,
    accounted.ackedCount, accounted.nackedCount⟩
  · rw [accounted.pending, watched, or_comm]
  · have places := balanced.places
    rw [balanced.length_holders, Nat.max_comm, ← places]
    unfold Gate.places
    omega
  · rw [Nat.max_comm]
    exact accounted.length_pendingFor balanced

/-- The run that some moves make. -/
def after (key : String) (window : Nat) (moves : List Move) : Run := moves.foldl own (start key window)

/-- Every list of moves makes a run. -/
theorem reachable_after (key : String) (window : Nat) (moves : List Move) :
    Reachable key window (after key window moves) := by
  have from_ (r : Run) (reached : Reachable key window r) :
      Reachable key window (moves.foldl own r) := by
    induction moves generalizing r with
    | nil => exact reached
    | cons m moves ih => exact ih (r.own m) (reached.own m)
  exact from_ _ .start

/-- Two publishes in a window of one place: the first is written, and refused by the broker, while
the second waits for its place. -/
def refused : List Move :=
  let frame : Frame := ⟨"", "", [], {}⟩
  [.call frame false, .call frame false, .advance 0, .advance 1, .advance 0, .advance 0, .advance 0,
    .written 0 (.ok ()), .advance 1, .confirm 1 (.nack none), .unwatch 0]

/-- The second has the place by then, nothing is outstanding, and one refusal was counted. -/
theorem window_conserved_refused :
    let r := after "k" 0 refused
    (∀ n, n ∈ r.desk.tracker.pendingFor "k" ↔
      .writing n ∈ r.desk.phases ∨
        .finished (.ok n) ∈ r.desk.phases ∧ n ∉ r.dealt.map (·.1)) ∧
    r.desk.lane.window.free + r.desk.holders.length + r.desk.lane.watches.length = max 1 0 ∧
    r.desk.holders = [1] ∧ r.desk.tracker.nacked = r.nackedElsewhere + 1 := by
  obtain ⟨pending, _, _, _, places, _, _, nacked⟩ :=
    window_conserved (reachable_after "k" 0 refused)
  exact ⟨pending, places, rfl, nacked⟩

end Run

end Courier.Confirm
