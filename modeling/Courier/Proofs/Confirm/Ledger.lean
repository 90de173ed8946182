import Courier.Proofs.Confirm.Balance
import Courier.Proofs.Confirm.Tracker
import Mathlib.Data.List.Perm.Basic

/-!
# What is outstanding and what was counted

The numbers that the tracker has outstanding for a lane are those that are being written and those
that were written and whose confirmation has not been dealt with; what the lane has counted are the
confirmations it has dealt with (`Desk.Accounted`).
-/

namespace Courier.Confirm
set_option autoImplicit false

/-- Whether a confirmation is counted as one; if not, it is counted as a refusal. -/
def Confirmation.isAck : Confirmation → Bool
  | .ack _ | .notRequested => true
  | .nack _ | .lost _ => false

/-- The numbers whose confirmations have not been dealt with. -/
def Lane.watched (l : Lane) : List Nat := l.watches.map (·.sequence)

namespace Desk

/-- What the tracker says about a lane agrees with what has happened on the lane: the confirmations
dealt with are given, and what others have counted. -/
structure Accounted (key : String) (dealt : List (Nat × Confirmation)) (acked nacked : Nat)
    (d : Desk) : Prop where
  named : d.lane.key = key
  wellFormed : d.tracker.WellFormed
  pending : ∀ n, n ∈ d.tracker.pendingFor key ↔ n ∈ d.lane.watched ∨ .writing n ∈ d.phases
  writing : ∀ n, .writing n ∈ d.phases → n = d.lane.next
  once : d.lane.watched.Nodup
  written : ∀ n, .finished (.ok n) ∈ d.phases ↔ n ∈ d.lane.watched ∨ n ∈ dealt.map (·.1)
  apart : ∀ n ∈ d.lane.watched, n ∉ dealt.map (·.1)
  below : ∀ n, .finished (.ok n) ∈ d.phases → n < d.lane.next
  ackedCount : d.tracker.acked = acked + dealt.countP (·.2.isAck)
  nackedCount : d.tracker.nacked = nacked + dealt.countP (!·.2.isAck)

variable {d d' : Desk} {key : String} {dealt : List (Nat × Confirmation)}
  {acked nacked window i n m : Nat} {p p' : Phase}

/-- After the one that was writing has gone on, nobody writes. -/
theorem Balanced.not_writing (h : d.Balanced window) (known : d.phase i = some (.writing n))
    (after : p' ≠ .writing m) : .writing m ∉ (d.setPhase i p').phases := by
  intro mem
  obtain ⟨j, found⟩ := List.mem_iff_getElem?.1 mem
  change (d.setPhase i p').phase j = _ at found
  rw [phase_setPhase known] at found
  split at found
  · exact after (Option.some.inj found)
  · next other => exact other (h.writer_unique known found)

theorem accounted_start (key : String) (window : Nat) :
    (Run.start key window).desk.Accounted key [] 0 0 where
  named := rfl
  wellFormed := Tracker.wellFormed_empty
  pending n := by
    constructor
    · intro mem
      cases mem
    · rintro (mem | mem) <;> cases mem
  writing n mem := by cases mem
  once := List.nodup_nil
  written n := by
    constructor
    · intro mem
      cases mem
    · rintro (mem | mem) <;> cases mem
  apart n mem := by cases mem
  below n mem := by cases mem
  ackedCount := rfl
  nackedCount := rfl

namespace Accounted

/-- A change that neither begins nor ends a write and deals with no confirmation. -/
theorem quiet (h : d.Accounted key dealt acked nacked) (same : d'.lane.key = d.lane.key)
    (next : d'.lane.next = d.lane.next) (tracker : d'.tracker = d.tracker)
    (watched : d'.lane.watched = d.lane.watched)
    (writing : ∀ n, .writing n ∈ d'.phases ↔ .writing n ∈ d.phases)
    (written : ∀ n, .finished (.ok n) ∈ d'.phases ↔ .finished (.ok n) ∈ d.phases) :
    d'.Accounted key dealt acked nacked where
  named := same.trans h.named
  wellFormed := by
    rw [tracker]
    exact h.wellFormed
  pending n := by
    rw [tracker, watched, writing]
    exact h.pending n
  writing n mem := by
    rw [next]
    exact h.writing n ((writing n).1 mem)
  once := by
    rw [watched]
    exact h.once
  written n := by
    rw [written, watched]
    exact h.written n
  apart n mem := by
    rw [watched] at mem
    exact h.apart n mem
  below n mem := by
    rw [next]
    exact h.below n ((written n).1 mem)
  ackedCount := by
    rw [tracker]
    exact h.ackedCount
  nackedCount := by
    rw [tracker]
    exact h.nackedCount

/-- A publish that goes from one phase to another, neither beginning nor ending a write. -/
theorem quiet_setPhase (h : d.Accounted key dealt acked nacked) (known : d.phase i = some p)
    (phases : d'.phases = (d.setPhase i p').phases) (same : d'.lane.key = d.lane.key)
    (next : d'.lane.next = d.lane.next) (tracker : d'.tracker = d.tracker)
    (watched : d'.lane.watched = d.lane.watched)
    (before : ∀ n, p ≠ .writing n ∧ p ≠ .finished (.ok n))
    (after : ∀ n, .writing n ≠ p' ∧ .finished (.ok n) ≠ p') :
    d'.Accounted key dealt acked nacked := by
  refine h.quiet same next tracker watched (fun n => ?_) (fun n => ?_)
  · rw [phases, mem_phases_setPhase known (before n).1]
    exact or_iff_right (after n).1
  · rw [phases, mem_phases_setPhase known (before n).2]
    exact or_iff_right (after n).2

/-- A frame is handed to the wire: its number is outstanding from then on. -/
theorem wrote (h : d.Accounted key dealt acked nacked) (known : d.phase i = some .awaitingTurn)
    (phases : d'.phases = (d.setPhase i (.writing d.lane.next)).phases)
    (same : d'.lane.key = d.lane.key) (next : d'.lane.next = d.lane.next)
    (tracker : d'.tracker = d.tracker.track d.lane.key d.lane.next)
    (watched : d'.lane.watched = d.lane.watched) : d'.Accounted key dealt acked nacked := by
  have writing (n : Nat) : .writing n ∈ d'.phases ↔ n = d.lane.next ∨ .writing n ∈ d.phases := by
    rw [phases, mem_phases_setPhase known Phase.noConfusion, Phase.writing.injEq]
  have written (n : Nat) : .finished (.ok n) ∈ d'.phases ↔ .finished (.ok n) ∈ d.phases := by
    rw [phases, mem_phases_setPhase known Phase.noConfusion]
    exact or_iff_right Phase.noConfusion
  constructor
  case named =>
    exact same.trans h.named
  case wellFormed =>
    rw [tracker]
    exact h.wellFormed.track _ _
  case pending =>
    intro n
    rw [tracker, h.named, Tracker.mem_track_self, h.pending, writing, watched]
    exact or_left_comm
  case writing =>
    intro n mem
    rw [next]
    obtain same | mem := (writing n).1 mem
    · exact same
    · exact h.writing n mem
  case once =>
    rw [watched]
    exact h.once
  case written =>
    intro n
    rw [written, watched]
    exact h.written n
  case apart =>
    intro n mem
    rw [watched] at mem
    exact h.apart n mem
  case below =>
    intro n mem
    rw [next]
    exact h.below n ((written n).1 mem)
  case ackedCount =>
    rw [tracker]
    exact h.ackedCount
  case nackedCount =>
    rw [tracker]
    exact h.nackedCount

/-- A frame was written: its number waits for its confirmation, and the next one is used next. -/
theorem wroteAll (h : d.Accounted key dealt acked nacked) (balanced : d.Balanced window)
    (known : d.phase i = some (.writing n))
    (phases : d'.phases = (d.setPhase i (.finished (.ok n))).phases)
    (same : d'.lane.key = d.lane.key) (next : d'.lane.next = d.lane.next + 1)
    (tracker : d'.tracker = d.tracker) (watched : d'.lane.watched = d.lane.watched ++ [n]) :
    d'.Accounted key dealt acked nacked := by
  have here : .writing n ∈ d.phases := List.mem_of_getElem? known
  have current : n = d.lane.next := h.writing n here
  have alone (m : Nat) : .writing m ∈ d.phases ↔ m = n := by
    constructor
    · intro mem
      rw [current]
      exact h.writing m mem
    · rintro rfl
      exact here
  have writing (m : Nat) : .writing m ∉ d'.phases := by
    rw [phases]
    exact balanced.not_writing known Phase.noConfusion
  have written (m : Nat) :
      .finished (.ok m) ∈ d'.phases ↔ m = n ∨ .finished (.ok m) ∈ d.phases := by
    rw [phases, mem_phases_setPhase known Phase.noConfusion, Phase.finished.injEq, Except.ok.injEq]
  have fresh : .finished (.ok n) ∉ d.phases := by
    intro mem
    have below := h.below n mem
    omega
  have unsettled : n ∉ d.lane.watched ∧ n ∉ dealt.map (·.1) := by
    rw [h.written, not_or] at fresh
    exact fresh
  constructor
  case named =>
    exact same.trans h.named
  case wellFormed =>
    rw [tracker]
    exact h.wellFormed
  case pending =>
    intro m
    rw [tracker, h.pending, watched, alone, List.mem_append, List.mem_singleton]
    exact (or_iff_left (writing m)).symm
  case writing =>
    intro m mem
    exact (writing m mem).elim
  case once =>
    rw [watched]
    exact (List.perm_append_singleton n _).nodup_iff.2 (List.nodup_cons.2 ⟨unsettled.1, h.once⟩)
  case written =>
    intro m
    rw [written, watched, List.mem_append, List.mem_singleton, h.written, or_comm, or_right_comm]
  case apart =>
    intro m mem
    rw [watched, List.mem_append, List.mem_singleton] at mem
    obtain mem | rfl := mem
    · exact h.apart m mem
    · exact unsettled.2
  case below =>
    intro m mem
    rw [next]
    obtain rfl | mem := (written m).1 mem
    · omega
    · exact Nat.lt_succ_of_lt (h.below m mem)
  case ackedCount =>
    rw [tracker]
    exact h.ackedCount
  case nackedCount =>
    rw [tracker]
    exact h.nackedCount

/-- A write failed: its number is outstanding no longer, and is used again. -/
theorem failed (h : d.Accounted key dealt acked nacked) (balanced : d.Balanced window)
    {error : BrokerError} (known : d.phase i = some (.writing n))
    (phases : d'.phases = (d.setPhase i (.finished (.error error))).phases)
    (same : d'.lane.key = d.lane.key) (next : d'.lane.next = d.lane.next)
    (tracker : d'.tracker = d.tracker.forget d.lane.key n)
    (watched : d'.lane.watched = d.lane.watched) : d'.Accounted key dealt acked nacked := by
  have here : .writing n ∈ d.phases := List.mem_of_getElem? known
  have current : n = d.lane.next := h.writing n here
  have writing (m : Nat) : .writing m ∉ d'.phases := by
    rw [phases]
    exact balanced.not_writing known Phase.noConfusion
  have written (m : Nat) : .finished (.ok m) ∈ d'.phases ↔ .finished (.ok m) ∈ d.phases := by
    rw [phases, mem_phases_setPhase known Phase.noConfusion, Phase.finished.injEq]
    exact or_iff_right nofun
  have other (m : Nat) (mem : m ∈ d.lane.watched) : m ≠ n := by
    have below := h.below m ((h.written m).2 (.inl mem))
    omega
  constructor
  case named =>
    exact same.trans h.named
  case wellFormed =>
    rw [tracker]
    exact h.wellFormed.erase _ n false _ _
  case pending =>
    intro m
    have kept : m ∈ d'.tracker.pendingFor key ↔ m ∈ d.tracker.pendingFor key ∧ m ≠ n := by
      rw [tracker, h.named, ← Tracker.covers_single]
      exact h.wellFormed.mem_erase_self _ _
    rw [kept, h.pending, watched, or_iff_left (writing m)]
    constructor
    · rintro ⟨mem | mem, ne⟩
      · exact mem
      · exact (ne ((h.writing m mem).trans current.symm)).elim
    · intro mem
      exact ⟨.inl mem, other m mem⟩
  case writing =>
    intro m mem
    exact (writing m mem).elim
  case once =>
    rw [watched]
    exact h.once
  case written =>
    intro m
    rw [written, watched]
    exact h.written m
  case apart =>
    intro m mem
    rw [watched] at mem
    exact h.apart m mem
  case below =>
    intro m mem
    rw [next]
    exact h.below m ((written m).1 mem)
  case ackedCount =>
    rw [tracker]
    exact h.ackedCount
  case nackedCount =>
    rw [tracker]
    exact h.nackedCount

/-- A confirmation was dealt with: its number is outstanding no longer, and is counted. -/
theorem settled (h : d.Accounted key dealt acked nacked) {j : Nat} {a : Confirmation}
    (known : d.lane.watches[j]? = some ⟨n, some a⟩) (phases : d'.phases = d.phases)
    (same : d'.lane.key = d.lane.key) (next : d'.lane.next = d.lane.next)
    (tracker : d'.tracker = (d.resolve n a).tracker)
    (watched : d'.lane.watched = d.lane.watched.eraseIdx j) :
    d'.Accounted key (dealt ++ [(n, a)]) acked nacked := by
  have at_ : d.lane.watched[j]? = some n := by
    unfold Lane.watched
    rw [List.getElem?_map, known]
    rfl
  have perm : (n :: d'.lane.watched).Perm d.lane.watched := by
    obtain ⟨bound, rfl⟩ := List.getElem?_eq_some_iff.1 at_
    rw [watched]
    exact List.getElem_cons_eraseIdx_perm bound
  obtain ⟨gone, once⟩ := List.nodup_cons.1 (perm.nodup_iff.2 h.once)
  have waits (m : Nat) : m ∈ d.lane.watched ↔ m = n ∨ m ∈ d'.lane.watched := by
    rw [← perm.mem_iff, List.mem_cons]
  have mem_settled (m : Nat) : m ∈ (dealt ++ [(n, a)]).map (·.1) ↔ m ∈ dealt.map (·.1) ∨ m = n := by
    rw [List.map_append, List.mem_append, List.map_singleton, List.mem_singleton]
  have below : n < d.lane.next := h.below n ((h.written n).2 (.inl ((waits n).2 (.inl rfl))))
  have counted : d.tracker.covered key n false = 1 :=
    h.wellFormed.covered_single ((h.pending n).2 (.inl ((waits n).2 (.inl rfl))))
  have kept (m : Nat) : m ∈ d'.tracker.pendingFor key ↔ m ∈ d.tracker.pendingFor key ∧ m ≠ n := by
    rw [tracker, ← Tracker.covers_single, ← h.named]
    cases a <;> exact h.wellFormed.mem_erase_self _ _
  constructor
  case named =>
    exact same.trans h.named
  case wellFormed =>
    rw [tracker]
    cases a <;> exact h.wellFormed.erase _ n false _ _
  case pending =>
    intro m
    rw [kept, h.pending, waits, phases]
    constructor
    · rintro ⟨(rfl | mem) | mem, ne⟩
      · exact (ne rfl).elim
      · exact .inl mem
      · exact .inr mem
    · rintro (mem | mem)
      · exact ⟨.inl (.inr mem), fun same => gone (same ▸ mem)⟩
      · refine ⟨.inr mem, fun same => ?_⟩
        have current := h.writing m mem
        omega
  case writing =>
    intro m mem
    rw [phases] at mem
    rw [next]
    exact h.writing m mem
  case once =>
    exact once
  case written =>
    intro m
    rw [phases, h.written, waits, mem_settled]
    constructor
    · rintro ((rfl | mem) | mem)
      · exact .inr (.inr rfl)
      · exact .inl mem
      · exact .inr (.inl mem)
    · rintro (mem | mem | rfl)
      · exact .inl (.inr mem)
      · exact .inr mem
      · exact .inl (.inl rfl)
  case apart =>
    intro m mem
    rw [mem_settled, not_or]
    exact ⟨h.apart m ((waits m).2 (.inr mem)), fun same => gone (same ▸ mem)⟩
  case below =>
    intro m mem
    rw [phases] at mem
    rw [next]
    exact h.below m mem
  case ackedCount =>
    rw [tracker, List.countP_append, List.countP_singleton, ← Nat.add_assoc, ← h.ackedCount]
    rw [← h.named] at counted
    cases a with
    | ack => exact congrArg (d.tracker.acked + ·) counted
    | notRequested => exact congrArg (d.tracker.acked + ·) counted
    | nack => rfl
    | lost => rfl
  case nackedCount =>
    rw [tracker, List.countP_append, List.countP_singleton, ← Nat.add_assoc, ← h.nackedCount]
    rw [← h.named] at counted
    cases a with
    | ack => rfl
    | notRequested => rfl
    | nack => exact congrArg (d.tracker.nacked + ·) counted
    | lost => exact congrArg (d.tracker.nacked + ·) counted

/-- Every change keeps the account, with what it deals with entered. -/
theorem change (h : d.Accounted key dealt acked nacked) (balanced : d.Balanced window)
    {more : List (Nat × Confirmation)} (c : d.Change d' more) :
    d'.Accounted key (dealt ++ more) acked nacked := by
  cases c with
  | @dealt j n a known =>
    have lane := lane_resolve d n a
    refine h.settled known ?_ ?_ ?_ rfl ?_
    · show (d.resolve n a).lane.calls.map _ = _
      rw [lane]
      rfl
    · show (d.resolve n a).lane.key = _
      rw [lane]
    · show (d.resolve n a).lane.next = _
      rw [lane]
    · show ((d.resolve n a).lane.watches.eraseIdx j).map _ = (d.lane.watches.map _).eraseIdx j
      rw [lane, List.eraseIdx_map]
  | none =>
    rw [List.append_nil]
    exact h
  | called frame cancelled =>
    rw [List.append_nil]
    have mem (p : Phase) (other : p ≠ .arriving) : p ∈ (d.call frame cancelled).phases ↔ p ∈ d.phases := by
      rw [phases_call, List.mem_append, List.mem_singleton]
      exact or_iff_left other
    exact h.quiet rfl rfl rfl rfl (fun n => mem _ nofun) (fun n => mem _ nofun)
  | told i =>
    rw [List.append_nil]
    have phases := phases_cancel d i
    exact h.quiet rfl rfl rfl rfl (fun n => by rw [phases]) (fun n => by rw [phases])
  | answered watches same =>
    rw [List.append_nil]
    exact h.quiet rfl rfl rfl same (fun n => .rfl) (fun n => .rfl)
  | wrote known call ready =>
    rw [List.append_nil]
    exact h.wrote known rfl rfl rfl rfl rfl
  | written known =>
    rw [List.append_nil]
    exact h.wroteAll balanced known rfl rfl rfl rfl List.map_append
  | failed known error log =>
    rw [List.append_nil]
    exact h.failed balanced known rfl rfl rfl rfl rfl
  | dropped known | queued known | leftWindow known | placed known ready | gaveUp known | lined known
  | leftTurn known =>
    rw [List.append_nil]
    exact h.quiet_setPhase known rfl rfl rfl rfl rfl (fun n => ⟨nofun, nofun⟩)
      (fun n => ⟨nofun, nofun⟩)

end Accounted

end Desk

end Courier.Confirm
