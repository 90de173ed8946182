import Courier.Proofs.Confirm.Window
import Mathlib.Algebra.Group.Nat.Defs

/-!
# Numbers in the order of the wire

Frames are handed to the wire one at a time, each under the number that follows those of the frames
written before it (`Desk.Numbered`). A frame that was not written leaves its number to the next.
-/

namespace Courier.Confirm
set_option autoImplicit false
open Amqp

/-- Whether a publish ended with its frame written. -/
def Phase.succeeded : Phase → Bool
  | .finished (.ok _) => true
  | _ => false

namespace Desk

/-- Whether a frame that was handed to the wire has been written. -/
def succeeded (d : Desk) (s : Sent) : Bool := (d.phase s.call).any Phase.succeeded

/-- The frames of the publishes, by their order of arrival. -/
def frames (d : Desk) : List Frame := d.lane.calls.map (·.frame)

/-- How the frames on the wire are numbered. -/
structure Numbered (d : Desk) : Prop where
  /-- Each is or was written for a publish. -/
  handed : ∀ s ∈ d.sent, d.phase s.call = some (.writing s.sequence) ∨
    d.phase s.call = some (.finished (.ok s.sequence)) ∨
    ∃ e, d.phase s.call = some (.finished (.error e))
  once : (d.sent.map (·.call)).Nodup
  /-- The one that is being written is the last. -/
  last : ∀ (k : Nat) (s : Sent) (n : Nat), d.sent[k]? = some s →
    d.phase s.call = some (.writing n) → k + 1 = d.sent.length
  number : ∀ (k : Nat) (s : Sent), d.sent[k]? = some s →
    s.sequence = 1 + (d.sent.take k).countP d.succeeded
  next : d.lane.next = 1 + d.sent.countP d.succeeded
  frame : ∀ s ∈ d.sent, ∃ f, d.frames[s.call]? = some f ∧
    s.frame = { f with properties := f.properties.withSequence s.sequence }
  outstanding : ∀ s ∈ d.sent, s.outstanding = true
  /-- A publish that writes or has written did so under its frame's number. -/
  own : ∀ i n, d.phase i = some (.writing n) ∨ d.phase i = some (.finished (.ok n)) →
    ∃ s ∈ d.sent, s.call = i ∧ s.sequence = n

variable {d d' : Desk} {dealt : List (Nat × Confirmation)} {window i n : Nat} {p p' : Phase}

/-- Nobody writes while the turn to is ready for somebody. -/
theorem Balanced.not_writing_of_ready (h : d.Balanced window) {j : Nat}
    (ready : i ∈ d.lane.turn.ready) : d.phase j ≠ some (.writing n) := by
  intro writes
  have turns := h.turns
  have place := List.length_pos_of_mem ready
  have writer : 0 < d.count Phase.isWriting := count_pos writes rfl
  unfold Gate.places at turns
  omega

theorem numbered_start (key : String) (window : Nat) : (Run.start key window).desk.Numbered where
  handed s mem := by cases mem
  once := List.nodup_nil
  last k s n found := by cases found
  number k s found := by cases found
  next := rfl
  frame s mem := by cases mem
  outstanding s mem := by cases mem
  own i n known := by rcases known with known | known <;> cases known

theorem countP_succeeded {xs : List Sent} (same : ∀ s ∈ xs, d'.phase s.call = d.phase s.call) :
    xs.countP d'.succeeded = xs.countP d.succeeded := by
  apply List.countP_congr
  intro s mem
  unfold succeeded
  rw [same s mem]

theorem frames_setPhase (d : Desk) (i : Nat) (p : Phase) :
    (d.setPhase i p).frames = d.frames := by
  apply map_modify_eq_map
  intro c
  rfl

theorem frames_cancel (d : Desk) (i : Nat) : (d.cancel i).frames = d.frames := by
  apply map_modify_eq_map
  intro c
  rfl

theorem mem_concat {α : Type} {xs : List α} {x y : α} : y ∈ xs ++ [x] ↔ y ∈ xs ∨ x = y := by
  rw [List.mem_append, List.mem_singleton, eq_comm]

theorem getElem?_concat {α : Type} {xs : List α} {x y : α} {k : Nat}
    (found : (xs ++ [x])[k]? = some y) : xs[k]? = some y ∨ k = xs.length ∧ x = y := by
  obtain before | last := Nat.lt_or_ge k xs.length
  · rw [List.getElem?_append_left before] at found
    exact .inl found
  · have bound := (List.getElem?_eq_some_iff.1 found).1
    rw [List.length_append, List.length_singleton] at bound
    obtain rfl : k = xs.length := by omega
    rw [List.getElem?_concat_length] at found
    exact .inr ⟨rfl, Option.some.inj found⟩

namespace Numbered

/-- A change that touches no publish with a frame on the wire, and lets no other write or have
written. -/
theorem quiet (h : d.Numbered) (sent : d'.sent = d.sent) (next : d'.lane.next = d.lane.next)
    (frames : ∀ (i : Nat) (f : Frame), d.frames[i]? = some f → d'.frames[i]? = some f)
    (phase : ∀ s ∈ d.sent, d'.phase s.call = d.phase s.call)
    (own : ∀ i n, (d'.phase i = some (.writing n) → d.phase i = some (.writing n)) ∧
      (d'.phase i = some (.finished (.ok n)) → d.phase i = some (.finished (.ok n)))) :
    d'.Numbered where
  handed s mem := by
    rw [sent] at mem
    rw [phase s mem]
    exact h.handed s mem
  once := by
    rw [sent]
    exact h.once
  last k s n found writes := by
    rw [sent] at found ⊢
    rw [phase s (List.mem_of_getElem? found)] at writes
    exact h.last k s n found writes
  number k s found := by
    rw [sent] at found ⊢
    rw [countP_succeeded fun s mem => phase s (List.mem_of_mem_take mem)]
    exact h.number k s found
  next := by
    rw [next, sent, countP_succeeded phase]
    exact h.next
  frame s mem := by
    rw [sent] at mem
    obtain ⟨f, found, same⟩ := h.frame s mem
    exact ⟨f, frames _ f found, same⟩
  outstanding s mem := by
    rw [sent] at mem
    exact h.outstanding s mem
  own i n known := by
    rw [sent]
    exact h.own i n (known.imp (own i n).1 (own i n).2)

/-- A publish without a frame on the wire is none of those that have one. -/
theorem call_ne (h : d.Numbered) (known : d.phase i = some p)
    (before : ∀ n e, p ≠ .writing n ∧ p ≠ .finished (.ok n) ∧ p ≠ .finished (.error e)) :
    ∀ s ∈ d.sent, s.call ≠ i := by
  rintro s mem rfl
  rcases h.handed s mem with found | found | ⟨e, found⟩
  · exact (before s.sequence .internal).1 (Option.some.inj (known.symm.trans found))
  · exact (before s.sequence .internal).2.1 (Option.some.inj (known.symm.trans found))
  · exact (before s.sequence e).2.2 (Option.some.inj (known.symm.trans found))

/-- A publish without a frame on the wire that goes on, but not to write. -/
theorem quiet_setPhase (h : d.Numbered) (known : d.phase i = some p)
    (phases : d'.phases = (d.setPhase i p').phases) (frames : d'.frames = (d.setPhase i p').frames)
    (sent : d'.sent = d.sent) (next : d'.lane.next = d.lane.next)
    (before : ∀ n e, p ≠ .writing n ∧ p ≠ .finished (.ok n) ∧ p ≠ .finished (.error e))
    (after : ∀ n, p' ≠ .writing n ∧ p' ≠ .finished (.ok n)) : d'.Numbered := by
  have phase (j : Nat) : d'.phase j = if i = j then some p' else d.phase j := by
    rw [← phase_setPhase known, Desk.phase, phases]
    rfl
  refine h.quiet sent next (fun j f found => ?_) (fun s mem => ?_) (fun j n => ?_)
  · rw [frames, frames_setPhase]
    exact found
  · rw [phase, if_neg (h.call_ne known before s mem).symm]
  · rw [phase]
    split
    · exact ⟨fun same => ((after n).1 (Option.some.inj same)).elim,
        fun same => ((after n).2 (Option.some.inj same)).elim⟩
    · exact ⟨id, id⟩

/-- A publish whose turn has come hands its frame to the wire. -/
theorem wrote (h : d.Numbered) (balanced : d.Balanced window)
    (known : d.phase i = some .awaitingTurn) (ready : i ∈ d.lane.turn.ready) {c : Call}
    (call : d.lane.calls[i]? = some c) {tracker : Tracker}
    (tracked : tracker.contains d.lane.key d.lane.next = true)
    (phases : d'.phases = (d.setPhase i (.writing d.lane.next)).phases)
    (frames : d'.frames = d.frames) (next : d'.lane.next = d.lane.next)
    (sent : d'.sent = d.sent ++ [⟨i, d.lane.next,
      { c.frame with properties := c.frame.properties.withSequence d.lane.next },
      tracker.contains d.lane.key d.lane.next⟩]) : d'.Numbered := by
  have phase (j : Nat) : d'.phase j = if i = j then some (.writing d.lane.next) else d.phase j := by
    rw [← phase_setPhase known, Desk.phase, phases]
    rfl
  have here : d'.phase i = some (.writing d.lane.next) := by rw [phase, if_pos rfl]
  have others : ∀ s ∈ d.sent, s.call ≠ i := h.call_ne known (by simp)
  have same : ∀ s ∈ d.sent, d'.phase s.call = d.phase s.call := by
    intro s mem
    rw [phase, if_neg (others s mem).symm]
  have before (s : Sent) (mem : s ∈ d.sent) (n : Nat) : d.phase s.call ≠ some (.writing n) :=
    balanced.not_writing_of_ready ready
  have count : d.sent.countP d'.succeeded = d.sent.countP d.succeeded := countP_succeeded same
  constructor
  case handed =>
    intro s mem
    rw [sent] at mem
    obtain mem | rfl := mem_concat.1 mem
    · rw [same s mem]
      exact h.handed s mem
    · exact .inl here
  case once =>
    rw [sent, List.map_append, List.map_singleton]
    refine (List.perm_append_singleton i _).nodup_iff.2 (List.nodup_cons.2 ⟨fun mem => ?_, h.once⟩)
    obtain ⟨s, mem, mine⟩ := List.mem_map.1 mem
    exact others s mem mine
  case last =>
    intro k s n found writes
    rw [sent] at found ⊢
    obtain found | ⟨rfl, _⟩ := getElem?_concat found
    · have mem := List.mem_of_getElem? found
      rw [same s mem] at writes
      exact (before s mem n writes).elim
    · rw [List.length_append, List.length_singleton]
  case number =>
    intro k s found
    rw [sent] at found ⊢
    obtain found | ⟨rfl, rfl⟩ := getElem?_concat found
    · have bound := (List.getElem?_eq_some_iff.1 found).1
      rw [List.take_append_of_le_length (Nat.le_of_lt bound),
        countP_succeeded fun s mem => same s (List.mem_of_mem_take mem)]
      exact h.number k s found
    · rw [List.take_left' rfl, count]
      exact h.next
  case next =>
    rw [next, sent, List.countP_append, List.countP_singleton, count, succeeded, here]
    exact h.next
  case frame =>
    intro s mem
    rw [sent] at mem
    rw [frames]
    obtain mem | rfl := mem_concat.1 mem
    · exact h.frame s mem
    · refine ⟨c.frame, ?_, rfl⟩
      unfold Desk.frames
      rw [List.getElem?_map, call]
      rfl
  case outstanding =>
    intro s mem
    rw [sent] at mem
    obtain mem | rfl := mem_concat.1 mem
    · exact h.outstanding s mem
    · exact tracked
  case own =>
    intro j n known
    rw [sent]
    rw [phase] at known
    split at known
    · next mine =>
      subst mine
      refine ⟨_, mem_concat.2 (.inr rfl), rfl, ?_⟩
      obtain known | known := known
      · exact Phase.writing.inj (Option.some.inj known)
      · cases known
    · obtain ⟨s, mem, mine⟩ := h.own j n known
      exact ⟨s, mem_concat.2 (.inl mem), mine⟩

/-- The frame that is being written is the last on the wire, and the only one of its publish. -/
theorem sent_writing (h : d.Numbered) (known : d.phase i = some (.writing n)) :
    ∃ front s, d.sent = front ++ [s] ∧ s.call = i ∧ s.sequence = n ∧ ∀ t ∈ front, t.call ≠ i := by
  obtain ⟨s, mem, mine, number⟩ := h.own i n (.inl known)
  obtain ⟨k, found⟩ := List.mem_iff_getElem?.1 mem
  have last := h.last k s n found (mine ▸ known)
  have once := h.once
  obtain nothing | ⟨front, t, split⟩ := List.eq_nil_or_concat d.sent
  · rw [nothing] at mem
    cases mem
  · rw [List.concat_eq_append] at split
    rw [split] at found last
    rw [List.length_append, List.length_singleton] at last
    obtain rfl : k = front.length := by omega
    rw [List.getElem?_concat_length] at found
    cases found
    refine ⟨front, s, split, mine, number, fun t mem same => ?_⟩
    rw [split, List.map_append, List.map_singleton] at once
    have apart := (List.nodup_cons.1 ((List.perm_append_singleton s.call _).nodup_iff.1 once)).1
    exact apart (List.mem_map.2 ⟨t, mem, same.trans mine.symm⟩)

/-- A write ends: the number of a written frame is used up. -/
theorem ended (h : d.Numbered) (known : d.phase i = some (.writing n))
    (result : p' = .finished (.ok n) ∨ ∃ e, p' = .finished (.error e))
    (phases : d'.phases = (d.setPhase i p').phases) (frames : d'.frames = d.frames)
    (sent : d'.sent = d.sent) (next : d'.lane.next = d.lane.next + p'.succeeded.toNat) :
    d'.Numbered := by
  have phase (j : Nat) : d'.phase j = if i = j then some p' else d.phase j := by
    rw [← phase_setPhase known, Desk.phase, phases]
    rfl
  have here : d'.phase i = some p' := by rw [phase, if_pos rfl]
  obtain ⟨front, s₀, split, mine, number, others⟩ := h.sent_writing known
  have same : ∀ s ∈ front, d'.phase s.call = d.phase s.call := by
    intro s mem
    rw [phase, if_neg (others s mem).symm]
  have unwritten : d.succeeded s₀ = false := by
    unfold succeeded
    rw [mine, known]
    rfl
  have written : d'.succeeded s₀ = p'.succeeded := by
    unfold succeeded
    rw [mine, here]
    rfl
  have silent (m : Nat) : p' ≠ .writing m := by
    obtain rfl | ⟨e, rfl⟩ := result <;> simp
  have count : d'.sent.countP d'.succeeded = d.sent.countP d.succeeded + p'.succeeded.toNat := by
    rw [sent, split, List.countP_append, List.countP_append, countP_succeeded same,
      List.countP_singleton, List.countP_singleton, unwritten, written]
    cases p'.succeeded <;> rfl
  constructor
  case handed =>
    intro s mem
    rw [sent, split] at mem
    obtain mem | rfl := mem_concat.1 mem
    · rw [same s mem]
      exact h.handed s (split ▸ mem_concat.2 (.inl mem))
    · rw [mine, here, number]
      obtain rfl | ⟨e, rfl⟩ := result
      · exact .inr (.inl rfl)
      · exact .inr (.inr ⟨e, rfl⟩)
  case once =>
    rw [sent]
    exact h.once
  case last =>
    intro k s m found writes
    rw [phase] at writes
    split at writes
    · exact (silent m (Option.some.inj writes)).elim
    · rw [sent] at found ⊢
      exact h.last k s m found writes
  case number =>
    intro k s found
    rw [sent] at found ⊢
    have fewer : (d.sent.take k).countP d'.succeeded = (d.sent.take k).countP d.succeeded := by
      apply countP_succeeded
      intro s mem
      have bound := (List.getElem?_eq_some_iff.1 found).1
      rw [split, List.length_append, List.length_singleton] at bound
      rw [split, List.take_append_of_le_length (by omega)] at mem
      exact same s (List.mem_of_mem_take mem)
    rw [fewer]
    exact h.number k s found
  case next =>
    rw [next, count, h.next, Nat.add_assoc]
  case frame =>
    intro s mem
    rw [sent] at mem
    rw [frames]
    exact h.frame s mem
  case outstanding =>
    intro s mem
    rw [sent] at mem
    exact h.outstanding s mem
  case own =>
    intro j m ended
    rw [sent]
    rw [phase] at ended
    split at ended
    · next same =>
      subst same
      refine ⟨s₀, ?_, mine, ?_⟩
      · rw [split]
        exact mem_concat.2 (.inr rfl)
      · obtain ended | ended := ended
        · exact (silent m (Option.some.inj ended)).elim
        · obtain rfl | ⟨e, rfl⟩ := result
          · rw [number]
            cases ended
            rfl
          · cases ended
    · exact h.own j m ended

/-- Every change keeps the numbers in the order of the wire. -/
theorem change (h : d.Numbered) (balanced : d.Balanced window) (c : d.Change d' dealt) :
    d'.Numbered := by
  cases c with
  | none => exact h
  | called frame cancelled =>
    refine h.quiet rfl rfl (fun j f found => ?_) (fun s mem => ?_) (fun j n => ?_)
    · have bound := (List.getElem?_eq_some_iff.1 found).1
      have more : (d.call frame cancelled).frames = d.frames ++ [frame] := List.map_append
      rw [more, List.getElem?_append_left bound]
      exact found
    · rw [phase_call, if_neg]
      rintro new
      have none : d.phase s.call = .none := by
        rw [new, Desk.phase, List.getElem?_eq_none (Nat.le_refl _)]
      rcases h.handed s mem with known | known | ⟨e, known⟩ <;> rw [none] at known <;> cases known
    · rw [phase_call]
      split
      · simp
      · exact ⟨id, id⟩
  | told j =>
    have phases := phases_cancel d j
    have phase (i : Nat) : (d.cancel j).phase i = d.phase i := by
      unfold Desk.phase
      rw [phases]
    refine h.quiet rfl rfl (fun i f found => ?_) (fun s _ => phase s.call) (fun i n => ?_)
    · rw [frames_cancel]
      exact found
    · rw [phase]
      exact ⟨id, id⟩
  | answered watches same =>
    exact h.quiet rfl rfl (fun _ _ found => found) (fun _ _ => rfl) (fun _ _ => ⟨id, id⟩)
  | @dealt j n a known =>
    have lane := lane_resolve d n a
    have calls : (d.resolve n a).lane.calls = d.lane.calls := by rw [lane]
    have phase (i : Nat) :
        Desk.phase (((d.resolve n a).onWindow (·.release)).withWatches
          ((d.resolve n a).lane.watches.eraseIdx j)) i = d.phase i := by
      show ((d.resolve n a).lane.calls.map _)[i]? = _
      rw [calls]
      rfl
    refine h.quiet (sent_resolve d n a) ?_ (fun i f found => ?_) (fun s _ => phase s.call)
      (fun i n => ?_)
    · show (d.resolve n a).lane.next = _
      rw [lane]
    · show ((d.resolve n a).lane.calls.map _)[i]? = _
      rw [calls]
      exact found
    · rw [phase]
      exact ⟨id, id⟩
  | wrote known call ready =>
    have tracked : (d.tracker.track d.lane.key d.lane.next).contains d.lane.key d.lane.next = true :=
      List.contains_iff_mem.2 (Tracker.mem_track_self.2 (.inl rfl))
    exact h.wrote balanced known ready call tracked rfl (frames_setPhase _ _ _) rfl rfl
  | written known =>
    exact h.ended known (.inl rfl) rfl (frames_setPhase _ _ _) rfl rfl
  | failed known error log =>
    exact h.ended known (.inr ⟨error, rfl⟩) rfl (frames_setPhase _ _ _) rfl rfl
  | dropped known | queued known | leftWindow known | placed known ready | gaveUp known | lined known
  | leftTurn known =>
    exact h.quiet_setPhase known rfl rfl rfl rfl (by simp) (by simp)

end Numbered

theorem result?_eq_some {result : Except BrokerError Nat} :
    d.result? i = some result ↔ d.phase i = some (.finished result) := by
  unfold result? phase phases
  rw [List.getElem?_map]
  cases d.lane.calls[i]? with
  | none => simp
  | some c => cases known : c.phase <;> simp [known]

/-- The frames that were written bear the numbers from one on, in their order. -/
theorem Numbered.map_sequence (h : d.Numbered) :
    (d.sent.filter d.succeeded).map (·.sequence) = List.range' 1 (d.sent.countP d.succeeded) := by
  -- so does every front of what is on the wire
  have front (k : Nat) : ((d.sent.take k).filter d.succeeded).map (·.sequence)
      = List.range' 1 ((d.sent.take k).countP d.succeeded) := by
    induction k with
    | zero => rfl
    | succ k ih =>
      rw [List.take_add_one]
      cases found : d.sent[k]? with
      | none =>
        rw [Option.toList_none, List.append_nil]
        exact ih
      | some s =>
        rw [Option.toList_some, List.filter_append, List.map_append, ih, List.countP_append,
          List.countP_singleton]
        cases written : d.succeeded s with
        | false =>
          rw [List.filter_cons_of_neg (Bool.eq_false_iff.1 written)]
          exact List.append_nil _
        | true =>
          rw [List.filter_cons_of_pos written, if_pos rfl, List.range'_concat, Nat.one_mul,
            ← h.number k s found]
          rfl
  have all := front d.sent.length
  rwa [List.take_length] at all

end Desk

namespace Run

variable {key : String} {window : Nat} {r : Run}

theorem Reachable.numbered (reached : Reachable key window r) : r.desk.Numbered := by
  induction reached with
  | start => exact Desk.numbered_start key window
  | @own r reached m ih => exact ih.change reached.sound.1 (r.desk.act_change m)
  | elsewhere _ op apart ih =>
    exact ih.quiet rfl rfl (fun _ _ found => found) (fun _ _ => rfl) fun _ _ => ⟨id, id⟩

/-- Frames are numbered as they go over the wire. In every run of a lane one publish writes at a
time, and hands over one frame at most; a frame's number is one more than the number of frames
written before it, stands in its header as long as it fits there, and is outstanding when the frame
is handed over. So the frames that were written are numbered from one on without a gap, the number
of one that was not is that of the next, and a publish that succeeds returns the number of its
frame. -/
theorem numbered_as_written (reached : Reachable key window r) :
    (∀ i j n m, r.desk.phase i = some (.writing n) → r.desk.phase j = some (.writing m) → i = j) ∧
    (r.desk.sent.map (·.call)).Nodup ∧
    (∀ (k : Nat) (s : Sent), r.desk.sent[k]? = some s →
      s.sequence = 1 + (r.desk.sent.take k).countP r.desk.succeeded ∧ s.outstanding = true ∧
      (s.sequence < 2 ^ 63 →
        s.frame.properties.headerTable.get? "x-publish-sequence-number"
          = some (.longLongInt s.sequence))) ∧
    (r.desk.sent.filter r.desk.succeeded).map (·.sequence)
      = List.range' 1 (r.desk.sent.countP r.desk.succeeded) ∧
    (∀ (k : Nat) (s t : Sent), r.desk.sent[k]? = some s → r.desk.sent[k + 1]? = some t →
      r.desk.succeeded s = false → t.sequence = s.sequence) ∧
    (∀ i n, r.desk.result? i = some (.ok n) → ∃ s ∈ r.desk.sent, s.call = i ∧ s.sequence = n) := by
  have balanced := reached.sound.1
  have numbered := reached.numbered
  refine ⟨fun i j n m => balanced.writer_unique, numbered.once, fun k s found => ?_,
    numbered.map_sequence, fun k s t found next failed => ?_, fun i n result => ?_⟩
  · have mem := List.mem_of_getElem? found
    obtain ⟨f, _, same⟩ := numbered.frame s mem
    refine ⟨numbered.number k s found, numbered.outstanding s mem, fun fits => ?_⟩
    have greatest : 2 ^ 63 = maxLongLongInt + 1 := rfl
    have least : min s.sequence maxLongLongInt = s.sequence := by
      rw [greatest] at fits
      exact Nat.min_eq_left (Nat.le_of_lt_succ fits)
    rw [same]
    unfold Properties.withSequence Properties.withHeader Properties.headerTable
    dsimp only [Option.getD_some]
    rw [least]
    exact Table.get?_insert_self _ _ _
  · rw [numbered.number _ t next, numbered.number k s found, List.take_add_one, found,
      Option.toList_some, List.countP_append, List.countP_singleton, failed]
    rfl
  · exact numbered.own i n (.inr (Desk.result?_eq_some.1 result))

/-- Three publishes, of which the second is not written and the third is being written. -/
def oneFailed : List Move :=
  let frame : Frame := ⟨"", "", [], {}⟩
  [.call frame false, .call frame false, .call frame false,
    .advance 0, .advance 0, .advance 0, .advance 0, .written 0 (.ok ()),
    .advance 1, .advance 1, .advance 1, .advance 1, .written 1 (.error .internal),
    .advance 2, .advance 2, .advance 2, .advance 2]

/-- The first is numbered one, the two others two. -/
theorem numbered_as_written_oneFailed :
    let r := after "k" 3 oneFailed
    r.desk.sent.map (·.sequence) = [1, 2, 2] ∧
    (r.desk.sent.filter r.desk.succeeded).map (·.sequence) = [1] ∧
    ∃ s ∈ r.desk.sent, s.call = 0 ∧ s.sequence = 1 := by
  obtain ⟨_, _, _, written, _, own⟩ := numbered_as_written (reachable_after "k" 3 oneFailed)
  exact ⟨rfl, written, own 0 1 rfl⟩

end Run

end Courier.Confirm
