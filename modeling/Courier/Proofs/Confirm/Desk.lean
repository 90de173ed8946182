import Courier.Confirm.Run
import Courier.Proofs.Confirm.Gate

/-!
# What a move changes

A desk seen by the phases of its publishes (`Desk.phase`, `Desk.count`), and what any move makes of
it: one of a few changes, each for a publish or a watch in a known state (`Desk.act_change`). A lane
that is let alone makes a run of moves (`Desk.settle_moves`), and hands its frames to the wire with
their numbers on them (`Desk.settle_hands`).
-/

namespace Courier.Confirm
set_option autoImplicit false

/-- Whether a publish has taken up a place in the window and not given it back. -/
def Phase.holdsPlace : Phase → Bool
  | .placed | .awaitingTurn | .writing _ => true
  | _ => false

/-- Whether a publish is writing its frame. -/
def Phase.isWriting : Phase → Bool
  | .writing _ => true
  | _ => false

namespace Desk

variable {d : Desk} {i j : Nat} {p p' : Phase} {q : Phase → Bool}

/-- The phases of the publishes, by their order of arrival. -/
def phases (d : Desk) : List Phase := d.lane.calls.map (·.phase)

/-- The phase of a publish. -/
def phase (d : Desk) (i : Nat) : Option Phase := d.phases[i]?

/-- How many publishes are in a phase of a kind. -/
def count (d : Desk) (q : Phase → Bool) : Nat := d.phases.countP q

section Modified

variable {α β : Type} {f : α → α} {g : α → β}

theorem map_modify_eq_set {y : β} (h : ∀ x, g (f x) = y) (xs : List α) (i : Nat) :
    (xs.modify i f).map g = (xs.map g).set i y := by
  induction xs generalizing i with
  | nil => rw [List.modify_nil]; rfl
  | cons x xs ih =>
    cases i with
    | zero => rw [List.modify_zero_cons, List.map_cons, h]; rfl
    | succ i => rw [List.modify_succ_cons, List.map_cons, ih]; rfl

theorem map_modify_eq_map (h : ∀ x, g (f x) = g x) (xs : List α) (i : Nat) :
    (xs.modify i f).map g = xs.map g := by
  induction xs generalizing i with
  | nil => rw [List.modify_nil]
  | cons x xs ih =>
    cases i with
    | zero => rw [List.modify_zero_cons, List.map_cons, h]; rfl
    | succ i => rw [List.modify_succ_cons, List.map_cons, ih]; rfl

end Modified

theorem phases_setPhase (d : Desk) (i : Nat) (p : Phase) :
    (d.setPhase i p).phases = d.phases.set i p := by
  apply map_modify_eq_set
  intro c
  rfl

theorem phases_call (d : Desk) (frame : Frame) (cancelled : Bool) :
    (d.call frame cancelled).phases = d.phases ++ [.arriving] := List.map_append

theorem phases_cancel (d : Desk) (i : Nat) : (d.cancel i).phases = d.phases := by
  apply map_modify_eq_map
  intro c
  rfl

theorem phase_setPhase (known : d.phase i = some p) :
    (d.setPhase i p').phase j = if i = j then some p' else d.phase j := by
  obtain ⟨bound, _⟩ := List.getElem?_eq_some_iff.1 known
  unfold phase
  rw [phases_setPhase, List.getElem?_set, if_pos bound]

/-- The phases there are once a publish has gone from one to another. -/
theorem mem_phases_setPhase {r : Phase} (known : d.phase i = some p) (before : p ≠ r) :
    r ∈ (d.setPhase i p').phases ↔ r = p' ∨ r ∈ d.phases := by
  rw [List.mem_iff_getElem?, List.mem_iff_getElem?]
  constructor
  · rintro ⟨j, found⟩
    change (d.setPhase i p').phase j = some r at found
    rw [phase_setPhase known] at found
    split at found
    · cases found
      exact .inl rfl
    · exact .inr ⟨j, found⟩
  · rintro (rfl | ⟨j, found⟩)
    · refine ⟨i, ?_⟩
      show (d.setPhase i r).phase i = some r
      rw [phase_setPhase known, if_pos rfl]
    · refine ⟨j, ?_⟩
      have other : i ≠ j := by
        rintro rfl
        exact before (Option.some.inj (known.symm.trans found))
      show (d.setPhase i p').phase j = some r
      rw [phase_setPhase known, if_neg other]
      exact found

theorem count_setPhase (known : d.phase i = some p) :
    (d.setPhase i p').count q + (q p).toNat = d.count q + (q p').toNat := by
  obtain ⟨bound, rfl⟩ := List.getElem?_eq_some_iff.1 known
  have at_least := List.boole_getElem_le_countP (p := q) bound
  unfold count
  rw [phases_setPhase, List.countP_set bound]
  cases before : q d.phases[i] <;> cases q p' <;> rw [before] at at_least <;>
    simp only [if_true, Bool.false_eq_true, if_false, Bool.toNat_true, Bool.toNat_false]
      at at_least ⊢ <;> omega

theorem phase_call (frame : Frame) (cancelled : Bool) :
    (d.call frame cancelled).phase j = if j = d.phases.length then some .arriving else d.phase j := by
  unfold phase
  rw [phases_call]
  split
  · next last => rw [last, List.getElem?_concat_length]
  · next other =>
    obtain before | behind := Nat.lt_or_gt_of_ne other
    · rw [List.getElem?_append_left before]
    · rw [List.getElem?_eq_none (Nat.le_of_lt behind), List.getElem?_eq_none]
      rw [List.length_append, List.length_singleton]
      exact behind

theorem count_call (frame : Frame) (cancelled : Bool) (arriving : q .arriving = false) :
    (d.call frame cancelled).count q = d.count q := by
  unfold count
  rw [phases_call, List.countP_append, List.countP_singleton, arriving]
  rfl

/-- A publish in a phase of a kind is counted. -/
theorem count_pos (known : d.phase i = some p) (kind : q p = true) : 0 < d.count q :=
  List.countP_pos_iff.2 ⟨p, List.mem_of_getElem? known, kind⟩

/-- Two publishes in phases of a kind that one publish at most is in are one. -/
theorem eq_of_count_le_one (one : d.count q ≤ 1) (known : d.phase i = some p)
    (known' : d.phase j = some p') (kind : q p = true) (kind' : q p' = true)
    (other : q .arriving = false) : i = j := by
  by_cases same : i = j
  · exact same
  · -- without the first there would be none left
    have fewer : (d.setPhase i .arriving).count q + _ = _ := count_setPhase known
    have still : (d.setPhase i .arriving).phase j = some p' := by
      rw [phase_setPhase known, if_neg same, known']
    have pos := count_pos still kind'
    rw [kind, other] at fewer
    simp only [Bool.toNat_true, Bool.toNat_false] at fewer
    omega

/-! Changes. -/

/-- The desk with other watches. -/
def withWatches (d : Desk) (watches : List Watch) : Desk :=
  { d with lane := { d.lane with watches } }

/-- The desk after a number was used up. -/
def countUp (d : Desk) : Desk := { d with lane := { d.lane with next := d.lane.next + 1 } }

/-- What a move can make of a desk, and the confirmations it deals with. -/
inductive Change (d : Desk) : Desk → List (Nat × Confirmation) → Prop where
  | none : Change d d []
  | called (frame : Frame) (cancelled : Bool) : Change d (d.call frame cancelled) []
  | told (i : Nat) : Change d (d.cancel i) []
  | dropped {i : Nat} (known : d.phase i = some .arriving) :
    Change d (d.setPhase i (.finished (.error .cancelled))) []
  | queued {i : Nat} (known : d.phase i = some .arriving) :
    Change d ((d.onWindow (·.arrive i)).setPhase i .awaitingPlace) []
  | leftWindow {i : Nat} (known : d.phase i = some .awaitingPlace) :
    Change d ((d.onWindow (·.leave i)).setPhase i (.finished (.error .cancelled))) []
  | placed {i : Nat} (known : d.phase i = some .awaitingPlace) (ready : i ∈ d.lane.window.ready) :
    Change d ((d.onWindow (·.take i)).setPhase i .placed) []
  | gaveUp {i : Nat} (known : d.phase i = some .placed) :
    Change d ((d.onWindow (·.release)).setPhase i (.finished (.error .cancelled))) []
  | lined {i : Nat} (known : d.phase i = some .placed) :
    Change d ((d.onTurn (·.arrive i)).setPhase i .awaitingTurn) []
  | leftTurn {i : Nat} (known : d.phase i = some .awaitingTurn) :
    Change d (((d.onTurn (·.leave i)).onWindow (·.release)).setPhase i
      (.finished (.error .cancelled))) []
  | wrote {i : Nat} {c : Call} (known : d.phase i = some .awaitingTurn)
    (call : d.lane.calls[i]? = some c) (ready : i ∈ d.lane.turn.ready) :
    Change d ((d.onTurn (·.take i)).write i c.frame) []
  | written {i n : Nat} (known : d.phase i = some (.writing n)) :
    Change d (((d.onTurn (·.release)).setPhase i (.finished (.ok n))).countUp.withWatches
      (d.lane.watches ++ [⟨n, .none⟩])) []
  | failed {i n : Nat} (known : d.phase i = some (.writing n)) (error : BrokerError)
    (log : List Log.Event) :
    Change d { ((d.onTurn (·.release)).onWindow (·.release)).setPhase i (.finished (.error error))
      with tracker := d.tracker.forget d.lane.key n, log } []
  | answered (watches : List Watch)
    (same : watches.map (·.sequence) = d.lane.watches.map (·.sequence)) :
    Change d (d.withWatches watches) []
  | dealt {j n : Nat} {a : Confirmation} (known : d.lane.watches[j]? = some ⟨n, some a⟩) :
    Change d (((d.resolve n a).onWindow (·.release)).withWatches
      ((d.resolve n a).lane.watches.eraseIdx j)) [(n, a)]

@[simp] theorem lane_resolve (d : Desk) (n : Nat) (a : Confirmation) :
    (d.resolve n a).lane = d.lane := by cases a <;> rfl

@[simp] theorem sent_resolve (d : Desk) (n : Nat) (a : Confirmation) :
    (d.resolve n a).sent = d.sent := by cases a <;> rfl

theorem phase_of_call {c : Call} (known : d.lane.calls[i]? = some c) : d.phase i = some c.phase := by
  unfold phase phases
  rw [List.getElem?_map, known]
  rfl

theorem advance_change (d : Desk) (i : Nat) : d.Change (d.advance i) [] := by
  unfold advance
  cases known : d.lane.calls[i]? with
  | none => exact .none
  | some c =>
    have phase := phase_of_call known
    dsimp only
    cases found : c.phase with
    | arriving =>
      rw [found] at phase
      dsimp only
      split
      · exact .dropped phase
      · exact .queued phase
    | awaitingPlace =>
      rw [found] at phase
      dsimp only
      split
      · exact .leftWindow phase
      · split
        · next ready => exact .placed phase (Gate.isReady_iff.1 ready)
        · exact .none
    | placed =>
      rw [found] at phase
      dsimp only
      split
      · exact .gaveUp phase
      · exact .lined phase
    | awaitingTurn =>
      rw [found] at phase
      dsimp only
      split
      · exact .leftTurn phase
      · split
        · next ready => exact .wrote phase known (Gate.isReady_iff.1 ready)
        · exact .none
    | writing n => exact .none
    | finished result => exact .none

theorem written_change (d : Desk) (i : Nat) (result : Except BrokerError Unit) :
    d.Change (d.written i result) [] := by
  unfold written
  split
  · next known =>
    have phase := phase_of_call known
    cases result with
    | ok _ => exact .written phase
    | error e => exact .failed phase e _
  · exact .none

theorem unwatch_change (d : Desk) (j : Nat) : d.Change (d.unwatch j) (d.dealing (.unwatch j)) := by
  unfold unwatch dealing
  dsimp only
  cases known : d.lane.watches[j]? with
  | none => exact .none
  | some w =>
    obtain ⟨n, answer⟩ := w
    cases answer with
    | none => exact .none
    | some a => exact .dealt known

/-- Every move makes one of the changes. -/
theorem act_change (d : Desk) (m : Move) : d.Change (d.act m) (d.dealing m) := by
  cases m with
  | call frame cancelled => exact .called frame cancelled
  | cancel i => exact .told i
  | advance i => exact advance_change d i
  | written i result => exact written_change d i result
  | unwatch j => exact unwatch_change d j
  | confirm sequence answer =>
    apply Change.answered
    rw [List.map_map]
    apply List.map_congr_left
    intro w _
    show (if _ then _ else _ : Watch).sequence = _
    split <;> rfl
  | loseAll error =>
    apply Change.answered
    rw [List.map_map]
    apply List.map_congr_left
    intro w _
    show (if _ then _ else _ : Watch).sequence = _
    split <;> rfl

/-! What happens by itself is a run of moves. -/

section Settling

variable {ω : Type}

/-- The moves that a lane makes by itself: nobody begins a publish, fires a token or answers. -/
def IsOwn : Move → Prop
  | .advance _ | .written _ _ | .unwatch _ => True
  | _ => False

theorem perform_moves (wire : Wire ω) (d : Desk) (task : Task) (w : ω) :
    ∃ moves : List Move, (∀ m ∈ moves, IsOwn m) ∧
      ((d.perform wire task).run w).1 = moves.foldl act d := by
  cases task with
  | unwatch j => exact ⟨[.unwatch j], by simp [IsOwn], rfl⟩
  | advance i =>
    unfold perform
    dsimp only
    split
    · rw [StateT.run_bind]
      generalize (wire _).run w = ran
      obtain ⟨answer, w'⟩ := ran
      cases answer with
      | none => exact ⟨[.advance i], by simp [IsOwn], rfl⟩
      | some result => exact ⟨[.advance i, .written i result], by simp [IsOwn], rfl⟩
    · exact ⟨[.advance i], by simp [IsOwn], rfl⟩

theorem work_moves (wire : Wire ω) (n : Nat) (d : Desk) (w : ω) :
    ∃ moves : List Move, (∀ m ∈ moves, IsOwn m) ∧
      ((d.work wire n).run w).1 = moves.foldl act d := by
  induction n generalizing d w with
  | zero => exact ⟨[], List.forall_mem_nil _, rfl⟩
  | succ n ih =>
    unfold work
    cases d.nextTask with
    | none => exact ⟨[], List.forall_mem_nil _, rfl⟩
    | some task =>
      obtain ⟨moves, own, performed⟩ := perform_moves wire d task w
      obtain ⟨more, own', worked⟩ :=
        ih ((d.perform wire task).run w).1 ((d.perform wire task).run w).2
      refine ⟨moves ++ more, List.forall_mem_append.2 ⟨own, own'⟩, ?_⟩
      rw [List.foldl_append, ← performed]
      exact worked

/-- A lane that is let alone makes some of its moves, so that what holds along every run holds of
it. -/
theorem settle_moves (wire : Wire ω) (d : Desk) (w : ω) :
    ∃ moves : List Move, (∀ m ∈ moves, IsOwn m) ∧
      ((d.settle wire).run w).1 = moves.foldl act d :=
  work_moves wire d.tasksLeft d w

/-- A wire with the frames that it is handed on record. -/
def recording (wire : Wire ω) : Wire (ω × List Frame) := fun frame (w, frames) =>
  let (answer, w) := wire frame w
  (answer, (w, frames ++ [frame]))

/-- What was handed to the wire between two desks is what the later one has sent since. -/
def Handed (d d' : Desk) (frames frames' : List Frame) : Prop :=
  ∃ more, d'.sent = d.sent ++ more ∧ frames' = frames ++ more.map (·.frame)

theorem Handed.refl (d : Desk) (frames : List Frame) : Handed d d frames frames :=
  ⟨[], by simp, by simp⟩

theorem Handed.trans {d d' d'' : Desk} {frames frames' frames'' : List Frame}
    (h : Handed d d' frames frames') (h' : Handed d' d'' frames' frames'') :
    Handed d d'' frames frames'' := by
  obtain ⟨more, sent, rfl⟩ := h
  obtain ⟨more', sent', rfl⟩ := h'
  exact ⟨more ++ more', by rw [sent', sent, List.append_assoc], by simp⟩

@[simp] theorem sent_written (d : Desk) (i : Nat) (result : Except BrokerError Unit) :
    (d.written i result).sent = d.sent := by
  unfold written
  split
  · cases result <;> rfl
  · rfl

@[simp] theorem sent_unwatch (d : Desk) (j : Nat) : (d.unwatch j).sent = d.sent := by
  unfold unwatch
  split
  · exact sent_resolve d _ _
  · rfl

/-- After a step a publish writes and has sent its frame with its number on it, or it does not write
and has sent nothing. -/
def Sends (i : Nat) (d d' : Desk) : Prop :=
  (∃ frame cancelled n outstanding, d'.lane.calls[i]? = some ⟨frame, cancelled, .writing n⟩ ∧
    d'.sent = d.sent ++ [⟨i, n, frame.numbered n, outstanding⟩]) ∨
  (∀ frame cancelled n, d'.lane.calls[i]? ≠ some ⟨frame, cancelled, .writing n⟩) ∧
    d'.sent = d.sent

theorem sends_advance (able : d.canAdvance i = true) : Sends i d (d.advance i) := by
  unfold canAdvance at able
  unfold advance
  cases known : d.lane.calls[i]? with
  | none =>
    rw [known] at able
    cases able
  | some c =>
    obtain ⟨frame, cancelled, phase⟩ := c
    rw [known] at able
    have moved (p : Phase) : (d.lane.calls.modify i fun c => { c with phase := p })[i]?
        = some ⟨frame, cancelled, p⟩ := by
      rw [List.getElem?_modify, known]
      simp
    have nothing {d' : Desk} (calls : d'.lane.calls = d.lane.calls) (sent : d'.sent = d.sent)
        {p : Phase} (other : ∀ n, p ≠ .writing n) : Sends i d (d'.setPhase i p) := by
      refine .inr ⟨fun frame' cancelled' n found => ?_, sent⟩
      change (d'.lane.calls.modify i _)[i]? = _ at found
      rw [calls, moved p] at found
      cases found
      exact other n rfl
    have still (p : Phase) (other : ∀ n, p ≠ .writing n) (same : phase = p) : Sends i d d := by
      refine .inr ⟨fun frame' cancelled' n found => ?_, rfl⟩
      cases known.symm.trans found
      exact other n same.symm
    cases phase with
    | arriving =>
      dsimp only
      split <;> exact nothing rfl rfl nofun
    | awaitingPlace =>
      dsimp only
      split
      · exact nothing rfl rfl nofun
      · split
        · exact nothing rfl rfl nofun
        · exact still .awaitingPlace nofun rfl
    | placed =>
      dsimp only
      split <;> exact nothing rfl rfl nofun
    | awaitingTurn =>
      dsimp only
      split
      · exact nothing rfl rfl nofun
      · split
        · exact .inl ⟨frame, cancelled, d.lane.next, _, moved _, rfl⟩
        · exact still .awaitingTurn nofun rfl
    | writing n => cases able
    | finished result => cases able

theorem canAdvance_of_nextTask (next : d.nextTask = some (.advance i)) :
    d.canAdvance i = true := by
  unfold nextTask at next
  split at next
  · next found =>
    cases next
    exact List.find?_some found
  · obtain ⟨_, _, other⟩ := Option.map_eq_some_iff.1 next
    cases other

theorem perform_hands (wire : Wire ω) {task : Task} (next : d.nextTask = some task)
    (world : ω × List Frame) :
    let ran := (d.perform (recording wire) task).run world
    Handed d ran.1 world.2 ran.2.2 := by
  intro ran
  cases task with
  | unwatch j =>
    exact ⟨[], (sent_unwatch d j).trans (List.append_nil _).symm, (List.append_nil _).symm⟩
  | advance i =>
    have same : ran = (d.perform (recording wire) (.advance i)).run world := rfl
    unfold perform at same
    dsimp only at same
    obtain ⟨frame, cancelled, n, outstanding, writing, sent⟩ | ⟨other, sent⟩ :=
      sends_advance (canAdvance_of_nextTask next)
    · rw [writing, StateT.run_bind] at same
      have frames : ((recording wire (frame.numbered n)).run world).2.2
          = world.2 ++ [frame.numbered n] := rfl
      generalize (recording wire (frame.numbered n)).run world = handed at frames same
      obtain ⟨answer, world'⟩ := handed
      rw [same]
      cases answer with
      | none => exact ⟨[_], sent, frames⟩
      | some result => exact ⟨[_], (sent_written _ i result).trans sent, frames⟩
    · split at same
      · next known => exact (other _ _ _ known).elim
      · rw [same]
        exact ⟨[], sent.trans (List.append_nil _).symm, (List.append_nil _).symm⟩

/-- A lane that is let alone hands to the wire what it has sent, frame by frame with their numbers
on them, and nothing else. -/
theorem settle_hands (wire : Wire ω) (d : Desk) (w : ω) (frames : List Frame) :
    let (d', _, frames') := (d.settle (recording wire)).run (w, frames)
    Handed d d' frames frames' := by
  have work (n : Nat) : ∀ (d : Desk) (world : ω × List Frame),
      Handed d ((d.work (recording wire) n).run world).1 world.2
        ((d.work (recording wire) n).run world).2.2 := by
    induction n with
    | zero => exact fun d world => .refl d world.2
    | succ n ih =>
      intro d world
      unfold Desk.work
      cases next : d.nextTask with
      | none => exact .refl d world.2
      | some task => exact (perform_hands wire next world).trans (ih _ _)
  exact work d.tasksLeft d (w, frames)

end Settling

end Desk

end Courier.Confirm
