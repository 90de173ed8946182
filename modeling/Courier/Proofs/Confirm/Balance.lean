import Courier.Proofs.Confirm.Desk

/-!
# Every place is somewhere

The places of a lane's window are free, held by a publish, or waiting for a confirmation, and no
change makes or loses one; the one turn to write is free or with the publish that writes
(`Desk.Balanced`). So one publish writes at a time (`Desk.Balanced.writer_unique`).
-/

namespace Courier.Confirm.Desk
set_option autoImplicit false

variable {d d' : Desk} {dealt : List (Nat × Confirmation)} {window i j n m : Nat} {p p' r : Phase}
  {g : Gate}

/-- Where the places of the window and the turn to write are, and who stands at the two gates. -/
structure Balanced (window : Nat) (d : Desk) : Prop where
  places : d.lane.window.places + d.count Phase.holdsPlace + d.lane.watches.length = max window 1
  turns : d.lane.turn.places + d.count Phase.isWriting = 1
  windowLine : d.lane.window.Line fun i => d.phase i = some .awaitingPlace
  turnLine : d.lane.turn.Line fun i => d.phase i = some .awaitingTurn

/-- A publish that goes from one phase to another leaves the line at a gate as it is if it stands
there in neither. -/
theorem line_setPhase (h : g.Line fun j => d.phase j = some r) (known : d.phase i = some p)
    (before : p ≠ r) (after : p' ≠ r) :
    g.Line fun j => (d.setPhase i p').phase j = some r := by
  refine h.congr fun j => ?_
  rw [phase_setPhase known]
  split
  · next same =>
    subst same
    rw [known, Option.some_inj, Option.some_inj]
    exact ⟨fun h => (before h).elim, fun h => (after h).elim⟩
  · rfl

/-- A publish that stands at a gate from now on. -/
theorem line_setPhase_joined (h : g.Line fun j => j = i ∨ d.phase j = some p')
    (known : d.phase i = some p) : g.Line fun j => (d.setPhase i p').phase j = some p' := by
  refine h.congr fun j => ?_
  rw [phase_setPhase known]
  split
  · next same => simp [same]
  · next other => simp [Ne.symm other]

/-- A publish that no longer stands at a gate. -/
theorem line_setPhase_left (h : g.Line fun j => d.phase j = some r ∧ j ≠ i)
    (known : d.phase i = some p) (after : p' ≠ r) :
    g.Line fun j => (d.setPhase i p').phase j = some r := by
  refine h.congr fun j => ?_
  rw [phase_setPhase known]
  split
  · next same => simp [same, after]
  · next other => simp [Ne.symm other]

theorem balanced_start (key : String) (window : Nat) :
    Balanced window (Run.start key window).desk where
  places := by
    show max window 1 + 0 + 0 + 0 = max window 1
    rfl
  turns := rfl
  windowLine := Gate.Line.ofPlaces _ fun _ h => by cases h
  turnLine := Gate.Line.ofPlaces _ fun _ h => by cases h

namespace Balanced

/-- One publish writes at a time. -/
theorem writer_unique (h : d.Balanced window) (one : d.phase i = some (.writing n))
    (other : d.phase j = some (.writing m)) : i = j := by
  have turns := h.turns
  exact eq_of_count_le_one (q := Phase.isWriting) (by omega) one other rfl rfl rfl

/-- It is all about the lane. -/
theorem of_lane (h : d.Balanced window) (same : d'.lane = d.lane) : d'.Balanced window := by
  obtain ⟨lane, tracker, sent, log⟩ := d'
  cases same
  exact ⟨h.places, h.turns, h.windowLine, h.turnLine⟩

/-- A publish goes from one phase to another: what it holds more, the gates and the watches have
less. -/
theorem step (h : d.Balanced window) (known : d.phase i = some p)
    (phases : d'.phases = d.phases.set i p')
    (places : d'.lane.window.places + p'.holdsPlace.toNat + d'.lane.watches.length
      = d.lane.window.places + p.holdsPlace.toNat + d.lane.watches.length)
    (turns : d'.lane.turn.places + p'.isWriting.toNat = d.lane.turn.places + p.isWriting.toNat)
    (windowLine : d'.lane.window.Line fun j => (d.setPhase i p').phase j = some .awaitingPlace)
    (turnLine : d'.lane.turn.Line fun j => (d.setPhase i p').phase j = some .awaitingTurn) :
    d'.Balanced window := by
  have same : d'.phases = (d.setPhase i p').phases := phases.trans (phases_setPhase d i p').symm
  have phase (j : Nat) : d'.phase j = (d.setPhase i p').phase j := by
    unfold Desk.phase
    rw [same]
  have count (q : Phase → Bool) : d'.count q = (d.setPhase i p').count q := by
    unfold Desk.count
    rw [same]
  have held : (d.setPhase i p').count Phase.holdsPlace + _ = _ := count_setPhase known
  have writing : (d.setPhase i p').count Phase.isWriting + _ = _ := count_setPhase known
  have before := h.places
  have turn := h.turns
  refine ⟨?_, ?_, windowLine.congr fun j => by rw [phase], turnLine.congr fun j => by rw [phase]⟩
  · rw [count]
    omega
  · rw [count]
    omega

/-- No change makes or loses a place. -/
theorem change (h : d.Balanced window) (c : d.Change d' dealt) : d'.Balanced window := by
  have windowLine := h.windowLine
  have turnLine := h.turnLine
  cases c with
  | none => exact h
  | called frame cancelled =>
    have phase (p : Phase) (j : Nat) (other : p ≠ .arriving) :
        d.phase j = some p ↔ (d.call frame cancelled).phase j = some p := by
      rw [phase_call]
      split
      · next last =>
        rw [last, Desk.phase, List.getElem?_eq_none (Nat.le_refl _), Option.some_inj]
        exact ⟨nofun, fun same => (other same.symm).elim⟩
      · rfl
    refine ⟨?_, ?_, windowLine.congr fun j => phase _ j nofun, turnLine.congr fun j => phase _ j nofun⟩
    · rw [count_call frame cancelled rfl]
      exact h.places
    · rw [count_call frame cancelled rfl]
      exact h.turns
  | told i =>
    have phases := phases_cancel d i
    refine ⟨?_, ?_, windowLine.congr fun j => ?_, turnLine.congr fun j => ?_⟩
    · rw [count, phases]
      exact h.places
    · rw [count, phases]
      exact h.turns
    · rw [phase, phase, phases]
    · rw [phase, phase, phases]
  | dropped known =>
    exact h.step known (phases_setPhase _ _ _) rfl rfl (line_setPhase windowLine known nofun nofun)
      (line_setPhase turnLine known nofun nofun)
  | @queued i known =>
    have new : d.phase i ≠ some .awaitingPlace := by
      rw [known]
      nofun
    refine h.step known (phases_setPhase _ _ _) ?_ rfl
      (line_setPhase_joined (windowLine.arrive new) known) (line_setPhase turnLine known nofun nofun)
    exact congrArg (· + 0 + _) (Gate.places_arrive d.lane.window i)
  | @leftWindow i known =>
    refine h.step known (phases_setPhase _ _ _) ?_ rfl
      (line_setPhase_left (windowLine.leave known) known nofun)
      (line_setPhase turnLine known nofun nofun)
    exact congrArg (· + 0 + _) (Gate.places_leave d.lane.window i)
  | placed known ready =>
    refine h.step known (phases_setPhase _ _ _) ?_ rfl
      (line_setPhase_left (windowLine.take ready) known nofun)
      (line_setPhase turnLine known nofun nofun)
    exact congrArg (· + _) (Gate.places_take ready)
  | gaveUp known =>
    refine h.step known (phases_setPhase _ _ _) ?_ rfl
      (line_setPhase windowLine.release known nofun nofun)
      (line_setPhase turnLine known nofun nofun)
    exact congrArg (· + 0 + _) (Gate.places_release d.lane.window)
  | @lined i known =>
    have new : d.phase i ≠ some .awaitingTurn := by
      rw [known]
      nofun
    refine h.step known (phases_setPhase _ _ _) rfl ?_
      (line_setPhase windowLine known nofun nofun)
      (line_setPhase_joined (turnLine.arrive new) known)
    exact congrArg (· + 0) (Gate.places_arrive d.lane.turn i)
  | @leftTurn i known =>
    refine h.step known (phases_setPhase _ _ _) ?_ ?_
      (line_setPhase windowLine.release known nofun nofun)
      (line_setPhase_left (turnLine.leave known) known nofun)
    · exact congrArg (· + 0 + _) (Gate.places_release d.lane.window)
    · exact congrArg (· + 0) (Gate.places_leave d.lane.turn i)
  | wrote known call ready =>
    refine h.step known (phases_setPhase _ _ _) rfl ?_
      (line_setPhase windowLine known nofun nofun)
      (line_setPhase_left (turnLine.take ready) known nofun)
    exact Gate.places_take ready
  | @written i n known =>
    refine h.step known (phases_setPhase _ _ _) ?_ ?_
      (line_setPhase windowLine known nofun nofun)
      (line_setPhase turnLine.release known nofun nofun)
    · show d.lane.window.places + 0 + (d.lane.watches ++ [(⟨n, .none⟩ : Watch)]).length = _
      rw [List.length_append, List.length_singleton]
      show _ = d.lane.window.places + 1 + _
      omega
    · exact Gate.places_release d.lane.turn
  | failed known error log =>
    refine h.step known (phases_setPhase _ _ _) ?_ ?_
      (line_setPhase windowLine.release known nofun nofun)
      (line_setPhase turnLine.release known nofun nofun)
    · exact congrArg (· + 0 + _) (Gate.places_release d.lane.window)
    · exact congrArg (· + 0) (Gate.places_release d.lane.turn)
  | answered watches same =>
    have length : watches.length = d.lane.watches.length := by
      rw [← List.length_map (f := Watch.sequence), same, List.length_map]
    refine ⟨?_, h.turns, windowLine, turnLine⟩
    show d.lane.window.places + d.count Phase.holdsPlace + watches.length = _
    rw [length]
    exact h.places
  | @dealt j n a known =>
    obtain ⟨bound, _⟩ := List.getElem?_eq_some_iff.1 known
    have places := h.places
    have released := Gate.places_release d.lane.window
    have fewer := List.length_eraseIdx_of_lt bound
    have dealt : Balanced window ((d.onWindow (·.release)).withWatches (d.lane.watches.eraseIdx j)) := by
      refine ⟨?_, h.turns, windowLine.release, turnLine⟩
      show d.lane.window.release.places + d.count Phase.holdsPlace
        + (d.lane.watches.eraseIdx j).length = _
      omega
    apply dealt.of_lane
    unfold withWatches onWindow
    rw [lane_resolve]

end Balanced

end Courier.Confirm.Desk
