import Courier.Confirm.Gate

/-!
# Places are neither made nor lost

The places of a gate are those that are free and those that are ready for somebody. Only taking one
up and giving one back changes their number (`Gate.places`). Who stands at a gate, in line or with a
place ready, stands there once (`Gate.Line`).
-/

namespace Courier.Confirm.Gate
set_option autoImplicit false

variable {g g' : Gate} {i : Nat} {P Q : Nat → Prop}

/-- The places that nobody has taken up. -/
def places (g : Gate) : Nat := g.free + g.ready.length

/-- Those in line and those with a place ready. -/
def standing (g : Gate) : List Nat := g.waiting ++ g.ready

/-- Those who stand at a gate are those of whom `P` holds, each once. -/
structure Line (g : Gate) (P : Nat → Prop) : Prop where
  once : g.standing.Nodup
  mem : ∀ i, i ∈ g.standing ↔ P i

theorem isReady_iff : g.isReady i = true ↔ i ∈ g.ready := List.contains_iff_mem

theorem mem_standing_of_ready (ready : i ∈ g.ready) : i ∈ g.standing :=
  List.mem_append_right g.waiting ready

/-! Places. -/

theorem places_arrive (g : Gate) (i : Nat) : (g.arrive i).places = g.places := by
  unfold arrive places
  split
  · rw [List.length_append, List.length_singleton]
    dsimp only
    omega
  · rfl

theorem places_release (g : Gate) : g.release.places = g.places + 1 := by
  unfold release places
  split
  · dsimp only
    omega
  · rw [List.length_append, List.length_singleton]
    rfl

theorem places_take (ready : i ∈ g.ready) : (g.take i).places + 1 = g.places := by
  have length := List.length_erase_of_mem ready
  have pos := List.length_pos_of_mem ready
  unfold take places
  dsimp only
  omega

theorem places_leave (g : Gate) (i : Nat) : (g.leave i).places = g.places := by
  unfold leave
  split
  · next ready => rw [places_release, places_take (isReady_iff.1 ready)]
  · rfl

/-! Who stands there. -/

theorem standing_arrive (g : Gate) (i : Nat) : (g.arrive i).standing.Perm (i :: g.standing) := by
  unfold arrive standing
  split
  · dsimp only
    rw [← List.append_assoc]
    exact List.perm_append_singleton i _
  · dsimp only
    rw [List.append_assoc, List.singleton_append]
    exact List.perm_middle

theorem standing_release (g : Gate) : g.release.standing.Perm g.standing := by
  unfold release standing
  split
  · exact .refl _
  · next first rest waiting =>
    dsimp only
    rw [waiting, ← List.append_assoc]
    exact List.perm_append_singleton first _

theorem standing_take (ready : i ∈ g.ready) : g.standing.Perm (i :: (g.take i).standing) := by
  unfold take standing
  exact ((List.perm_cons_erase ready).append_left g.waiting).trans List.perm_middle

theorem standing_leave (stands : i ∈ g.standing) : g.standing.Perm (i :: (g.leave i).standing) := by
  unfold leave
  split
  · next ready =>
    have taken := standing_take (isReady_iff.1 ready)
    exact taken.trans ((standing_release (g.take i)).symm.cons i)
  · next ready =>
    have waits : i ∈ g.waiting := by
      obtain waits | isReady := List.mem_append.1 stands
      · exact waits
      · exact (ready (isReady_iff.2 isReady)).elim
    exact (List.perm_cons_erase waits).append_right g.ready

namespace Line

theorem congr (h : g.Line P) (same : ∀ i, P i ↔ Q i) : g.Line Q where
  once := h.once
  mem i := (h.mem i).trans (same i)

/-- Nobody stands at a new gate. -/
theorem ofPlaces (n : Nat) (none : ∀ i, ¬ P i) : (Gate.ofPlaces n).Line P where
  once := List.nodup_nil
  mem i := ⟨fun mem => (List.not_mem_nil mem).elim, fun h => (none i h).elim⟩

theorem joined (h : g.Line P) (new : ¬ P i) (perm : g'.standing.Perm (i :: g.standing)) :
    g'.Line fun j => j = i ∨ P j where
  once := perm.nodup_iff.2 (List.nodup_cons.2 ⟨fun mem => new ((h.mem i).1 mem), h.once⟩)
  mem j := by rw [perm.mem_iff, List.mem_cons, h.mem]

theorem left (h : g.Line P) (perm : g.standing.Perm (i :: g'.standing)) :
    g'.Line fun j => P j ∧ j ≠ i := by
  obtain ⟨gone, once⟩ := List.nodup_cons.1 (perm.nodup_iff.1 h.once)
  refine ⟨once, fun j => ?_⟩
  rw [← h.mem j, perm.mem_iff, List.mem_cons]
  constructor
  · intro mem
    exact ⟨.inr mem, fun same => gone (same ▸ mem)⟩
  · rintro ⟨rfl | mem, ne⟩
    · exact (ne rfl).elim
    · exact mem

theorem arrive (h : g.Line P) (new : ¬ P i) : (g.arrive i).Line fun j => j = i ∨ P j :=
  h.joined new (standing_arrive g i)

theorem release (h : g.Line P) : g.release.Line P where
  once := (standing_release g).nodup_iff.2 h.once
  mem i := (standing_release g).mem_iff.trans (h.mem i)

theorem take (h : g.Line P) (ready : i ∈ g.ready) : (g.take i).Line fun j => P j ∧ j ≠ i :=
  h.left (standing_take ready)

theorem leave (h : g.Line P) (stands : P i) : (g.leave i).Line fun j => P j ∧ j ≠ i :=
  h.left (standing_leave ((h.mem i).2 stands))

end Line

end Courier.Confirm.Gate
