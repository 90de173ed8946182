import Courier.Pipeline

/-!
# Steps and readers that succeed

Steps that may fail act on a state and answer; a sequence of them succeeds exactly if each of its
steps does in the state that the one before left (`Acting.bind_ok`, `Acting.bind_eq_ok`). Readers
give a value and what is left of their input, or fail and leave nothing; a sequence of them is taken
apart in the same way (`Reading.bind_ok`, `Reading.bind_eq_ok`).
-/

namespace Courier
set_option autoImplicit false

namespace Reading

variable {σ ε α β : Type} {x : StateT σ (Except ε) α} {f : α → StateT σ (Except ε) β} {s s' : σ}

theorem bind_ok {a : α} (h : x s = .ok (a, s')) : (x >>= f) s = f a s' := by
  show (x s).bind (fun p => f p.1 p.2) = f a s'
  rw [h]
  rfl

theorem bind_eq_ok {b : β} (h : (x >>= f) s = .ok (b, s')) :
    ∃ a mid, x s = .ok (a, mid) ∧ f a mid = .ok (b, s') := by
  change (x s).bind (fun p => f p.1 p.2) = .ok (b, s') at h
  cases hx : x s with
  | error e => rw [hx] at h; cases h
  | ok p => rw [hx] at h; exact ⟨p.1, p.2, rfl, h⟩

end Reading

namespace Acting

variable {ε σ α β : Type} {x : ExceptT ε (StateM σ) α} {f : α → ExceptT ε (StateM σ) β}
  {s t u : σ} {a : α} {b : β}

theorem run_bind : (x >>= f).run s = (ExceptT.bindCont f (x.run s).1).run (x.run s).2 := rfl

/-- After a step that succeeded, the rest acts on what it left. -/
theorem bind_ok (h : x.run s = (.ok a, t)) : (x >>= f).run s = (f a).run t := by
  rw [run_bind, h]
  rfl

theorem bind_error {e : ε} (h : x.run s = (.error e, t)) : (x >>= f).run s = (.error e, t) := by
  rw [run_bind, h]
  rfl

/-- Where a sequence succeeded, its first step did, and the rest did after it. -/
theorem bind_eq_ok (h : (x >>= f).run s = (.ok b, u)) :
    ∃ a t, x.run s = (.ok a, t) ∧ (f a).run t = (.ok b, u) := by
  cases first : x.run s with
  | mk result t =>
    cases result with
    | ok a =>
      rw [bind_ok first] at h
      exact ⟨a, t, rfl, h⟩
    | error e =>
      rw [bind_error first] at h
      cases h

theorem get_bind (f : σ → ExceptT ε (StateM σ) β) : (get >>= f).run s = (f s).run s := rfl

theorem set_bind (t : σ) (f : PUnit → ExceptT ε (StateM σ) β) :
    (set t >>= f).run s = (f ()).run t := rfl

theorem modify_bind (g : σ → σ) (f : PUnit → ExceptT ε (StateM σ) β) :
    (modify g >>= f).run s = (f ()).run (g s) := rfl

theorem run_ofExcept (result : Except ε α) :
    (MonadExcept.ofExcept result : ExceptT ε (StateM σ) α).run s = (result, s) := by
  cases result <;> rfl

theorem ofExcept_eq_ok {result : Except ε α}
    (h : (MonadExcept.ofExcept result : ExceptT ε (StateM σ) α).run s = (.ok a, t)) :
    result = .ok a ∧ s = t := by
  rw [run_ofExcept] at h
  exact Prod.mk.inj h

/-- What is caught depends on how the step ended. -/
theorem run_tryCatch (handle : ε → ExceptT ε (StateM σ) α) :
    (tryCatch x handle).run s =
      match x.run s with
      | (.ok a, t) => (.ok a, t)
      | (.error e, t) => (handle e).run t := by
  simp only [tryCatch, tryCatchThe, MonadExceptOf.tryCatch, ExceptT.tryCatch, ExceptT.run_mk]
  change StateT.run (_ >>= _) s = _
  rw [StateT.run_bind]
  change (x.run s >>= _) = _
  obtain ⟨result, t⟩ := x.run s
  cases result <;> rfl

/-- A step that is observed does not fail: how it ended is the answer. -/
theorem run_observing (x : ExceptT ε (StateM σ) α) (s : σ) :
    (observing x).run s = (.ok (x.run s).1, (x.run s).2) := by
  unfold observing
  rw [run_tryCatch]
  cases first : x.run s with
  | mk result t =>
    cases result with
    | ok a => rw [bind_ok first]; rfl
    | error e => rw [bind_error first]; rfl

end Acting

end Courier
