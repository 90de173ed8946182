import Mathlib.Data.List.Basic

/-!
# Lists

What several proofs use of lists: counting what is of one of two kinds, looking up a key where
entries of another are gone, finding an item of two lists in one of them, and the first item without
a property.
-/

namespace Courier
set_option autoImplicit false

variable {α κ : Type}

theorem countP_or_of_disjoint {p q : α → Bool} {xs : List α}
    (disjoint : ∀ x ∈ xs, p x = true → q x = false) :
    xs.countP (fun x => p x || q x) = xs.countP p + xs.countP q := by
  induction xs with
  | nil => rfl
  | cons x xs ih =>
    obtain ⟨here, there⟩ := List.forall_mem_cons.1 disjoint
    rw [List.countP_cons, List.countP_cons, List.countP_cons, ih there]
    cases first : p x with
    | true =>
      rw [here first]
      simp only [Bool.or_false, if_true, Bool.false_eq_true, if_false]
      omega
    | false =>
      simp only [Bool.false_or, Bool.false_eq_true, if_false]
      omega

theorem lookup_filter_of_ne [DecidableEq κ] {key other : κ} (apart : other ≠ key)
    (entries : List (κ × α)) :
    (entries.filter fun entry => entry.1 ≠ key).lookup other = entries.lookup other := by
  induction entries with
  | nil => rfl
  | cons entry entries ih =>
    obtain ⟨first, x⟩ := entry
    by_cases same : first = key
    · subst same
      rw [List.filter_cons_of_neg (by simp), ih, List.lookup_cons, beq_false_of_ne apart]
    · rw [List.filter_cons_of_pos (by simpa using same), List.lookup_cons, List.lookup_cons, ih]

/-- Where something stands in a list that was made longer. -/
theorem split_append {xs ys earlier later : List α} {x : α}
    (split : xs ++ ys = earlier ++ x :: later) :
    (∃ rest, xs = earlier ++ x :: rest) ∨
      ∃ more, earlier = xs ++ more ∧ ys = more ++ x :: later := by
  obtain ⟨more, before, behind⟩ | ⟨rest, before, behind⟩ := List.append_eq_append_iff.1 split
  · exact .inr ⟨more, before, behind⟩
  · cases rest with
    | nil => exact .inr ⟨[], by rw [before, List.append_nil, List.append_nil], behind.symm⟩
    | cons y rest =>
      obtain ⟨rfl, _⟩ := List.cons_eq_cons.1 behind
      exact .inl ⟨rest, before⟩

/-- The first item without a property is one item. -/
theorem first_eq {p : α → Prop} {before after before' after' : List α} {x y : α}
    (split : before ++ x :: after = before' ++ y :: after') (all : ∀ z ∈ before, p z) (hx : ¬p x)
    (all' : ∀ z ∈ before', p z) (hy : ¬p y) : x = y := by
  obtain ⟨rest, rfl⟩ | ⟨more, rfl, same⟩ := split_append split
  · exact absurd (all y (List.mem_append_right _ List.mem_cons_self)) hy
  · cases more with
    | nil => exact (List.cons.inj same).1
    | cons z more =>
      obtain ⟨rfl, -⟩ := List.cons.inj same
      exact absurd (all' x (List.mem_append_right _ List.mem_cons_self)) hx

end Courier
