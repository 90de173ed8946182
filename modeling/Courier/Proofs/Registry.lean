import Courier.Registry

/-!
# What a registry resolves

A name stands for the first registration that has it (`Registry.resolve_ofList`), so every contract
is found under its own name (`Registry.resolve_discover`).
-/

namespace Courier
set_option autoImplicit false

namespace Registry

/-- What a registration of a resolved name is called. -/
theorem name_of_resolve {registry : Registry} {name : String} {registration : Registration}
    (resolved : registry.resolve name = some registration) : registration.name = name := by
  have found := List.find?_some resolved
  exact of_decide_eq_true found

theorem resolve_add (r : Registry) (e : Registration) (name : String) :
    (r.add e).1.resolve name = (r.resolve name).or (if e.name = name then some e else none) := by
  unfold add
  split
  · next taken =>
    split
    · next same =>
      obtain ⟨old, found⟩ := Option.isSome_iff_exists.1 taken
      rw [← same, found]
      rfl
    · exact (Option.or_none).symm
  · unfold resolve
    rw [List.find?_append]
    simp only [List.find?_cons, List.find?_nil]
    split <;> simp_all

theorem resolve_foldl (es : List Registration) (r : Registry) (events : List Log.Event)
    (name : String) :
    (es.foldl (fun (r, events) e =>
      let (r, more) := r.add e
      (r, events ++ more)) (r, events)).1.resolve name
      = (r.resolve name).or (es.find? fun e => e.name = name) := by
  induction es generalizing r events with
  | nil => exact (Option.or_none).symm
  | cons e es ih =>
    rw [List.foldl_cons]
    dsimp only
    rw [ih, resolve_add, Option.or_assoc, List.find?_cons]
    split <;> simp_all

/-- Of several registrations of one name the first one counts. -/
theorem resolve_ofList (es : List Registration) (name : String) :
    (ofList es).1.resolve name = es.find? fun e => e.name = name :=
  resolve_foldl es ⟨[]⟩ [] name

/-- Every contract is registered under its name. -/
theorem resolve_discover (c : Contract) : discover.resolve c.name = some (.of c) := by
  have found : Contract.all.find? (fun d => d.name = c.name) = some c := by
    cases c <;> decide
  unfold discover
  rw [resolve_ofList, List.find?_map]
  show (Contract.all.find? fun d => d.name = c.name).map Registration.of = _
  rw [found]
  rfl

/-- Registrations that are in the order of their names give them as they come. -/
theorem names_of_pairwise {r : Registry}
    (ordered : r.entries.Pairwise fun a b => a.name ≤ b.name) :
    r.names = r.entries.map (·.name) := by
  unfold names sorted
  rw [List.mergeSort_of_pairwise (ordered.imp decide_eq_true)]

theorem pairwise_sorted (es : List Registration) :
    (sorted es).Pairwise fun a b => a.name ≤ b.name := by
  have ordered : (sorted es).Pairwise fun a b => decide (a.name ≤ b.name) := by
    unfold sorted
    apply List.pairwise_mergeSort
    · intro a b c ab bc
      exact decide_eq_true (String.le_trans (of_decide_eq_true ab) (of_decide_eq_true bc))
    · intro a b
      simp [String.le_total a.name b.name]
  exact ordered.imp of_decide_eq_true

/-- Names are in ascending order. -/
theorem pairwise_names (r : Registry) : r.names.Pairwise (· ≤ ·) :=
  List.pairwise_map.2 (pairwise_sorted r.entries)

end Registry

end Courier
