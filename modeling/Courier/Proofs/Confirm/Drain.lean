import Courier.Confirm.Drain
import Courier.Proofs.Confirm.Tracker
import Courier.Proofs.Lists
import Mathlib.Data.List.Induction

/-!
# No wake-up is lost

A waiter sleeps without having heard anything only while something is outstanding
(`Drain.Attentive`): it listened before it looked, and whatever empties the tracker after that is
heard. So a waiter never outlives the last number by itself, and it returns only when nothing is
outstanding (`Drain.no_wakeup_lost`).
-/

namespace Courier.Confirm
set_option autoImplicit false

theorem Waiter.hear_ne_asleep (w : Waiter) : w.hear ≠ .asleep false := by
  cases w <;> nofun

theorem Waiter.hear_eq_done {w : Waiter} (h : w.hear = .done) : w = .done := by
  cases w with
  | done => rfl
  | _ => cases h

theorem Waiter.step_listening (t : Tracker) (heard : Bool) :
    (listening heard).step t = if t.isEmpty then .done else .asleep heard := rfl

/-- A waiter falls asleep on what it has seen outstanding. -/
theorem Waiter.step_eq_asleep {t : Tracker} {w : Waiter} (h : w.step t = .asleep false) :
    w = .asleep false ∨ t.isEmpty = false := by
  cases w with
  | starting => cases h
  | listening heard =>
    right
    rw [step_listening] at h
    split at h
    · cases h
    · next outstanding => exact Bool.eq_false_iff.2 outstanding
  | asleep heard =>
    cases heard with
    | true => cases h
    | false => exact .inl rfl
  | done => cases h

/-- A waiter returns on having seen nothing outstanding. -/
theorem Waiter.step_eq_done {t : Tracker} {w : Waiter} (h : w.step t = .done) :
    w = .done ∨ t.isEmpty = true := by
  cases w with
  | starting => cases h
  | listening heard =>
    right
    rw [step_listening] at h
    split at h
    · next empty => exact empty
    · cases h
  | asleep heard => cases heard <;> cases h
  | done => exact .inl rfl

/-- Where nothing is outstanding, a waiter that does not sleep unheard returns in three steps. -/
theorem Waiter.step_step_step {t : Tracker} (none : t.isEmpty = true) {w : Waiter}
    (awake : w ≠ .asleep false) : ((w.step t).step t).step t = .done := by
  have look (heard : Bool) : (Waiter.listening heard).step t = .done := if_pos none
  cases w with
  | starting => exact congrArg (Waiter.step t) (look false)
  | listening heard => rw [look]; rfl
  | asleep heard =>
    cases heard with
    | true => exact look false
    | false => exact absurd rfl awake
  | done => rfl

/-- A tracker in which a number was recorded is not empty. -/
theorem Tracker.isEmpty_track (t : Tracker) (channel : String) (n : Nat) :
    (t.track channel n).isEmpty = false := by
  show (insert channel n t.pending).isEmpty = false
  cases t.pending with
  | nil => rfl
  | cons entry rest =>
    unfold insert
    split <;> rfl

namespace Drain

variable {ι : Type}

/-! ## What the tracker is -/

theorem tracker_notify (d : Drain ι) : d.notify.tracker = d.tracker := by
  unfold notify
  split <;> rfl

theorem tracker_perform (d : Drain ι) (op : Tracker.Op) :
    (d.perform op).tracker = d.tracker.act op := by
  cases op with
  | track channel n => rfl
  | ack channel tag multiple => exact tracker_notify _
  | nack channel tag multiple => exact tracker_notify _
  | forget channel n => exact tracker_notify _

variable [DecidableEq ι] {d : Drain ι} {i j : ι}

/-! ## Where waiters are -/

theorem lookup_map_snd (f : ι → Waiter → Waiter) (ws : List (ι × Waiter)) (i : ι) :
    (ws.map fun (j, w) => (j, f j w)).lookup i = (ws.lookup i).map (f i) := by
  induction ws with
  | nil => rfl
  | cons entry ws ih =>
    obtain ⟨j, w⟩ := entry
    rw [List.map_cons, List.lookup_cons, List.lookup_cons, ih]
    cases same : i == j with
    | true => rw [beq_iff_eq.1 same]; rfl
    | false => rfl

theorem waiter?_notify (d : Drain ι) (i : ι) :
    d.notify.waiter? i
      = if d.tracker.isEmpty then (d.waiter? i).map Waiter.hear else d.waiter? i := by
  unfold notify
  split
  · exact lookup_map_snd (fun _ => Waiter.hear) d.waiters i
  · rfl

/-- Whatever is done to the tracker, a waiter is left alone or told. -/
theorem waiter?_perform (d : Drain ι) (op : Tracker.Op) (i : ι) :
    (d.perform op).waiter? i = d.waiter? i ∨
      (d.perform op).waiter? i = (d.waiter? i).map Waiter.hear := by
  have notified (t : Tracker) : { d with tracker := t }.notify.waiter? i = d.waiter? i ∨
      { d with tracker := t }.notify.waiter? i = (d.waiter? i).map Waiter.hear := by
    rw [waiter?_notify]
    split
    · exact .inr rfl
    · exact .inl rfl
  cases op with
  | track channel n => exact .inl rfl
  | ack channel tag multiple => exact notified _
  | nack channel tag multiple => exact notified _
  | forget channel n => exact notified _

theorem waiter?_advance (d : Drain ι) (j i : ι) :
    (d.advance j).waiter? i
      = (d.waiter? i).map fun w => if i = j then w.step d.tracker else w :=
  lookup_map_snd (fun i w => if i = j then w.step d.tracker else w) d.waiters i

theorem waiter?_join_self (d : Drain ι) (i : ι) : (d.join i).waiter? i = some .starting := by
  have gone : (d.waiters.filter fun (j, _) => j ≠ i).lookup i = none := by
    rw [List.lookup_eq_none_iff]
    intro entry mem
    have other : entry.1 ≠ i := of_decide_eq_true (List.mem_filter.1 mem).2
    exact bne_iff_ne.2 other.symm
  show List.lookup i (_ ++ [(i, Waiter.starting)]) = _
  rw [List.lookup_append, gone]
  exact List.lookup_cons_self

theorem waiter?_poll {w : Waiter} (found : d.waiter? i = some w) :
    (d.poll i).waiter? i = some (((w.step d.tracker).step d.tracker).step d.tracker) := by
  unfold poll
  simp only [waiter?_advance, found, Option.map_some, if_true]
  rfl

/-- Who starts to wait returns at once if nothing is outstanding, and sleeps otherwise. -/
theorem waiter?_wait (d : Drain ι) (i : ι) :
    (d.wait i).waiter? i = some (if d.tracker.isEmpty then .done else .asleep false) := by
  unfold wait
  rw [waiter?_advance, waiter?_advance, waiter?_join_self, Option.map_some, Option.map_some,
    if_pos rfl, if_pos rfl]
  rfl

theorem waiter?_join_of_ne (ne : i ≠ j) : (d.join j).waiter? i = d.waiter? i := by
  have kept : (d.waiters.filter fun (k, _) => k ≠ j).lookup i = d.waiters.lookup i :=
    lookup_filter_of_ne ne d.waiters
  have last : List.lookup i [(j, Waiter.starting)] = none := by
    rw [List.lookup_cons, beq_false_of_ne ne]
    rfl
  show List.lookup i (_ ++ [(j, Waiter.starting)]) = _
  rw [List.lookup_append, kept, last, Option.or_none]
  rfl

/-! ## What a step does -/

theorem wellFormed_act (h : d.tracker.WellFormed) (a : Act ι) : (d.act a).tracker.WellFormed := by
  cases a with
  | join i => exact h
  | advance i => exact h
  | perform op =>
    show (d.perform op).tracker.WellFormed
    rw [tracker_perform]
    exact h.act op

/-- Who sleeps without having heard anything has something to wait for. -/
def Attentive (d : Drain ι) : Prop :=
  ∀ i, d.waiter? i = some (.asleep false) → d.tracker.isEmpty = false

/-- Those who listen are told, whatever was done. -/
theorem attentive_notify (d : Drain ι) : d.notify.Attentive := by
  intro i asleep
  rw [tracker_notify]
  rw [waiter?_notify] at asleep
  split at asleep
  · obtain ⟨w, _, heard⟩ := Option.map_eq_some_iff.1 asleep
    exact absurd heard w.hear_ne_asleep
  · next outstanding => exact Bool.eq_false_iff.2 outstanding

theorem attentive_perform (d : Drain ι) (op : Tracker.Op) : (d.perform op).Attentive := by
  cases op with
  | track channel n => exact fun _ _ => Tracker.isEmpty_track d.tracker channel n
  | ack channel tag multiple => exact attentive_notify _
  | nack channel tag multiple => exact attentive_notify _
  | forget channel n => exact attentive_notify _

theorem Attentive.act (h : d.Attentive) (a : Act ι) : (d.act a).Attentive := by
  cases a with
  | join j =>
    intro i asleep
    change (d.join j).waiter? i = _ at asleep
    by_cases same : i = j
    · subst same
      rw [waiter?_join_self] at asleep
      cases asleep
    · rw [waiter?_join_of_ne same] at asleep
      exact h i asleep
  | advance j =>
    intro i asleep
    change (d.advance j).waiter? i = _ at asleep
    rw [waiter?_advance] at asleep
    obtain ⟨w, found, stepped⟩ := Option.map_eq_some_iff.1 asleep
    split at stepped
    · obtain rfl | outstanding := Waiter.step_eq_asleep stepped
      · exact h i found
      · exact outstanding
    · exact h i (stepped ▸ found)
  | perform op => exact attentive_perform d op

/-- Only a step of its own, on an empty tracker, makes a waiter return. -/
theorem act_eq_done {a : Act ι} (before : d.waiter? i ≠ some .done)
    (returned : (d.act a).waiter? i = some .done) : a = .advance i ∧ d.tracker.isEmpty = true := by
  cases a with
  | join j =>
    change (d.join j).waiter? i = _ at returned
    by_cases same : i = j
    · subst same
      rw [waiter?_join_self] at returned
      cases returned
    · rw [waiter?_join_of_ne same] at returned
      exact absurd returned before
  | advance j =>
    change (d.advance j).waiter? i = _ at returned
    rw [waiter?_advance] at returned
    obtain ⟨w, found, stepped⟩ := Option.map_eq_some_iff.1 returned
    split at stepped
    · next same =>
      subst same
      obtain rfl | none := Waiter.step_eq_done stepped
      · exact absurd found before
      · exact ⟨rfl, none⟩
    · exact absurd (stepped ▸ found) before
  | perform op =>
    change (d.perform op).waiter? i = _ at returned
    obtain left | told := waiter?_perform d op i
    · exact absurd (left ▸ returned) before
    · rw [told] at returned
      obtain ⟨w, found, heard⟩ := Option.map_eq_some_iff.1 returned
      rw [found, Waiter.hear_eq_done heard] at before
      exact absurd rfl before

/-! ## Runs -/

theorem after_snoc (acts : List (Act ι)) (a : Act ι) : after (acts ++ [a]) = (after acts).act a :=
  List.foldl_append

theorem wellFormed_after (acts : List (Act ι)) : (after acts).tracker.WellFormed := by
  induction acts using List.reverseRecOn with
  | nil => exact Tracker.wellFormed_empty
  | append_singleton acts a ih =>
    rw [after_snoc]
    exact wellFormed_act ih a

theorem attentive_after (acts : List (Act ι)) : (after acts).Attentive := by
  induction acts using List.reverseRecOn with
  | nil => exact fun i asleep => by cases asleep
  | append_singleton acts a ih =>
    rw [after_snoc]
    exact ih.act a

/-- No wake-up is lost. With any waiters, whose steps fall in any way between whatever is done to
the tracker:

* a waiter returns in a step of its own, and nothing is outstanding under any channel then;
* a waiter that sleeps without having heard anything has some number to wait for;
* where nothing is outstanding, a waiter that is let go on returns;
* who starts to wait returns at once if nothing is outstanding, and sleeps otherwise. -/
theorem no_wakeup_lost (acts : List (Act ι)) :
    let d := after acts
    (∀ a i, d.waiter? i ≠ some .done → (d.act a).waiter? i = some .done →
      a = .advance i ∧ (∀ channel, d.tracker.pendingFor channel = []) ∧
        (d.act a).tracker = d.tracker) ∧
    (∀ i, d.waiter? i = some (.asleep false) → ∃ channel n, n ∈ d.tracker.pendingFor channel) ∧
    (∀ i, (d.waiter? i).isSome = true → (∀ channel, d.tracker.pendingFor channel = []) →
      (d.poll i).waiter? i = some .done) ∧
    (∀ i, (d.wait i).waiter? i = some (if d.tracker.isEmpty then .done else .asleep false)) := by
  intro d
  have none_iff := (wellFormed_after acts).isEmpty_iff_pendingFor
  have attentive : d.Attentive := attentive_after acts
  refine ⟨?returns, ?sleeps, ?goesOn, d.waiter?_wait⟩
  case returns =>
    intro a i before returned
    obtain ⟨rfl, none⟩ := act_eq_done before returned
    exact ⟨rfl, none_iff.1 none, rfl⟩
  case sleeps =>
    intro i asleep
    by_contra nothing
    have none : ∀ channel, d.tracker.pendingFor channel = [] := fun channel =>
      List.eq_nil_iff_forall_not_mem.2 fun n there => nothing ⟨channel, n, there⟩
    have outstanding := attentive i asleep
    rw [none_iff.2 none] at outstanding
    cases outstanding
  case goesOn =>
    intro i there none
    obtain ⟨w, found⟩ := Option.isSome_iff_exists.1 there
    have empty := none_iff.2 none
    have awake : w ≠ .asleep false := by
      rintro rfl
      rw [attentive i found] at empty
      cases empty
    rw [waiter?_poll found, Waiter.step_step_step empty awake]

/-- What falls between listening and looking is heard: the waiter does not sleep on, and looks again
at what was recorded since. -/
example :
    let between : List (Act Nat) := [.perform (.track "a" 1), .join 0, .advance 0,
      .perform (.ack "a" 1 false), .perform (.track "a" 2), .advance 0]
    let confirmed := (after between).perform (.forget "a" 2)
    (after between).waiter? 0 = some (.asleep true) ∧
      ((after between).poll 0).waiter? 0 = some (.asleep false) ∧
      (confirmed.poll 0).waiter? 0 = some .done := by decide

end Drain

end Courier.Confirm
