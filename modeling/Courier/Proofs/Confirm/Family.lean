import Courier.Proofs.Confirm.Tracker
import Mathlib.Algebra.BigOperators.Group.Finset.Basic

/-!
# The tracker as a family of sets

What a tracker is meant to keep is a set of numbers for each channel (`Family`). Whatever is done to
a tracker, it shows those sets; what it counts and how large it is follow from them
(`Tracker.refines_family`).
-/

namespace Courier.Confirm
set_option autoImplicit false

/-- A set of numbers for each channel. -/
abbrev Family : Type := String → Finset Nat

/-- What an operation makes of the sets: a number is added, taken out alone, or taken out with all
below it. -/
def Family.act (f : Family) : Tracker.Op → Family
  | .track channel n => Function.update f channel (insert n (f channel))
  | .ack channel tag true | .nack channel tag true =>
    Function.update f channel ((f channel).filter (tag < ·))
  | .ack channel tag false | .nack channel tag false | .forget channel tag =>
    Function.update f channel ((f channel).erase tag)

/-- The sets after some operations. -/
def Family.after (ops : List Tracker.Op) : Family := ops.foldl Family.act fun _ => ∅

/-- What is done to one channel changes no other's set. -/
theorem Family.act_of_ne {f : Family} {op : Tracker.Op} {channel : String}
    (apart : channel ≠ op.channel) : f.act op channel = f channel := by
  unfold Family.act
  split <;> exact Function.update_of_ne apart _ f

/-- Channels that nothing was done to have no numbers. -/
theorem Family.after_eq_empty {ops : List Tracker.Op} {channel : String}
    (untouched : channel ∉ ops.map Tracker.Op.channel) : Family.after ops channel = ∅ := by
  induction ops using List.reverseRecOn with
  | nil => rfl
  | append_singleton ops op ih =>
    rw [List.map_append, List.mem_append, not_or] at untouched
    have apart : channel ≠ op.channel := by simpa using untouched.2
    unfold Family.after
    rw [List.foldl_append]
    exact (Family.act_of_ne apart).trans (ih untouched.1)

/-! ## How many numbers there are -/

theorem length_insertAscending {n : Nat} {ms : List Nat} (ascending : ms.Pairwise (· < ·)) :
    (insertAscending n ms).length = ms.length + if n ∈ ms then 0 else 1 := by
  induction ms with
  | nil => simp [insertAscending]
  | cons m ms ih =>
    obtain ⟨least, ascending⟩ := List.pairwise_cons.1 ascending
    unfold insertAscending
    split
    · next below =>
      -- a number below the first is not among the others
      have absent : n ∉ m :: ms := by
        intro mem
        obtain rfl | mem := List.mem_cons.1 mem
        · omega
        · have := least n mem
          omega
      rw [if_neg absent]
      rfl
    · split
      · next same => simp [same]
      · next differs =>
        rw [List.length_cons, ih ascending, List.length_cons]
        simp only [List.mem_cons, differs, false_or]
        omega

namespace Tracker

variable {t : Tracker} {channel : String} {n tag : Nat} {multiple : Bool}
  {entries : List (String × List Nat)}

/-- How many numbers there are in a list of channels. -/
def amount : List (String × List Nat) → Nat
  | [] => 0
  | entry :: rest => entry.2.length + amount rest

theorem size_eq_amount (t : Tracker) : t.size = amount t.pending := by
  have from_ (k : Nat) (entries : List (String × List Nat)) :
      entries.foldl (fun n entry => n + entry.2.length) k = k + amount entries := by
    induction entries generalizing k with
    | nil => rfl
    | cons entry rest ih =>
      rw [List.foldl_cons, ih]
      simp only [amount]
      omega
  unfold size
  rw [from_, Nat.zero_add]

theorem amount_insert (ascending : ∀ entry ∈ entries, entry.2.Pairwise (· < ·)) :
    amount (insert channel n entries)
      = amount entries + if n ∈ (entries.lookup channel).getD [] then 0 else 1 := by
  induction entries with
  | nil => simp [amount, insert]
  | cons entry rest ih =>
    obtain ⟨key, ns⟩ := entry
    obtain ⟨first, others⟩ := List.forall_mem_cons.1 ascending
    unfold insert
    split
    · next same =>
      subst same
      rw [List.lookup_cons_self]
      have longer : (insertAscending n ns).length = _ := length_insertAscending first
      simp only [amount, longer, Option.getD_some]
      omega
    · next differs =>
      have more := ih others
      rw [lookup_cons_of_ne ns rest differs]
      simp only [amount] at more ⊢
      omega

/-- The numbers of a list are those that a confirmation covers and those that it does not. -/
theorem length_eq_covered_add (tag : Nat) (multiple : Bool) (ns : List Nat) :
    ns.length = ns.countP (covers tag multiple)
      + (ns.filter fun n => !covers tag multiple n).length := by
  rw [← List.countP_eq_length_filter, List.length_eq_countP_add_countP (covers tag multiple)]
  simp only [Bool.not_eq_true, Bool.decide_eq_false]

theorem amount_erase :
    amount (erase channel tag multiple entries)
      + ((entries.lookup channel).getD []).countP (covers tag multiple) = amount entries := by
  induction entries with
  | nil => rfl
  | cons entry rest ih =>
    obtain ⟨key, ns⟩ := entry
    unfold erase
    split
    · next same =>
      subst same
      have parts := length_eq_covered_add tag multiple ns
      rw [List.lookup_cons_self, Option.getD_some]
      dsimp only
      split
      · next none =>
        rw [List.isEmpty_iff.1 none, List.length_nil] at parts
        simp only [amount]
        omega
      · simp only [amount]
        omega
    · next differs =>
      rw [lookup_cons_of_ne ns rest differs]
      simp only [amount] at ih ⊢
      omega

/-- A tracker is as large as the numbers of its channels together. -/
theorem WellFormed.size_eq_sum (h : t.WellFormed) {channels : Finset String}
    (all : ∀ channel, t.pendingFor channel ≠ [] → channel ∈ channels) :
    t.size = ∑ channel ∈ channels, (t.pendingFor channel).length := by
  have within : (t.pending.map Prod.fst).toFinset ⊆ channels := by
    intro key mem
    obtain ⟨entry, listed, rfl⟩ := List.mem_map.1 (List.mem_toFinset.1 mem)
    apply all
    rw [h.pendingFor_of_mem listed]
    exact h.inhabited entry listed
  have others (channel : String) (_ : channel ∈ channels)
      (absent : channel ∉ (t.pending.map Prod.fst).toFinset) :
      (t.pendingFor channel).length = 0 := by
    have none : t.pending.lookup channel = none :=
      lookup_eq_none fun mem => absent (List.mem_toFinset.2 mem)
    unfold Tracker.pendingFor
    rw [none]
    rfl
  have total (entries : List (String × List Nat)) (own : ∀ entry ∈ entries,
      t.pendingFor entry.1 = entry.2) :
      amount entries = (entries.map fun entry => (t.pendingFor entry.1).length).sum := by
    induction entries with
    | nil => rfl
    | cons entry rest ih =>
      obtain ⟨first, others⟩ := List.forall_mem_cons.1 own
      rw [amount, List.map_cons, List.sum_cons, ih others, first]
  rw [← Finset.sum_subset within others, List.sum_toFinset _ h.keys, List.map_map, size_eq_amount]
  exact total t.pending fun _ mem => h.pendingFor_of_mem mem

theorem WellFormed.isEmpty_iff (h : t.WellFormed) : t.isEmpty = true ↔ t.size = 0 := by
  unfold isEmpty
  rw [size_eq_amount, List.isEmpty_iff]
  constructor
  · intro none
    rw [none]
    rfl
  · intro none
    cases entries : t.pending with
    | nil => rfl
    | cons entry rest =>
      have numbers : entry.2 ≠ [] := h.inhabited entry (entries ▸ List.mem_cons_self)
      have pos := List.length_pos_of_ne_nil numbers
      rw [entries] at none
      simp only [amount] at none
      omega

/-! ## The sets that a tracker shows -/

/-- The sets of a tracker. -/
def family (t : Tracker) : Family := fun channel => (t.pendingFor channel).toFinset

theorem mem_family : n ∈ t.family channel ↔ n ∈ t.pendingFor channel := List.mem_toFinset

theorem WellFormed.card_family (h : t.WellFormed) (channel : String) :
    (t.family channel).card = (t.pendingFor channel).length :=
  List.toFinset_card_of_nodup ((h.pendingFor channel).imp Nat.ne_of_lt)

theorem covers_multiple {m : Nat} : covers tag true m = false ↔ tag < m := by
  simp [covers]

/-- The set of a channel that a confirmation was taken on. -/
theorem WellFormed.family_erase (h : t.WellFormed) (acked nacked : Nat) :
    family ⟨Tracker.erase channel tag multiple t.pending, acked, nacked⟩
      = Function.update t.family channel
        ((t.family channel).filter fun m => covers tag multiple m = false) := by
  funext other
  ext m
  obtain rfl | ne := eq_or_ne other channel
  · rw [Function.update_self, Finset.mem_filter, mem_family, mem_family]
    exact h.mem_erase_self acked nacked
  · rw [Function.update_of_ne ne, mem_family, mem_family, pendingFor_erase_of_ne ne]

/-- Each operation does to the sets of a tracker what it is meant to. -/
theorem WellFormed.family_act (h : t.WellFormed) (op : Op) :
    (t.act op).family = t.family.act op := by
  have upTo (channel : String) (tag acked nacked : Nat) :
      family ⟨Tracker.erase channel tag true t.pending, acked, nacked⟩
        = Function.update t.family channel ((t.family channel).filter (tag < ·)) := by
    rw [h.family_erase]
    congr 1
    apply Finset.filter_congr
    intro m _
    exact covers_multiple
  have one (channel : String) (tag acked nacked : Nat) :
      family ⟨Tracker.erase channel tag false t.pending, acked, nacked⟩
        = Function.update t.family channel ((t.family channel).erase tag) := by
    rw [h.family_erase, ← Finset.filter_ne']
    congr 1
    apply Finset.filter_congr
    intro m _
    exact covers_single
  cases op with
  | track channel n =>
    show (t.track channel n).family = Function.update t.family channel _
    funext other
    ext m
    obtain rfl | ne := eq_or_ne other channel
    · rw [Function.update_self, Finset.mem_insert, mem_family, mem_family]
      exact mem_track_self
    · rw [Function.update_of_ne ne, mem_family, mem_family, pendingFor_track_of_ne ne]
  | ack channel tag multiple =>
    cases multiple with
    | false => exact one channel tag _ _
    | true => exact upTo channel tag _ _
  | nack channel tag multiple =>
    cases multiple with
    | false => exact one channel tag _ _
    | true => exact upTo channel tag _ _
  | forget channel n => exact one channel n _ _

/-- What a confirmation counts is what it takes out of the set. -/
theorem WellFormed.covered_eq_card (h : t.WellFormed) (channel : String) (tag : Nat)
    (multiple : Bool) (acked nacked : Nat) :
    t.covered channel tag multiple
      = (t.family channel
          \ family ⟨Tracker.erase channel tag multiple t.pending, acked, nacked⟩ channel).card := by
  have after := h.erase channel tag multiple acked nacked
  have fewer : family ⟨Tracker.erase channel tag multiple t.pending, acked, nacked⟩ channel
      ⊆ t.family channel := by
    rw [h.family_erase, Function.update_self]
    exact Finset.filter_subset _ _
  have parts := length_eq_covered_add tag multiple (t.pendingFor channel)
  have kept : Tracker.pendingFor ⟨Tracker.erase channel tag multiple t.pending, acked, nacked⟩ channel
      = (t.pendingFor channel).filter fun n => !covers tag multiple n := lookup_erase_self h.keys
  rw [Finset.card_sdiff_of_subset fewer, h.card_family, after.card_family, kept]
  unfold Tracker.covered
  omega

/-! ## Runs -/

/-- A tracker after some operations. -/
def after (ops : List Op) : Tracker := ops.foldl act empty

/-- The sum of a number that each operation of a run has on the tracker it is done to. -/
def total (count : Tracker → Op → Nat) (t : Tracker) : List Op → Nat
  | [] => 0
  | op :: ops => count t op + total count (t.act op) ops

/-- What an acknowledgement returns. -/
def confirmed (t : Tracker) : Op → Nat
  | .ack channel tag multiple => (t.ack channel tag multiple).2
  | _ => 0

/-- What a refusal returns. -/
def refused (t : Tracker) : Op → Nat
  | .nack channel tag multiple => (t.nack channel tag multiple).2
  | _ => 0

/-- Whether a number is recorded that was not outstanding. -/
def added (t : Tracker) : Op → Nat
  | .track channel n => if t.contains channel n then 0 else 1
  | _ => 0

/-- Whether a number is dropped that was outstanding. -/
def dropped (t : Tracker) : Op → Nat
  | .forget channel n => if t.contains channel n then 1 else 0
  | _ => 0

theorem contains_iff : t.contains channel n = true ↔ n ∈ t.pendingFor channel :=
  List.contains_iff_mem

/-- One operation: what comes in was not there before, and what goes out is counted or dropped. -/
theorem WellFormed.balance_act (h : t.WellFormed) (op : Op) :
    (t.act op).acked = t.acked + t.confirmed op ∧ (t.act op).nacked = t.nacked + t.refused op ∧
      t.size + t.added op
        = (t.act op).size + t.confirmed op + t.refused op + t.dropped op := by
  have taken (channel : String) (tag : Nat) (multiple : Bool) (acked nacked : Nat) :
      t.size = size ⟨Tracker.erase channel tag multiple t.pending, acked, nacked⟩
        + t.covered channel tag multiple := by
    rw [size_eq_amount, size_eq_amount]
    exact amount_erase.symm
  cases op with
  | track channel n =>
    refine ⟨rfl, rfl, ?_⟩
    have larger : (t.track channel n).size = t.size + if n ∈ t.pendingFor channel then 0 else 1 := by
      rw [size_eq_amount, size_eq_amount]
      exact amount_insert h.ascending
    show t.size + (if t.contains channel n = true then 0 else 1) = (t.track channel n).size
    simp only [larger, contains_iff]
  | ack channel tag multiple => exact ⟨rfl, rfl, taken channel tag multiple _ _⟩
  | nack channel tag multiple => exact ⟨rfl, rfl, taken channel tag multiple _ _⟩
  | forget channel n =>
    refine ⟨rfl, rfl, ?_⟩
    have single : t.covered channel n false = if t.contains channel n = true then 1 else 0 := by
      split
      · next there => exact h.covered_single (contains_iff.1 there)
      · next absent =>
        unfold Tracker.covered
        rw [List.countP_eq_zero]
        intro m mem covered
        have same : ¬ covers n false m = false := by simp [covered]
        rw [covers_single, not_not] at same
        exact absent (contains_iff.2 (same ▸ mem))
    have fewer := taken channel n false t.acked t.nacked
    rw [single] at fewer
    exact fewer

theorem wellFormed_after (ops : List Op) : (after ops).WellFormed := by
  unfold after
  induction ops using List.reverseRecOn with
  | nil => exact wellFormed_empty
  | append_singleton ops op ih =>
    rw [List.foldl_append]
    exact ih.act op

/-- The sets of a tracker after some operations. -/
theorem family_after (ops : List Op) : (after ops).family = Family.after ops := by
  induction ops using List.reverseRecOn with
  | nil => rfl
  | append_singleton ops op ih =>
    have act : ((after ops).act op).family = (after ops).family.act op :=
      (wellFormed_after ops).family_act op
    unfold after Family.after at *
    rw [List.foldl_append, List.foldl_append, ← ih]
    exact act

/-- What comes in, goes out and is counted over a run. -/
theorem WellFormed.balance_foldl (h : t.WellFormed) (ops : List Op) :
    (ops.foldl Tracker.act t).acked = t.acked + total confirmed t ops ∧
      (ops.foldl Tracker.act t).nacked = t.nacked + total refused t ops ∧
      t.size + total added t ops
        = (ops.foldl Tracker.act t).size + total confirmed t ops + total refused t ops
          + total dropped t ops := by
  induction ops generalizing t with
  | nil => exact ⟨rfl, rfl, rfl⟩
  | cons op ops ih =>
    obtain ⟨acked, nacked, balance⟩ := h.balance_act op
    obtain ⟨ackedRest, nackedRest, balanceRest⟩ := ih (h.act op)
    simp only [List.foldl_cons, total]
    omega

/-- The tracker refines a family of sets. After any operations under any channels, with any numbers
and tags:

* the outstanding numbers of each channel are its set, in ascending order, where recording adds a
  number, a single confirmation takes out that number and a cumulative one every number up to its
  tag, in its channel alone;
* every confirmation and refusal returns how many numbers it takes out, the two counts are the sums
  of what was returned, and a dropped number changes neither;
* the size is that of all sets together, and a tracker is empty exactly if that is zero, no channel
  being kept without numbers;
* the numbers that were added are outstanding, confirmed, refused or dropped. -/
theorem refines_family (ops : List Op) :
    let t := after ops
    let f := Family.after ops
    (∀ channel, (t.pendingFor channel).Pairwise (· < ·) ∧
      (t.pendingFor channel).toFinset = f channel) ∧
    (∀ channel n, t.contains channel n = true ↔ n ∈ f channel) ∧
    (∀ channel tag multiple,
      (t.ack channel tag multiple).2
          = (f channel \ f.act (.ack channel tag multiple) channel).card ∧
        (t.nack channel tag multiple).2
          = (f channel \ f.act (.nack channel tag multiple) channel).card) ∧
    t.acked = total confirmed empty ops ∧
    t.nacked = total refused empty ops ∧
    (∀ channel n, (t.forget channel n).acked = t.acked ∧
      (t.forget channel n).nacked = t.nacked) ∧
    t.size = ∑ channel ∈ (ops.map Op.channel).toFinset, (f channel).card ∧
    (∀ channel, channel ∉ ops.map Op.channel → f channel = ∅) ∧
    (t.isEmpty = true ↔ t.size = 0) ∧
    (∀ entry ∈ t.pending, entry.2 ≠ []) ∧
    total added empty ops = t.size + t.acked + t.nacked + total dropped empty ops := by
  intro t f
  have wellFormed : t.WellFormed := wellFormed_after ops
  have shown : t.family = f := family_after ops
  have untouched (channel : String) (absent : channel ∉ ops.map Op.channel) : f channel = ∅ :=
    Family.after_eq_empty absent
  obtain ⟨acked, nacked, balance⟩ := wellFormed_empty.balance_foldl ops
  change t.acked = 0 + _ at acked
  change t.nacked = 0 + _ at nacked
  change 0 + _ = t.size + _ + _ + _ at balance
  refine ⟨?sets, ?members, ?returned, ?acked, ?nacked, ?forgotten, ?size, untouched,
    wellFormed.isEmpty_iff, wellFormed.inhabited, ?balance⟩
  case sets =>
    intro channel
    exact ⟨wellFormed.pendingFor channel, congrFun shown channel⟩
  case members =>
    intro channel n
    rw [← shown, contains_iff, mem_family]
  case returned =>
    intro channel tag multiple
    rw [← shown, ← wellFormed.family_act, ← wellFormed.family_act]
    constructor
    · exact wellFormed.covered_eq_card channel tag multiple _ _
    · exact wellFormed.covered_eq_card channel tag multiple _ _
  case acked => omega
  case nacked => omega
  case forgotten =>
    intro channel n
    exact ⟨rfl, rfl⟩
  case size =>
    have all (channel : String) (numbers : t.pendingFor channel ≠ []) :
        channel ∈ (ops.map Op.channel).toFinset := by
      by_contra absent
      have none : t.family channel = ∅ := by
        rw [shown]
        exact untouched channel (mt List.mem_toFinset.2 absent)
      exact numbers (List.toFinset_eq_empty_iff _ |>.1 none)
    rw [wellFormed.size_eq_sum all, ← shown]
    apply Finset.sum_congr rfl
    intro channel _
    exact (wellFormed.card_family channel).symm
  case balance => omega

/-- A number recorded twice is one; the greatest tag takes out all numbers of its channel. -/
example :
    let t := after [.track "a" 0, .track "a" 7, .track "a" 7, .track "b" 3, .forget "b" 4,
      .ack "a" (2 ^ 64 - 1) true]
    t.pendingFor "a" = [] ∧ t.pendingFor "b" = [3] ∧ t.acked = 2 ∧ t.size = 1 := by decide

end Tracker

end Courier.Confirm
