import Courier.Confirm.Run

/-!
# What the tracker keeps

A tracker holds one set of numbers for each channel: no channel twice, its numbers ascending, none
without numbers (`Tracker.WellFormed`). Each operation changes the set of its own channel as it says
and that of no other.
-/

namespace Courier.Confirm
set_option autoImplicit false

theorem insertAscending_ne_nil (n : Nat) (ms : List Nat) : insertAscending n ms ≠ [] :=
  List.ne_nil_of_mem (mem_insertAscending.2 (.inl rfl))

namespace Tracker

variable {channel other : String} {n tag : Nat} {multiple : Bool}
  {entries : List (String × List Nat)}

/-! Entries of a list of channels. -/

theorem lookup_cons_of_ne (ns : List Nat) (rest : List (String × List Nat)) (ne : other ≠ channel) :
    List.lookup channel ((other, ns) :: rest) = List.lookup channel rest := by
  rw [List.lookup_cons, beq_false_of_ne ne.symm]

theorem lookup_eq_none (absent : channel ∉ entries.map Prod.fst) :
    entries.lookup channel = none := by
  rw [List.lookup_eq_none_iff]
  intro entry mem
  exact bne_iff_ne.2 fun same => absent (same ▸ List.mem_map_of_mem mem)

theorem lookup_insert_self :
    (insert channel n entries).lookup channel
      = some (insertAscending n ((entries.lookup channel).getD [])) := by
  induction entries with
  | nil => exact List.lookup_cons_self
  | cons entry rest ih =>
    obtain ⟨key, ns⟩ := entry
    unfold insert
    split
    · next same =>
      subst same
      rw [List.lookup_cons_self, List.lookup_cons_self]
      rfl
    · next differs => rw [lookup_cons_of_ne ns _ differs, lookup_cons_of_ne ns _ differs, ih]

theorem lookup_insert_of_ne (ne : other ≠ channel) :
    (insert channel n entries).lookup other = entries.lookup other := by
  induction entries with
  | nil => exact lookup_cons_of_ne [n] [] ne.symm
  | cons entry rest ih =>
    obtain ⟨key, ns⟩ := entry
    unfold insert
    split
    · next same =>
      subst same
      rw [lookup_cons_of_ne _ rest ne.symm, lookup_cons_of_ne _ rest ne.symm]
    · rw [List.lookup_cons, List.lookup_cons, ih]

theorem lookup_erase_of_ne (ne : other ≠ channel) :
    (erase channel tag multiple entries).lookup other = entries.lookup other := by
  induction entries with
  | nil => rfl
  | cons entry rest ih =>
    obtain ⟨key, ns⟩ := entry
    unfold erase
    split
    · next same =>
      subst same
      dsimp only
      rw [lookup_cons_of_ne ns rest ne.symm]
      split
      · rfl
      · rw [lookup_cons_of_ne _ rest ne.symm]
    · rw [List.lookup_cons, List.lookup_cons, ih]

/-- What a channel keeps. -/
theorem lookup_erase_self (keys : (entries.map Prod.fst).Nodup) :
    ((erase channel tag multiple entries).lookup channel).getD []
      = ((entries.lookup channel).getD []).filter fun n => !covers tag multiple n := by
  induction entries with
  | nil => rfl
  | cons entry rest ih =>
    obtain ⟨key, ns⟩ := entry
    rw [List.map_cons, List.nodup_cons] at keys
    unfold erase
    split
    · next same =>
      subst same
      dsimp only
      rw [List.lookup_cons_self]
      split
      · next empty =>
        rw [lookup_eq_none keys.1]
        exact (List.isEmpty_iff.1 empty).symm
      · rw [List.lookup_cons_self]
        rfl
    · next differs => rw [lookup_cons_of_ne ns _ differs, lookup_cons_of_ne ns _ differs, ih keys.2]

theorem mem_keys_insert (h : other ∈ (insert channel n entries).map Prod.fst) :
    other = channel ∨ other ∈ entries.map Prod.fst := by
  induction entries with
  | nil => exact .inl (List.mem_singleton.1 h)
  | cons entry rest ih =>
    obtain ⟨key, ns⟩ := entry
    unfold insert at h
    split at h
    · exact .inr h
    · rw [List.map_cons] at h ⊢
      obtain rfl | h := List.mem_cons.1 h
      · exact .inr List.mem_cons_self
      · obtain same | old := ih h
        · exact .inl same
        · exact .inr (List.mem_cons_of_mem key old)

theorem keys_erase_sublist :
    ((erase channel tag multiple entries).map Prod.fst).Sublist (entries.map Prod.fst) := by
  induction entries with
  | nil => exact .slnil
  | cons entry rest ih =>
    obtain ⟨key, ns⟩ := entry
    unfold erase
    split
    · dsimp only
      split
      · exact (List.Sublist.refl _).cons key
      · exact .refl _
    · exact ih.cons_cons key

theorem keys_insert (keys : (entries.map Prod.fst).Nodup) :
    ((insert channel n entries).map Prod.fst).Nodup := by
  induction entries with
  | nil => exact List.pairwise_singleton _ channel
  | cons entry rest ih =>
    obtain ⟨key, ns⟩ := entry
    rw [List.map_cons, List.nodup_cons] at keys
    unfold insert
    split
    · exact List.nodup_cons.2 keys
    · next differs =>
      refine List.nodup_cons.2 ⟨fun mem => ?_, ih keys.2⟩
      obtain same | old := mem_keys_insert mem
      · exact differs same
      · exact keys.1 old

/-- What holds of the new numbers of a channel and of every old entry holds of every entry. -/
theorem forall_insert {P : List Nat → Prop} (old : ∀ entry ∈ entries, P entry.2) (single : P [n])
    (more : ∀ ns, P ns → P (insertAscending n ns)) :
    ∀ entry ∈ insert channel n entries, P entry.2 := by
  induction entries with
  | nil =>
    intro entry mem
    obtain rfl := List.mem_singleton.1 mem
    exact single
  | cons first rest ih =>
    obtain ⟨key, ns⟩ := first
    obtain ⟨head, tail⟩ := List.forall_mem_cons.1 old
    unfold insert
    split
    · exact List.forall_mem_cons.2 ⟨more ns head, tail⟩
    · exact List.forall_mem_cons.2 ⟨head, ih tail⟩

theorem forall_erase {P : List Nat → Prop} (old : ∀ entry ∈ entries, P entry.2)
    (fewer : ∀ ns, P ns → (ns.filter fun n => !covers tag multiple n) ≠ [] →
      P (ns.filter fun n => !covers tag multiple n)) :
    ∀ entry ∈ erase channel tag multiple entries, P entry.2 := by
  induction entries with
  | nil =>
    intro entry mem
    cases mem
  | cons first rest ih =>
    obtain ⟨key, ns⟩ := first
    obtain ⟨head, tail⟩ := List.forall_mem_cons.1 old
    unfold erase
    split
    · dsimp only
      split
      · exact tail
      · next left =>
        refine List.forall_mem_cons.2 ⟨fewer ns head fun empty => ?_, tail⟩
        exact left (List.isEmpty_iff.2 empty)
    · exact List.forall_mem_cons.2 ⟨head, ih tail⟩

/-- One set of numbers for each channel that has any. -/
structure WellFormed (t : Tracker) : Prop where
  keys : (t.pending.map Prod.fst).Nodup
  ascending : ∀ entry ∈ t.pending, entry.2.Pairwise (· < ·)
  inhabited : ∀ entry ∈ t.pending, entry.2 ≠ []

theorem wellFormed_empty : empty.WellFormed where
  keys := List.nodup_nil
  ascending _ mem := by cases mem
  inhabited _ mem := by cases mem

/-- Taking numbers out keeps a tracker well formed, whatever is counted. -/
theorem WellFormed.erase {t : Tracker} (h : t.WellFormed) (channel : String) (tag : Nat)
    (multiple : Bool) (acked nacked : Nat) :
    WellFormed ⟨Tracker.erase channel tag multiple t.pending, acked, nacked⟩ where
  keys := h.keys.sublist keys_erase_sublist
  ascending := forall_erase h.ascending fun _ ascending _ => ascending.filter _
  inhabited := forall_erase (P := (· ≠ [])) h.inhabited fun _ _ left => left

theorem WellFormed.track {t : Tracker} (h : t.WellFormed) (channel : String) (n : Nat) :
    (t.track channel n).WellFormed where
  keys := keys_insert h.keys
  ascending := forall_insert h.ascending (List.pairwise_singleton _ n)
    fun _ ascending => pairwise_insertAscending ascending
  inhabited := forall_insert (P := (· ≠ [])) h.inhabited (List.cons_ne_nil n [])
    fun ns _ => insertAscending_ne_nil n ns

/-- The numbers of a channel are a set, listed in ascending order. -/
theorem WellFormed.pendingFor {t : Tracker} (h : t.WellFormed) (channel : String) :
    (t.pendingFor channel).Pairwise (· < ·) := by
  unfold Tracker.pendingFor
  cases found : t.pending.lookup channel with
  | none => exact .nil
  | some ns =>
    obtain ⟨before, after, split, _⟩ := List.lookup_eq_some_iff.1 found
    refine h.ascending (channel, ns) ?_
    rw [split]
    exact List.mem_append_right before List.mem_cons_self

variable {t : Tracker}

/-- The numbers of an entry are those of its channel. -/
theorem WellFormed.pendingFor_of_mem (h : t.WellFormed) {entry : String × List Nat}
    (mem : entry ∈ t.pending) : t.pendingFor entry.1 = entry.2 := by
  obtain ⟨before, after, parts⟩ := List.append_of_mem mem
  have keys := h.keys
  rw [parts, List.map_append, List.map_cons] at keys
  have absent : entry.1 ∉ before.map Prod.fst := by
    intro twice
    exact (List.nodup_append.1 keys).2.2 _ twice _ List.mem_cons_self rfl
  unfold Tracker.pendingFor
  rw [parts, List.lookup_append, lookup_eq_none absent]
  exact congrArg (Option.getD · []) List.lookup_cons_self

/-- Nothing is outstanding exactly if no channel has numbers. -/
theorem WellFormed.isEmpty_iff_pendingFor (h : t.WellFormed) :
    t.isEmpty = true ↔ ∀ channel, t.pendingFor channel = [] := by
  unfold isEmpty
  rw [List.isEmpty_iff]
  constructor
  · intro none channel
    unfold Tracker.pendingFor
    rw [none]
    rfl
  · intro none
    cases entries : t.pending with
    | nil => rfl
    | cons entry rest =>
      have mem : entry ∈ t.pending := entries ▸ List.mem_cons_self
      have numbers := h.inhabited entry mem
      rw [← h.pendingFor_of_mem mem] at numbers
      exact absurd (none entry.1) numbers

/-- Recording a number adds it to its channel's. -/
theorem mem_track_self {m : Nat} :
    m ∈ (t.track channel n).pendingFor channel ↔ m = n ∨ m ∈ t.pendingFor channel := by
  unfold pendingFor track
  rw [lookup_insert_self]
  exact mem_insertAscending

theorem pendingFor_track_of_ne (ne : other ≠ channel) :
    (t.track channel n).pendingFor other = t.pendingFor other :=
  congrArg (Option.getD · []) (lookup_insert_of_ne ne)

/-- A confirmation leaves the numbers of its channel that it does not cover. -/
theorem WellFormed.mem_erase_self (h : t.WellFormed) {m : Nat} (acked nacked : Nat) :
    m ∈ Tracker.pendingFor ⟨Tracker.erase channel tag multiple t.pending, acked, nacked⟩ channel
      ↔ m ∈ t.pendingFor channel ∧ covers tag multiple m = false := by
  unfold Tracker.pendingFor
  dsimp only
  rw [lookup_erase_self h.keys, List.mem_filter, Bool.not_eq_true']

theorem pendingFor_erase_of_ne (ne : other ≠ channel) (acked nacked : Nat) :
    pendingFor ⟨erase channel tag multiple t.pending, acked, nacked⟩ other = t.pendingFor other :=
  congrArg (Option.getD · []) (lookup_erase_of_ne ne)

/-- A confirmation of one number alone. -/
theorem covers_single {m : Nat} : covers n false m = false ↔ m ≠ n := by
  unfold covers
  rw [if_neg Bool.false_ne_true, decide_eq_false_iff_not]

/-- A number that is outstanding is confirmed once. -/
theorem WellFormed.covered_single (h : t.WellFormed) (mem : n ∈ t.pendingFor channel) :
    t.covered channel n false = 1 := by
  have nodup : (t.pendingFor channel).Nodup := (h.pendingFor channel).imp Nat.ne_of_lt
  have same : covers n false = (· == n) := by
    funext m
    rw [Bool.eq_iff_iff, beq_iff_eq]
    unfold covers
    rw [if_neg Bool.false_ne_true, decide_eq_true_iff]
  unfold covered
  rw [same]
  exact nodup.count.trans (if_pos mem)

/-! Any operation. -/

theorem WellFormed.act (h : t.WellFormed) (op : Op) : (t.act op).WellFormed := by
  cases op with
  | track channel n => exact h.track channel n
  | ack channel tag multiple => exact h.erase channel tag multiple _ _
  | nack channel tag multiple => exact h.erase channel tag multiple _ _
  | forget channel n => exact h.erase channel n false _ _

/-- What is done to one channel changes no other's numbers. -/
theorem pendingFor_act_of_ne {op : Op} (apart : op.channel ≠ channel) :
    (t.act op).pendingFor channel = t.pendingFor channel := by
  cases op with
  | track other n => exact pendingFor_track_of_ne apart.symm
  | ack other tag multiple => exact pendingFor_erase_of_ne apart.symm _ _
  | nack other tag multiple => exact pendingFor_erase_of_ne apart.symm _ _
  | forget other n => exact pendingFor_erase_of_ne apart.symm _ _

theorem acked_le_act (t : Tracker) (op : Op) : t.acked ≤ (t.act op).acked := by
  cases op with
  | ack channel tag multiple => exact Nat.le_add_right _ _
  | _ => exact Nat.le_refl _

theorem nacked_le_act (t : Tracker) (op : Op) : t.nacked ≤ (t.act op).nacked := by
  cases op with
  | nack channel tag multiple => exact Nat.le_add_right _ _
  | _ => exact Nat.le_refl _

end Tracker

end Courier.Confirm
