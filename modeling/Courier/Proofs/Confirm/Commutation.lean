import Courier.Proofs.Confirm.Family
import Courier.Proofs.Lists

/-!
# Answers in any order

What a run of answers makes of a tracker depends on which answers are about which outstanding
numbers, not on their order: what no answer is about is left
(`Tracker.WellFormed.pending_answered`), and everything else is counted once
(`Tracker.WellFormed.total_answered`), under the verdict of its answers where they agree
(`Tracker.WellFormed.counted_answered`). So answers commute, and an answer about many numbers does
what single answers about each of them do (`Tracker.answers_commute`).
-/

namespace Courier.Confirm
set_option autoImplicit false

/-- How a written frame was answered. -/
inductive Verdict where
  | ack
  | nack
  deriving DecidableEq

/-- An answer about one number of a channel, or about all up to it. -/
structure Answer where
  verdict : Verdict
  channel : String
  tag : Nat
  multiple : Bool

namespace Answer

/-- What an answer does to a tracker. -/
def op (a : Answer) : Tracker.Op :=
  match a.verdict with
  | .ack => .ack a.channel a.tag a.multiple
  | .nack => .nack a.channel a.tag a.multiple

/-- Whether an answer is about a number of a channel. -/
def about (a : Answer) (channel : String) (n : Nat) : Bool :=
  decide (channel = a.channel) && covers a.tag a.multiple n

end Answer

namespace Tracker

/-- A tracker after some answers. -/
def answered (t : Tracker) (as : List Answer) : Tracker := as.foldl (fun t a => t.act a.op) t

/-- How many numbers were counted under a verdict. -/
def counted (t : Tracker) : Verdict → Nat
  | .ack => t.acked
  | .nack => t.nacked

/-! ## Entries and the numbers that are kept of them -/

/-- The entries with the numbers that are kept; a channel that keeps none goes too. -/
def sift (keep : String → Nat → Bool) : List (String × List Nat) → List (String × List Nat)
  | [] => []
  | (key, ns) :: rest =>
    let kept := ns.filter (keep key)
    if kept.isEmpty then sift keep rest else (key, kept) :: sift keep rest

/-- How many numbers of the entries are picked. -/
def amountOf (pick : String → Nat → Bool) : List (String × List Nat) → Nat
  | [] => 0
  | (key, ns) :: rest => ns.countP (pick key) + amountOf pick rest

section Entries

variable {entries : List (String × List Nat)} {keep keep' pick pick' : String → Nat → Bool}
  {channel : String} {tag : Nat} {multiple : Bool}

theorem sift_congr (same : ∀ entry ∈ entries, ∀ n ∈ entry.2, keep entry.1 n = keep' entry.1 n) :
    sift keep entries = sift keep' entries := by
  induction entries with
  | nil => rfl
  | cons entry rest ih =>
    obtain ⟨key, ns⟩ := entry
    obtain ⟨first, others⟩ := List.forall_mem_cons.1 same
    unfold sift
    rw [List.filter_congr first, ih others]

theorem amountOf_congr
    (same : ∀ entry ∈ entries, ∀ n ∈ entry.2, pick entry.1 n = pick' entry.1 n) :
    amountOf pick entries = amountOf pick' entries := by
  induction entries with
  | nil => rfl
  | cons entry rest ih =>
    obtain ⟨key, ns⟩ := entry
    obtain ⟨first, others⟩ := List.forall_mem_cons.1 same
    have count : ns.countP (pick key) = ns.countP (pick' key) :=
      List.countP_congr fun n mem => by rw [first n mem]
    unfold amountOf
    rw [count, ih others]

theorem sift_cons_of_none {key : String} {ns : List Nat} {rest : List (String × List Nat)}
    (none : ns.filter (keep key) = []) : sift keep ((key, ns) :: rest) = sift keep rest :=
  if_pos (List.isEmpty_iff.2 none)

theorem sift_cons_of_some {key : String} {ns : List Nat} {rest : List (String × List Nat)}
    (some : ns.filter (keep key) ≠ []) :
    sift keep ((key, ns) :: rest) = (key, ns.filter (keep key)) :: sift keep rest :=
  if_neg fun empty => some (List.isEmpty_iff.1 empty)

theorem amountOf_none (entries : List (String × List Nat)) :
    amountOf (fun _ _ => false) entries = 0 := by
  induction entries with
  | nil => rfl
  | cons entry rest ih => simp [amountOf, ih]

/-- Where everything is kept, nothing changes. -/
theorem sift_eq_self (inhabited : ∀ entry ∈ entries, entry.2 ≠ [])
    (all : ∀ entry ∈ entries, ∀ n ∈ entry.2, keep entry.1 n = true) :
    sift keep entries = entries := by
  induction entries with
  | nil => rfl
  | cons entry rest ih =>
    obtain ⟨key, ns⟩ := entry
    obtain ⟨numbers, inhabited⟩ := List.forall_mem_cons.1 inhabited
    obtain ⟨first, others⟩ := List.forall_mem_cons.1 all
    have kept : ns.filter (keep key) = ns := List.filter_eq_self.2 first
    have some : ns.filter (keep key) ≠ [] := kept.symm ▸ numbers
    rw [sift_cons_of_some some, kept, ih inhabited others]

theorem sift_sift (keep keep' : String → Nat → Bool) (entries : List (String × List Nat)) :
    sift keep (sift keep' entries) = sift (fun key n => keep key n && keep' key n) entries := by
  induction entries with
  | nil => rfl
  | cons entry rest ih =>
    obtain ⟨key, ns⟩ := entry
    have twice : (ns.filter (keep' key)).filter (keep key)
        = ns.filter fun n => keep key n && keep' key n := List.filter_filter
    by_cases first : ns.filter (keep' key) = []
    · have both : (ns.filter fun n => keep key n && keep' key n) = [] := by rw [← twice, first]; rfl
      rw [sift_cons_of_none first, sift_cons_of_none both, ih]
    rw [sift_cons_of_some first]
    by_cases second : (ns.filter (keep' key)).filter (keep key) = []
    · rw [sift_cons_of_none second, sift_cons_of_none (twice ▸ second), ih]
    · rw [sift_cons_of_some second, sift_cons_of_some (twice ▸ second), ih, twice]

theorem amountOf_sift (pick keep : String → Nat → Bool) (entries : List (String × List Nat)) :
    amountOf pick (sift keep entries)
      = amountOf (fun key n => pick key n && keep key n) entries := by
  induction entries with
  | nil => rfl
  | cons entry rest ih =>
    obtain ⟨key, ns⟩ := entry
    have kept : (ns.filter (keep key)).countP (pick key)
        = ns.countP fun n => pick key n && keep key n := List.countP_filter
    by_cases none : ns.filter (keep key) = []
    · rw [none] at kept
      rw [sift_cons_of_none none, ih, amountOf, ← kept]
      exact (Nat.zero_add _).symm
    · rw [sift_cons_of_some none, amountOf, amountOf, kept, ih]

/-- What is picked by one of two ways is picked by the first or, if not, by the second. -/
theorem amountOf_or (pick pick' : String → Nat → Bool) (entries : List (String × List Nat)) :
    amountOf (fun key n => pick key n || pick' key n) entries
      = amountOf pick entries + amountOf (fun key n => pick' key n && !pick key n) entries := by
  induction entries with
  | nil => rfl
  | cons entry rest ih =>
    obtain ⟨key, ns⟩ := entry
    have either (n : Nat) : (pick key n || pick' key n)
        = (pick key n || pick' key n && !pick key n) := by
      cases pick key n <;> simp
    have parts : ns.countP (fun n => pick key n || pick' key n)
        = ns.countP (pick key) + ns.countP fun n => pick' key n && !pick key n := by
      simp only [either]
      exact countP_or_of_disjoint fun n _ first => by rw [first, Bool.not_true, Bool.and_false]
    simp only [amountOf, parts, ih]
    omega

/-- Taking out what an answer is about keeps the rest. -/
theorem erase_eq_sift (keys : (entries.map Prod.fst).Nodup)
    (inhabited : ∀ entry ∈ entries, entry.2 ≠ []) :
    erase channel tag multiple entries
      = sift (fun key n => !(decide (key = channel) && covers tag multiple n)) entries := by
  induction entries with
  | nil => rfl
  | cons entry rest ih =>
    obtain ⟨key, ns⟩ := entry
    obtain ⟨numbers, inhabited⟩ := List.forall_mem_cons.1 inhabited
    rw [List.map_cons, List.nodup_cons] at keys
    unfold erase
    split
    · next same =>
      subst same
      have absent : key ∉ rest.map Prod.fst := keys.1
      -- no other entry is of this channel, so the others are kept
      have others :
          sift (fun key' n => !(decide (key' = key) && covers tag multiple n)) rest = rest := by
        refine sift_eq_self inhabited fun entry mem n _ => ?_
        have other : entry.1 ≠ key := by
          rintro rfl
          exact absent (List.mem_map_of_mem mem)
        simp [other]
      have own : ns.filter (fun n => !(decide (key = key) && covers tag multiple n))
          = ns.filter fun n => !covers tag multiple n := by simp
      unfold sift
      rw [others, own]
    · next differs =>
      have all : ns.filter (fun n => !(decide (key = channel) && covers tag multiple n)) = ns := by
        simp [differs]
      rw [sift_cons_of_some (by rwa [all]), all, ih keys.2 inhabited]

theorem countP_lookup (keys : (entries.map Prod.fst).Nodup) :
    ((entries.lookup channel).getD []).countP (covers tag multiple)
      = amountOf (fun key n => decide (key = channel) && covers tag multiple n) entries := by
  induction entries with
  | nil => rfl
  | cons entry rest ih =>
    obtain ⟨key, ns⟩ := entry
    rw [List.map_cons, List.nodup_cons] at keys
    rw [amountOf, ← ih keys.2]
    by_cases same : key = channel
    · subst same
      rw [List.lookup_cons_self, lookup_eq_none keys.1]
      simp
    · rw [lookup_cons_of_ne ns rest same]
      simp [same]

theorem lookup_sift (keys : (entries.map Prod.fst).Nodup) :
    ((sift keep entries).lookup channel).getD []
      = ((entries.lookup channel).getD []).filter (keep channel) := by
  induction entries with
  | nil => rfl
  | cons entry rest ih =>
    obtain ⟨key, ns⟩ := entry
    rw [List.map_cons, List.nodup_cons] at keys
    by_cases none : ns.filter (keep key) = []
    · rw [sift_cons_of_none none, ih keys.2]
      by_cases same : key = channel
      · subst same
        rw [List.lookup_cons_self, lookup_eq_none keys.1]
        exact none.symm
      · rw [lookup_cons_of_ne ns rest same]
    · rw [sift_cons_of_some none]
      by_cases same : key = channel
      · subst same
        rw [List.lookup_cons_self, List.lookup_cons_self]
        rfl
      · rw [lookup_cons_of_ne _ _ same, lookup_cons_of_ne ns rest same, ih keys.2]

end Entries

/-! ## One answer -/

variable {t : Tracker}

theorem WellFormed.pending_answer (h : t.WellFormed) (a : Answer) :
    (t.act a.op).pending = sift (fun key n => !a.about key n) t.pending := by
  have erased : (t.act a.op).pending = Tracker.erase a.channel a.tag a.multiple t.pending := by
    unfold Answer.op
    cases a.verdict <;> rfl
  rw [erased]
  exact erase_eq_sift h.keys h.inhabited

theorem WellFormed.counted_answer (h : t.WellFormed) (a : Answer) (v : Verdict) :
    (t.act a.op).counted v
      = t.counted v + if a.verdict = v then amountOf a.about t.pending else 0 := by
  have picked : t.covered a.channel a.tag a.multiple = amountOf a.about t.pending :=
    countP_lookup h.keys
  rw [← picked]
  unfold Answer.op
  cases a.verdict <;> cases v <;> rfl

/-! ## Runs of answers -/

/-- What no answer is about is left. -/
theorem WellFormed.pending_answered (h : t.WellFormed) (as : List Answer) :
    (t.answered as).pending = sift (fun key n => !as.any (·.about key n)) t.pending := by
  induction as generalizing t with
  | nil => exact (sift_eq_self h.inhabited fun _ _ _ _ => rfl).symm
  | cons a as ih =>
    have rest : (t.answered (a :: as)).pending = _ := ih (h.act a.op)
    rw [rest, h.pending_answer, sift_sift]
    refine sift_congr fun entry _ n _ => ?_
    rw [List.any_cons, Bool.not_or, Bool.and_comm]

theorem WellFormed.pendingFor_answered (h : t.WellFormed) (as : List Answer) (channel : String) :
    (t.answered as).pendingFor channel
      = (t.pendingFor channel).filter fun n => !as.any (·.about channel n) := by
  unfold Tracker.pendingFor
  rw [h.pending_answered, lookup_sift h.keys]

/-- What was outstanding is outstanding still, or was counted. -/
theorem WellFormed.balance_answered (h : t.WellFormed) (as : List Answer) :
    (t.answered as).acked + (t.answered as).nacked + (t.answered as).size
      = t.acked + t.nacked + t.size := by
  induction as generalizing t with
  | nil => rfl
  | cons a as ih =>
    have rest : (t.answered (a :: as)).acked + (t.answered (a :: as)).nacked
        + (t.answered (a :: as)).size
          = (t.act a.op).acked + (t.act a.op).nacked + (t.act a.op).size := ih (h.act a.op)
    obtain ⟨acked, nacked, balance⟩ := h.balance_act a.op
    have answer : t.added a.op = 0 ∧ t.dropped a.op = 0 := by
      unfold Answer.op
      cases a.verdict <;> exact ⟨rfl, rfl⟩
    omega

/-- What some answer is about is counted once. -/
theorem WellFormed.total_answered (h : t.WellFormed) (as : List Answer) :
    (t.answered as).acked + (t.answered as).nacked
      = t.acked + t.nacked + amountOf (fun key n => as.any (·.about key n)) t.pending := by
  induction as generalizing t with
  | nil =>
    exact (congrArg (t.acked + t.nacked + ·) (amountOf_none t.pending)).symm
  | cons a as ih =>
    have rest := ih (h.act a.op)
    have acked := h.counted_answer a .ack
    have nacked := h.counted_answer a .nack
    have once : (t.act a.op).acked + (t.act a.op).nacked
        = t.acked + t.nacked + amountOf a.about t.pending := by
      change (t.act a.op).acked = t.acked + _ at acked
      change (t.act a.op).nacked = t.nacked + _ at nacked
      cases verdict : a.verdict <;>
        simp only [verdict, reduceCtorEq, if_true, if_false] at acked nacked <;> omega
    show ((t.act a.op).answered as).acked + ((t.act a.op).answered as).nacked = _
    rw [rest, once, h.pending_answer, amountOf_sift]
    simp only [List.any_cons]
    rw [amountOf_or]
    omega

/-- The answers about an outstanding number are of one kind. -/
def Unanimous (t : Tracker) (as : List Answer) : Prop :=
  ∀ entry ∈ t.pending, ∀ n ∈ entry.2, ∀ a ∈ as, ∀ b ∈ as,
    a.about entry.1 n = true → b.about entry.1 n = true → a.verdict = b.verdict

/-- The numbers of a sifted entry were there before. -/
theorem exists_of_mem_sift {keep : String → Nat → Bool} {entries : List (String × List Nat)}
    {entry : String × List Nat} (mem : entry ∈ sift keep entries) :
    ∃ ns, (entry.1, ns) ∈ entries ∧ entry.2 = ns.filter (keep entry.1) := by
  induction entries with
  | nil => cases mem
  | cons first rest ih =>
    obtain ⟨key, ns⟩ := first
    have later (mem : entry ∈ sift keep rest) :
        ∃ ns', (entry.1, ns') ∈ (key, ns) :: rest ∧ entry.2 = ns'.filter (keep entry.1) := by
      obtain ⟨ns', there, kept⟩ := ih mem
      exact ⟨ns', List.mem_cons_of_mem _ there, kept⟩
    by_cases none : ns.filter (keep key) = []
    · rw [sift_cons_of_none none] at mem
      exact later mem
    · rw [sift_cons_of_some none] at mem
      obtain rfl | mem := List.mem_cons.1 mem
      · exact ⟨ns, List.mem_cons_self, rfl⟩
      · exact later mem

theorem Unanimous.answer {a : Answer} {as : List Answer} (h : t.WellFormed)
    (clear : t.Unanimous (a :: as)) : (t.act a.op).Unanimous as := by
  intro entry mem n there b hb c hc
  rw [h.pending_answer] at mem
  obtain ⟨ns, old, kept⟩ := exists_of_mem_sift mem
  rw [kept] at there
  exact clear _ old n (List.mem_filter.1 there).1 b (List.mem_cons_of_mem a hb) c
    (List.mem_cons_of_mem a hc)

/-- Where the answers about each number agree, it is counted under their verdict. -/
theorem WellFormed.counted_answered (h : t.WellFormed) {as : List Answer} (clear : t.Unanimous as)
    (v : Verdict) :
    (t.answered as).counted v = t.counted v + amountOf
      (fun key n => as.any fun a => decide (a.verdict = v) && a.about key n) t.pending := by
  induction as generalizing t with
  | nil => exact (congrArg (t.counted v + ·) (amountOf_none t.pending)).symm
  | cons a as ih =>
    have rest := ih (h.act a.op) (clear.answer h)
    show ((t.act a.op).answered as).counted v = _
    rw [rest, h.counted_answer, h.pending_answer, amountOf_sift]
    simp only [List.any_cons]
    split
    · next same =>
      simp only [same, decide_true, Bool.true_and]
      rw [amountOf_or, Nat.add_assoc]
    · next other =>
      -- no later answer of the kind is about a number that this one is about
      have apart : ∀ entry ∈ t.pending, ∀ n ∈ entry.2,
          ((as.any fun b => decide (b.verdict = v) && b.about entry.1 n) && !a.about entry.1 n)
            = (decide (a.verdict = v) && a.about entry.1 n
              || as.any fun b => decide (b.verdict = v) && b.about entry.1 n) := by
        intro entry mem n there
        rw [decide_eq_false other, Bool.false_and, Bool.false_or]
        cases about : a.about entry.1 n with
        | false => exact Bool.and_true _
        | true =>
          refine (Bool.and_false _).trans (List.any_eq_false.2 fun b hb => ?_).symm
          intro both
          rw [Bool.and_eq_true, decide_eq_true_iff] at both
          have agree := clear entry mem n there a List.mem_cons_self b (List.mem_cons_of_mem a hb)
            about both.2
          exact other (agree.trans both.1)
      rw [Nat.add_zero]
      exact congrArg (t.counted v + ·) (amountOf_congr apart)

/-! ## Answers that say the same -/

/-- The outstanding numbers get answers of the same kinds. -/
def SaySame (t : Tracker) (as bs : List Answer) : Prop :=
  ∀ entry ∈ t.pending, ∀ n ∈ entry.2, ∀ v,
    (∃ a ∈ as, a.verdict = v ∧ a.about entry.1 n = true) ↔
      ∃ b ∈ bs, b.verdict = v ∧ b.about entry.1 n = true

namespace SaySame

variable {as bs : List Answer}

theorem of_perm (perm : as.Perm bs) : t.SaySame as bs := by
  intro entry _ n _ v
  simp only [perm.mem_iff]

theorem any_about (same : t.SaySame as bs) {entry : String × List Nat} (mem : entry ∈ t.pending)
    {n : Nat} (there : n ∈ entry.2) :
    as.any (·.about entry.1 n) = bs.any (·.about entry.1 n) := by
  have said := same entry mem n there
  rw [Bool.eq_iff_iff, List.any_eq_true, List.any_eq_true]
  constructor
  · rintro ⟨a, ha, about⟩
    obtain ⟨b, hb, -, about⟩ := (said a.verdict).1 ⟨a, ha, rfl, about⟩
    exact ⟨b, hb, about⟩
  · rintro ⟨b, hb, about⟩
    obtain ⟨a, ha, -, about⟩ := (said b.verdict).2 ⟨b, hb, rfl, about⟩
    exact ⟨a, ha, about⟩

theorem any_verdict (same : t.SaySame as bs) (v : Verdict) {entry : String × List Nat}
    (mem : entry ∈ t.pending) {n : Nat} (there : n ∈ entry.2) :
    (as.any fun a => decide (a.verdict = v) && a.about entry.1 n)
      = bs.any fun b => decide (b.verdict = v) && b.about entry.1 n := by
  rw [Bool.eq_iff_iff, List.any_eq_true, List.any_eq_true]
  simp only [Bool.and_eq_true, decide_eq_true_iff]
  exact same entry mem n there v

theorem unanimous (same : t.SaySame as bs) (clear : t.Unanimous as) : t.Unanimous bs := by
  intro entry mem n there b hb c hc aboutB aboutC
  have said := same entry mem n there
  obtain ⟨a, ha, verdict, about⟩ := (said b.verdict).2 ⟨b, hb, rfl, aboutB⟩
  obtain ⟨a', ha', verdict', about'⟩ := (said c.verdict).2 ⟨c, hc, rfl, aboutC⟩
  rw [← verdict, ← verdict']
  exact clear entry mem n there a ha a' ha' about about'

theorem pending (same : t.SaySame as bs) (h : t.WellFormed) :
    (t.answered as).pending = (t.answered bs).pending := by
  rw [h.pending_answered, h.pending_answered]
  exact sift_congr fun _ mem n there => by rw [same.any_about mem there]

theorem total (same : t.SaySame as bs) (h : t.WellFormed) :
    (t.answered as).acked + (t.answered as).nacked
      = (t.answered bs).acked + (t.answered bs).nacked := by
  rw [h.total_answered, h.total_answered]
  exact congrArg (t.acked + t.nacked + ·)
    (amountOf_congr fun _ mem _ there => same.any_about mem there)

theorem counted (same : t.SaySame as bs) (h : t.WellFormed) (clear : t.Unanimous as) (v : Verdict) :
    (t.answered as).counted v = (t.answered bs).counted v := by
  rw [h.counted_answered clear, h.counted_answered (same.unanimous clear)]
  exact congrArg (t.counted v + ·)
    (amountOf_congr fun _ mem _ there => same.any_verdict v mem there)

theorem answered (same : t.SaySame as bs) (h : t.WellFormed) (clear : t.Unanimous as) :
    t.answered as = t.answered bs := by
  have acked := same.counted h clear .ack
  have nacked := same.counted h clear .nack
  have pending := same.pending h
  generalize t.answered as = u at *
  generalize t.answered bs = w at *
  obtain ⟨_, _, _⟩ := u
  obtain ⟨_, _, _⟩ := w
  cases pending
  cases acked
  cases nacked
  rfl

end SaySame

/-- An answer about all numbers up to a tag says what answers about each of them say. -/
theorem WellFormed.saySame_singles (h : t.WellFormed) (v : Verdict) (channel : String) (tag : Nat)
    {singles : List Nat} (perm : singles.Perm ((t.pendingFor channel).filter (· ≤ tag))) :
    t.SaySame [⟨v, channel, tag, true⟩] (singles.map fun n => ⟨v, channel, n, false⟩) := by
  intro entry mem n there v'
  have outstanding := h.pendingFor_of_mem mem
  simp only [Answer.about, covers, Bool.and_eq_true, decide_eq_true_iff]
  constructor
  · rintro ⟨a, ha, verdict, key, upTo⟩
    obtain rfl := List.mem_singleton.1 ha
    dsimp only at verdict key upTo
    rw [if_pos rfl, decide_eq_true_iff] at upTo
    have single : n ∈ singles := by
      rw [perm.mem_iff, List.mem_filter, ← key, outstanding]
      exact ⟨there, decide_eq_true upTo⟩
    exact ⟨⟨v, channel, n, false⟩, List.mem_map_of_mem single, verdict, key, decide_eq_true rfl⟩
  · rintro ⟨b, hb, verdict, key, same⟩
    obtain ⟨m, single, rfl⟩ := List.mem_map.1 hb
    dsimp only at verdict key same
    rw [if_neg Bool.false_ne_true, decide_eq_true_iff] at same
    rw [perm.mem_iff, List.mem_filter, ← same] at single
    exact ⟨⟨v, channel, tag, true⟩, List.mem_singleton_self _, verdict, key, single.2⟩

/-- A number that gets one answer at most, or answers of one kind, gets no two that differ. -/
theorem verdict_eq_of_once {as : List Answer} {channel : String} {n : Nat}
    (once : as.countP (·.about channel n) ≤ 1 ∨
      ∃ v, ∀ a ∈ as, a.about channel n = true → a.verdict = v)
    {a b : Answer} (ha : a ∈ as) (hb : b ∈ as) (aboutA : a.about channel n = true)
    (aboutB : b.about channel n = true) : a.verdict = b.verdict := by
  obtain once | ⟨v, one⟩ := once
  · obtain ⟨before, after, rfl⟩ := List.append_of_mem ha
    have own : (a :: after).countP (·.about channel n) = after.countP (·.about channel n) + 1 :=
      List.countP_cons_of_pos aboutA
    rw [List.countP_append, own] at once
    have noneBefore : before.countP (·.about channel n) = 0 := by omega
    have noneAfter : after.countP (·.about channel n) = 0 := by omega
    rw [List.countP_eq_zero] at noneBefore noneAfter
    obtain hb | hb := List.mem_append.1 hb
    · exact absurd aboutB (noneBefore b hb)
    obtain rfl | hb := List.mem_cons.1 hb
    · rfl
    · exact absurd aboutB (noneAfter b hb)
  · exact (one a ha aboutA).trans (one b hb aboutB).symm

/-- Answers commute. In whatever order answers are taken, with any keys and tags, and whether they
overlap or are about nothing outstanding:

* what no answer is about stays outstanding, and everything else is counted;
* the same numbers stay outstanding in every channel, and as many are counted in all;
* where each outstanding number gets one answer at most, or answers of one kind, the trackers are
  the same, counts included;
* an answer about all numbers up to a tag makes the same tracker as answers about each of the
  outstanding ones among them, in any order. -/
theorem answers_commute {t : Tracker} (h : t.WellFormed) :
    (∀ as : List Answer,
      (∀ channel, (t.answered as).pendingFor channel
        = (t.pendingFor channel).filter fun n => !as.any (·.about channel n)) ∧
      (t.answered as).acked + (t.answered as).nacked + (t.answered as).size
        = t.acked + t.nacked + t.size) ∧
    (∀ as bs : List Answer, as.Perm bs →
      (∀ channel, (t.answered as).pendingFor channel = (t.answered bs).pendingFor channel) ∧
      (t.answered as).acked + (t.answered as).nacked
        = (t.answered bs).acked + (t.answered bs).nacked ∧
      ((∀ channel, ∀ n ∈ t.pendingFor channel,
          as.countP (·.about channel n) ≤ 1 ∨
            ∃ v, ∀ a ∈ as, a.about channel n = true → a.verdict = v) →
        t.answered as = t.answered bs)) ∧
    (∀ (v : Verdict) (channel : String) (tag : Nat) (singles : List Nat),
      singles.Perm ((t.pendingFor channel).filter (· ≤ tag)) →
        t.answered [⟨v, channel, tag, true⟩]
          = t.answered (singles.map fun n => ⟨v, channel, n, false⟩)) := by
  refine ⟨fun as => ⟨h.pendingFor_answered as, h.balance_answered as⟩, ?_, ?_⟩
  · intro as bs perm
    have same : t.SaySame as bs := .of_perm perm
    refine ⟨fun channel => ?_, same.total h, fun once => same.answered h ?_⟩
    · unfold pendingFor
      rw [same.pending h]
    · intro entry mem n there a ha b hb
      rw [← h.pendingFor_of_mem mem] at there
      exact verdict_eq_of_once (once entry.1 n there) ha hb
  · intro v channel tag singles perm
    refine (h.saySame_singles v channel tag perm).answered h ?_
    intro entry _ n _ a ha b hb _ _
    rw [List.mem_singleton.1 ha, List.mem_singleton.1 hb]

/-- Overlapping answers of two kinds on two channels, and a cumulative refusal taken apart. -/
theorem answers_commute_overlapping :
    let t := ((empty.track "a" 1).track "a" 2).track "b" 1
    let as : List Answer := [⟨.ack, "a", 2, true⟩, ⟨.nack, "b", 1, false⟩, ⟨.ack, "a", 1, false⟩]
    t.answered as = t.answered as.reverse ∧ (t.answered as).acked = 2 ∧ (t.answered as).nacked = 1 ∧
      t.answered [⟨.nack, "a", 2, true⟩]
        = t.answered [⟨.nack, "a", 2, false⟩, ⟨.nack, "a", 1, false⟩] := by
  intro t as
  have h : t.WellFormed := ((wellFormed_empty.track "a" 1).track "a" 2).track "b" 1
  have once : ∀ channel, ∀ n ∈ t.pendingFor channel,
      as.countP (·.about channel n) ≤ 1 ∨
        ∃ v, ∀ a ∈ as, a.about channel n = true → a.verdict = v := by
    intro channel n _
    by_cases key : channel = "a"
    · subst key
      right
      refine ⟨.ack, ?_⟩
      simp [as, Answer.about]
    · left
      have ne : decide (channel = "a") = false := decide_eq_false key
      simp [as, Answer.about, ne, List.countP_cons]
      split <;> omega
  have reversed := (answers_commute h).2.1 as as.reverse as.reverse_perm.symm
  refine ⟨reversed.2.2 once, by decide, by decide, ?_⟩
  exact (answers_commute h).2.2 .nack "a" 2 [2, 1] (by decide)

/-- Where a number gets answers of both kinds, the first decides how it is counted. -/
example :
    let t := empty.track "a" 1
    (t.answered [⟨.ack, "a", 1, false⟩, ⟨.nack, "a", 1, true⟩]).acked = 1 ∧
      (t.answered [⟨.nack, "a", 1, true⟩, ⟨.ack, "a", 1, false⟩]).acked = 0 := by decide

end Tracker

end Courier.Confirm
