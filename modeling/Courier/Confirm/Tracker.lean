/-!
# Outstanding confirmations

Which published numbers still wait for the broker's confirmation, apart for every channel, and how
many have been confirmed. Numbers are unique within one channel only.
-/

namespace Courier.Confirm
set_option autoImplicit false

/-- The list with a number added at its place among ascending ones, unless it is there. -/
def insertAscending (n : Nat) : List Nat → List Nat
  | [] => [n]
  | m :: ms => if n < m then n :: m :: ms else if n = m then m :: ms else m :: insertAscending n ms

theorem mem_insertAscending {n m : Nat} {ms : List Nat} :
    m ∈ insertAscending n ms ↔ m = n ∨ m ∈ ms := by
  induction ms with
  | nil => simp [insertAscending]
  | cons k ks ih =>
    unfold insertAscending
    split
    · simp
    · split
      · rename_i h; subst h; simp
      · simp [ih, or_left_comm]

theorem pairwise_insertAscending {n : Nat} {ms : List Nat} (h : ms.Pairwise (· < ·)) :
    (insertAscending n ms).Pairwise (· < ·) := by
  induction ms with
  | nil => simp [insertAscending]
  | cons k ks ih =>
    obtain ⟨hk, hks⟩ := List.pairwise_cons.mp h
    unfold insertAscending
    split
    · rename_i hn
      refine List.pairwise_cons.mpr ⟨fun m hm => ?_, h⟩
      rcases List.mem_cons.mp hm with rfl | hm
      · exact hn
      · exact Nat.lt_trans hn (hk m hm)
    · split
      · exact h
      · refine List.pairwise_cons.mpr ⟨fun m hm => ?_, ih hks⟩
        rcases mem_insertAscending.mp hm with rfl | hm
        · omega
        · exact hk m hm

/-- Whether a confirmation of `tag` is one of `n`: of that number alone, or of every number up to
it. -/
def covers (tag : Nat) (multiple : Bool) (n : Nat) : Bool :=
  if multiple then decide (n ≤ tag) else decide (n = tag)

/-- The outstanding numbers of each channel that has any, in ascending order, and the counts of
those confirmed and of those refused. -/
structure Tracker where
  pending : List (String × List Nat)
  acked : Nat
  nacked : Nat
  deriving DecidableEq

namespace Tracker

/-- Nothing outstanding, nothing counted. -/
def empty : Tracker := ⟨[], 0, 0⟩

/-- The entries with a number added to a channel's. -/
def insert (channel : String) (n : Nat) : List (String × List Nat) → List (String × List Nat)
  | [] => [(channel, [n])]
  | (key, ns) :: rest =>
    if key = channel then (key, insertAscending n ns) :: rest
    else (key, ns) :: insert channel n rest

/-- The entries without what a confirmation covers; a channel left without numbers goes too. -/
def erase (channel : String) (tag : Nat) (multiple : Bool) :
    List (String × List Nat) → List (String × List Nat)
  | [] => []
  | (key, ns) :: rest =>
    if key = channel then
      let kept := ns.filter fun n => !covers tag multiple n
      if kept.isEmpty then rest else (key, kept) :: rest
    else (key, ns) :: erase channel tag multiple rest

/-- The outstanding numbers of a channel, in ascending order. -/
def pendingFor (t : Tracker) (channel : String) : List Nat := (t.pending.lookup channel).getD []

/-- How many outstanding numbers a confirmation covers. -/
def covered (t : Tracker) (channel : String) (tag : Nat) (multiple : Bool) : Nat :=
  (t.pendingFor channel).countP (covers tag multiple)

/-- Records a number as outstanding. -/
def track (t : Tracker) (channel : String) (n : Nat) : Tracker :=
  { t with pending := insert channel n t.pending }

/-- Takes a confirmation; the count is of the numbers it confirmed. -/
def ack (t : Tracker) (channel : String) (tag : Nat) (multiple : Bool) : Tracker × Nat :=
  let count := t.covered channel tag multiple
  ({ t with pending := erase channel tag multiple t.pending, acked := t.acked + count }, count)

/-- Takes a refusal; the count is of the numbers it refused. -/
def nack (t : Tracker) (channel : String) (tag : Nat) (multiple : Bool) : Tracker × Nat :=
  let count := t.covered channel tag multiple
  ({ t with pending := erase channel tag multiple t.pending, nacked := t.nacked + count }, count)

/-- Drops a number that was never written. It is not counted. -/
def forget (t : Tracker) (channel : String) (n : Nat) : Tracker :=
  { t with pending := erase channel n false t.pending }

/-- Whether a number is outstanding. -/
def contains (t : Tracker) (channel : String) (n : Nat) : Bool := (t.pendingFor channel).contains n

/-- How many numbers are outstanding. -/
def size (t : Tracker) : Nat := t.pending.foldl (fun n entry => n + entry.2.length) 0

/-- Whether no number is outstanding. -/
def isEmpty (t : Tracker) : Bool := t.pending.isEmpty

end Tracker

end Courier.Confirm
