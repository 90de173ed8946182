import Courier.Proofs.Confirm.Gate

/-!
# Gates as queues

A gate is one queue and a number of places: those in front have a place ready, the rest wait
(`Gate.ofQueue`). So everybody else finds the same gate whether somebody stands there, has stood
there or never came, if the places that he took up are put back (`Gate.Spares`).
-/

namespace Courier.Confirm
set_option autoImplicit false

/-- The number of a publish where the one of number `i` was not made. -/
def renumber (i j : Nat) : Nat := if j < i then j else j - 1

theorem renumber_of_lt {i j : Nat} (before : j < i) : renumber i j = j := if_pos before

theorem renumber_inj {i j k : Nat} (other : j ≠ i) (other' : k ≠ i) :
    renumber i j = renumber i k ↔ j = k := by
  unfold renumber
  constructor
  · intro same
    split at same <;> split at same <;> omega
  · rintro rfl
    rfl

namespace Gate

variable {g g' : Gate} {n k i j : Nat} {queue : List Nat}

/-- The gate of a number of places and a queue. -/
def ofQueue (n : Nat) (queue : List Nat) : Gate where
  free := n - queue.length
  waiting := queue.drop n
  ready := queue.take n

/-- In whose line nobody waits while a place is free. -/
def IsQueue (g : Gate) : Prop := ∃ n queue, g = ofQueue n queue

theorem mem_standing_ofQueue : i ∈ (ofQueue n queue).standing ↔ i ∈ queue := by
  unfold standing ofQueue
  rw [List.mem_append, or_comm, ← List.mem_append, List.take_append_drop]

theorem nodup_queue (once : (ofQueue n queue).standing.Nodup) : queue.Nodup := by
  unfold standing ofQueue at once
  have turned := List.perm_append_comm.nodup_iff.1 once
  rwa [List.take_append_drop] at turned

theorem arrive_ofQueue (n : Nat) (queue : List Nat) (i : Nat) :
    (ofQueue n queue).arrive i = ofQueue n (queue ++ [i]) := by
  unfold arrive ofQueue
  rw [List.length_append, List.length_singleton]
  dsimp only
  split
  · next free =>
    have room : (queue ++ [i]).length ≤ n := by
      rw [List.length_append, List.length_singleton]
      omega
    rw [List.drop_of_length_le room, List.take_of_length_le room, List.drop_of_length_le (by omega),
      List.take_of_length_le (by omega)]
    congr 1
  · next full =>
    have beyond : n ≤ queue.length := by omega
    rw [List.drop_append_of_le_length beyond, List.take_append_of_le_length beyond]
    congr 1
    omega

theorem release_ofQueue (n : Nat) (queue : List Nat) :
    (ofQueue n queue).release = ofQueue (n + 1) queue := by
  unfold release ofQueue
  dsimp only
  split
  · next none =>
    have room : queue.length ≤ n := List.drop_eq_nil_iff.1 none
    rw [none, List.drop_of_length_le (by omega), List.take_of_length_le room,
      List.take_of_length_le (by omega)]
    congr 1
    omega
  · next first rest waiting =>
    have beyond : n < queue.length := by
      have some := congrArg List.length waiting
      rw [List.length_drop, List.length_cons] at some
      omega
    rw [List.drop_eq_getElem_cons beyond] at waiting
    obtain ⟨rfl, rfl⟩ := List.cons.inj waiting
    rw [List.take_add_one, List.getElem?_eq_getElem beyond]
    congr 1
    omega

theorem mem_ready_ofQueue : i ∈ (ofQueue n queue).ready ↔ i ∈ queue.take n := .rfl

theorem pos_of_ready (ready : i ∈ queue.take n) : 0 < n := by
  have some := List.length_pos_of_mem ready
  rw [List.length_take] at some
  omega

/-- Whoever takes up a place leaves the queue to the others in their order. -/
theorem take_ofQueue (ready : i ∈ queue.take n) :
    (ofQueue n queue).take i = ofQueue (n - 1) (queue.erase i) := by
  have fewer : (queue.erase i).length = queue.length - 1 :=
    List.length_erase_of_mem (List.mem_of_mem_take ready)
  have front : ((queue.take n).erase i).length = min n queue.length - 1 := by
    rw [List.length_erase_of_mem ready, List.length_take]
  have parts : queue.erase i = (queue.take n).erase i ++ queue.drop n := by
    rw [← List.erase_append_left _ ready, List.take_append_drop]
  have some := List.length_pos_of_mem (List.mem_of_mem_take ready)
  unfold take ofQueue
  dsimp only
  rw [fewer]
  obtain room | beyond := Nat.lt_or_ge queue.length n
  · have short : (queue.erase i).length ≤ n - 1 := by omega
    rw [List.take_of_length_le short, List.drop_of_length_le short,
      List.take_of_length_le (Nat.le_of_lt room), List.drop_of_length_le (Nat.le_of_lt room)]
    congr 1
    omega
  · have front_length : ((queue.take n).erase i).length = n - 1 := by omega
    rw [parts, List.take_left' front_length, List.drop_left' front_length]
    congr 1
    omega

/-- Whoever gives up leaves the queue to the others in their order, with all its places. -/
theorem leave_ofQueue (n : Nat) (queue : List Nat) (i : Nat) :
    (ofQueue n queue).leave i = ofQueue n (queue.erase i) := by
  unfold leave
  split
  · next ready =>
    have inFront : i ∈ queue.take n := isReady_iff.1 ready
    have pos := pos_of_ready inFront
    rw [take_ofQueue inFront, release_ofQueue, Nat.sub_add_cancel pos]
  · next ready =>
    have behind : i ∉ queue.take n := fun inFront => ready (isReady_iff.2 inFront)
    have parts : queue.erase i = queue.take n ++ (queue.drop n).erase i := by
      rw [← List.erase_append_right _ behind, List.take_append_drop]
    unfold ofQueue
    obtain room | beyond := Nat.lt_or_ge queue.length n
    · have nobody : queue.drop n = [] := List.drop_of_length_le (Nat.le_of_lt room)
      have same : queue.erase i = queue := by
        rw [parts, nobody, List.erase_nil, List.append_nil,
          List.take_of_length_le (Nat.le_of_lt room)]
      rw [same, nobody, List.erase_nil]
    · have front : (queue.take n).length = n := List.length_take_of_le beyond
      have full : n ≤ (queue.erase i).length := by
        rw [parts, List.length_append, front]
        omega
      rw [Nat.sub_eq_zero_of_le full, Nat.sub_eq_zero_of_le beyond, parts, List.take_left' front,
        List.drop_left' front]

/-- A gate and the same gate without one who stands there or did, and who has taken up some places
of it. -/
def Spares (i taken : Nat) (g g' : Gate) : Prop :=
  ∃ n queue, queue.Nodup ∧ g = ofQueue n queue ∧
    g' = ofQueue (n + taken) ((queue.erase i).map (renumber i))

namespace Spares

variable {taken : Nat}

/-- Nobody misses one who never came. -/
theorem of_absent (h : g.IsQueue) (once : g.standing.Nodup) (absent : ∀ j ∈ g.standing, j < i) :
    Spares i 0 g g := by
  obtain ⟨n, queue, rfl⟩ := h
  have before : ∀ j ∈ queue, j < i := fun j mem => absent j (mem_standing_ofQueue.2 mem)
  have never : i ∉ queue := fun mem => Nat.lt_irrefl i (before i mem)
  have same : queue.map (renumber i) = queue := by
    rw [List.map_congr_left fun j mem => renumber_of_lt (before j mem), List.map_id']
  refine ⟨n, queue, nodup_queue once, rfl, ?_⟩
  rw [List.erase_of_not_mem never, same]
  rfl

/-- One who stands there no more and has taken up nothing leaves as many places free. -/
theorem free_eq (h : Spares i 0 g g') (gone : i ∉ g.standing) : g'.free = g.free := by
  obtain ⟨n, queue, _, rfl, rfl⟩ := h
  have never : i ∉ queue := fun mem => gone (mem_standing_ofQueue.2 mem)
  unfold ofQueue
  rw [List.erase_of_not_mem never, List.length_map]
  rfl

/-! What the others do. -/

theorem map_erase_renumber (other : j ≠ i) {queue : List Nat} (gone : i ∉ queue) :
    (queue.erase j).map (renumber i) = (queue.map (renumber i)).erase (renumber i j) := by
  induction queue with
  | nil => rfl
  | cons x rest ih =>
    obtain ⟨ne, rest'⟩ := not_or.1 (mt List.mem_cons.2 gone)
    rw [List.map_cons, List.erase_cons, List.erase_cons, ← ih rest']
    by_cases same : x = j
    · rw [if_pos (beq_iff_eq.2 same), if_pos (beq_iff_eq.2 (congrArg (renumber i) same))]
    · have differs : renumber i x ≠ renumber i j := mt (renumber_inj (Ne.symm ne) other).1 same
      rw [if_neg (mt beq_iff_eq.1 same), if_neg (mt beq_iff_eq.1 differs), List.map_cons]

theorem arrive (h : Spares i taken g g') (other : j ≠ i) (new : j ∉ g.standing) :
    Spares i taken (g.arrive j) (g'.arrive (renumber i j)) := by
  obtain ⟨n, queue, once, rfl, rfl⟩ := h
  have absent : j ∉ queue := fun mem => new (mem_standing_ofQueue.2 mem)
  refine ⟨n, queue ++ [j], ?_, arrive_ofQueue n queue j, ?_⟩
  · exact (List.perm_append_singleton j queue).nodup_iff.2 (List.nodup_cons.2 ⟨absent, once⟩)
  · rw [arrive_ofQueue]
    by_cases stands : i ∈ queue
    · rw [List.erase_append_left _ stands, List.map_append, List.map_singleton]
    · have alone : i ∉ queue ++ [j] := by
        rw [List.mem_append, List.mem_singleton]
        rintro (mem | same)
        · exact stands mem
        · exact other same.symm
      rw [List.erase_of_not_mem stands, List.erase_of_not_mem alone, List.map_append,
        List.map_singleton]

theorem release (h : Spares i taken g g') : Spares i taken g.release g'.release := by
  obtain ⟨n, queue, once, rfl, rfl⟩ := h
  refine ⟨n + 1, queue, once, release_ofQueue n queue, ?_⟩
  rw [release_ofQueue, Nat.add_right_comm]

/-- A place that is ready for another one is ready for him without the first, too. -/
theorem ready (h : Spares i taken g g') (other : j ≠ i) (ready : j ∈ g.ready) :
    renumber i j ∈ g'.ready := by
  obtain ⟨n, queue, _, rfl, rfl⟩ := h
  rw [mem_ready_ofQueue] at ready
  obtain ⟨back, parts⟩ : ∃ back, queue.erase i = (queue.take n).erase i ++ back := by
    by_cases stands : i ∈ queue.take n
    · refine ⟨queue.drop n, ?_⟩
      rw [← List.erase_append_left _ stands, List.take_append_drop]
    · refine ⟨(queue.drop n).erase i, ?_⟩
      rw [List.erase_of_not_mem stands, ← List.erase_append_right _ stands, List.take_append_drop]
  have short : ((queue.take n).erase i).length ≤ n + taken := by
    have fewer : ((queue.take n).erase i).length ≤ (queue.take n).length := List.length_erase_le
    rw [List.length_take] at fewer
    omega
  rw [mem_ready_ofQueue, ← List.map_take, parts, List.take_append, List.take_of_length_le short]
  apply List.mem_map_of_mem
  exact List.mem_append_left _ ((List.mem_erase_of_ne other).2 ready)

theorem take (h : Spares i taken g g') (other : j ≠ i) (ready : j ∈ g.ready) :
    Spares i taken (g.take j) (g'.take (renumber i j)) := by
  have ready' := h.ready other ready
  obtain ⟨n, queue, once, rfl, rfl⟩ := h
  have gone : i ∉ queue.erase i := fun mem => (once.mem_erase_iff.1 mem).1 rfl
  have places : n - 1 + taken = n + taken - 1 := by
    have pos := pos_of_ready (mem_ready_ofQueue.1 ready)
    omega
  refine ⟨n - 1, queue.erase j, once.erase j, take_ofQueue ready, ?_⟩
  rw [take_ofQueue ready', ← map_erase_renumber other gone, List.erase_comm, places]

theorem leave (h : Spares i taken g g') (other : j ≠ i) :
    Spares i taken (g.leave j) (g'.leave (renumber i j)) := by
  obtain ⟨n, queue, once, rfl, rfl⟩ := h
  have gone : i ∉ queue.erase i := fun mem => (once.mem_erase_iff.1 mem).1 rfl
  refine ⟨n, queue.erase j, once.erase j, leave_ofQueue n queue j, ?_⟩
  rw [leave_ofQueue, ← map_erase_renumber other gone, List.erase_comm]

/-! What he does himself. -/

theorem arrive_self (h : Spares i taken g g') (new : i ∉ g.standing) :
    Spares i taken (g.arrive i) g' := by
  obtain ⟨n, queue, once, rfl, rfl⟩ := h
  have absent : i ∉ queue := fun mem => new (mem_standing_ofQueue.2 mem)
  refine ⟨n, queue ++ [i], ?_, arrive_ofQueue n queue i, ?_⟩
  · exact (List.perm_append_singleton i queue).nodup_iff.2 (List.nodup_cons.2 ⟨absent, once⟩)
  · rw [List.erase_append_right _ absent, List.erase_of_not_mem absent, List.erase_cons_head,
      List.append_nil]

theorem take_self (h : Spares i taken g g') (ready : i ∈ g.ready) :
    Spares i (taken + 1) (g.take i) g' := by
  obtain ⟨n, queue, once, rfl, rfl⟩ := h
  have gone : i ∉ queue.erase i := fun mem => (once.mem_erase_iff.1 mem).1 rfl
  have places : n - 1 + (taken + 1) = n + taken := by
    have pos := pos_of_ready (mem_ready_ofQueue.1 ready)
    omega
  refine ⟨n - 1, queue.erase i, once.erase i, take_ofQueue ready, ?_⟩
  rw [List.erase_of_not_mem gone, places]

theorem leave_self (h : Spares i taken g g') : Spares i taken (g.leave i) g' := by
  obtain ⟨n, queue, once, rfl, rfl⟩ := h
  have gone : i ∉ queue.erase i := fun mem => (once.mem_erase_iff.1 mem).1 rfl
  refine ⟨n, queue.erase i, once.erase i, leave_ofQueue n queue i, ?_⟩
  rw [List.erase_of_not_mem gone]

theorem release_self (h : Spares i (taken + 1) g g') : Spares i taken g.release g' := by
  obtain ⟨n, queue, once, rfl, rfl⟩ := h
  refine ⟨n + 1, queue, once, release_ofQueue n queue, ?_⟩
  rw [Nat.add_right_comm, Nat.add_assoc]

end Spares

end Gate

end Courier.Confirm
