import Courier.Text.Blank

/-!
# Trimmed text

What is left of a text without the white space at its ends is the only part of it that has white
space around it and none at its own ends (`isTrimmed_iff`).
-/

namespace Courier.Text
set_option autoImplicit false

variable {cs core : List Char}

/-- A part of a text with nothing but white space around it, and none at its own ends. -/
structure IsTrimmed (cs core : List Char) : Prop where
  around : ∃ front back, cs = front ++ core ++ back ∧ (∀ c ∈ front, isBlank c = true) ∧
    ∀ c ∈ back, isBlank c = true
  head : ∀ c ∈ core.head?, isBlank c = false
  last : ∀ c ∈ core.getLast?, isBlank c = false

/-- White space in front is taken off, up to the first character that is none. -/
theorem trimStart_append {front : List Char} (blank : ∀ c ∈ front, isBlank c = true)
    (graphic : ∀ c ∈ cs.head?, isBlank c = false) : trimStart (front ++ cs) = cs := by
  unfold trimStart
  rw [List.dropWhile_append_of_pos blank]
  cases cs with
  | nil => rfl
  | cons c cs => exact List.dropWhile_cons_of_neg (by simp [graphic c rfl])

theorem trimStart_blank (blank : ∀ c ∈ cs, isBlank c = true) : trimStart cs = [] :=
  trimStart_eq_nil_iff.2 (List.all_eq_true.2 blank)

/-- A text without white space is trimmed. -/
theorem isTrimmed_self (graphic : ∀ c ∈ cs, isBlank c = false) : IsTrimmed cs cs where
  around := ⟨[], [], (List.append_nil cs).symm, List.forall_mem_nil _, List.forall_mem_nil _⟩
  head c first := graphic c (List.mem_of_head? first)
  last c last := graphic c (List.mem_of_getLast? last)

theorem head_trimStart (cs : List Char) : ∀ c ∈ (trimStart cs).head?, isBlank c = false := by
  intro c first
  have graphic := List.head?_dropWhile_not isBlank cs
  rw [show (cs.dropWhile isBlank).head? = some c from first] at graphic
  exact graphic

theorem exists_front (cs : List Char) :
    ∃ front, cs = front ++ trimStart cs ∧ ∀ c ∈ front, isBlank c = true := by
  induction cs with
  | nil => exact ⟨[], rfl, List.forall_mem_nil _⟩
  | cons c cs ih =>
    by_cases blank : isBlank c = true
    · obtain ⟨front, split, frontBlank⟩ := ih
      refine ⟨c :: front, ?_, List.forall_mem_cons.2 ⟨blank, frontBlank⟩⟩
      rw [trimStart, List.dropWhile_cons_of_pos blank]
      exact congrArg (c :: ·) split
    · exact ⟨[], (List.dropWhile_cons_of_neg blank).symm, List.forall_mem_nil _⟩

theorem isTrimmed_trim (cs : List Char) : IsTrimmed cs (trim cs) := by
  obtain ⟨front, split, frontBlank⟩ := exists_front cs
  obtain ⟨back, turned, backBlank⟩ := exists_front (trimStart cs).reverse
  have rest : trimStart cs = trim cs ++ back.reverse := by
    have := congrArg List.reverse turned
    rwa [List.reverse_reverse, List.reverse_append] at this
  refine ⟨⟨front, back.reverse, ?_, frontBlank, fun c mem => ?_⟩, fun c first => ?_,
    fun c last => ?_⟩
  · rw [List.append_assoc, ← rest]
    exact split
  · exact backBlank c (List.mem_reverse.1 mem)
  · apply head_trimStart cs c
    rw [rest, List.head?_append, show (trim cs).head? = some c from first]
    rfl
  · apply head_trimStart (trimStart cs).reverse c
    rwa [trim, List.getLast?_reverse] at last

/-- Trimming gives this part of a text, which is the only one. -/
theorem isTrimmed_iff : IsTrimmed cs core ↔ core = trim cs := by
  refine ⟨fun h => ?_, fun h => h ▸ isTrimmed_trim cs⟩
  obtain ⟨front, back, rfl, frontBlank, backBlank⟩ := h.around
  have backTurned : ∀ c ∈ back.reverse, isBlank c = true :=
    fun c mem => backBlank c (List.mem_reverse.1 mem)
  unfold trim
  cases core with
  | nil =>
    have blank : ∀ c ∈ front ++ [] ++ back, isBlank c = true := by
      simpa [or_imp, forall_and] using ⟨frontBlank, backBlank⟩
    rw [trimStart_blank blank]
    rfl
  | cons c core =>
    have first : ∀ d ∈ (c :: core ++ back).head?, isBlank d = false := h.head
    have last : ∀ d ∈ (c :: core).reverse.head?, isBlank d = false := by
      rw [List.head?_reverse]
      exact h.last
    rw [List.append_assoc, trimStart_append frontBlank first, List.reverse_append,
      trimStart_append backTurned last, List.reverse_reverse]

end Courier.Text
