import Courier.Contract.Checks
import Mathlib.Data.List.Forall2

/-!
# The shapes of texts

What the checks on texts accept, said without the checks: a text that holds more than white space
(`HasText`), an email address as a mailbox before labels (`IsAddress`), a text that fills a template
place by place (`followsTemplate_iff`), and so a phone number (`IsPhoneNumber`).
-/

namespace Courier
set_option autoImplicit false

/-! More than white space. -/

/-- Some character is not white space. -/
def HasText (s : String) : Prop := ∃ c ∈ s.toList, Text.isBlank c = false

theorem allBlank_eq_false_iff {s : String} : Text.allBlank s = false ↔ HasText s := by
  simp [Text.allBlank, HasText]

instance (s : String) : Decidable (HasText s) := decidable_of_iff _ allBlank_eq_false_iff

/-! Email addresses. -/

/-- Characters of a mailbox or a label: some, none of them white space or an `@`. -/
def IsPart (cs : List Char) : Prop := cs ≠ [] ∧ ∀ c ∈ cs, Text.isBlank c = false ∧ c ≠ '@'

/-- An email address: a mailbox, an `@`, and two labels or more with dots between them. -/
inductive IsAddress : List Char → Prop where
  | parts {mailbox : List Char} {labels : List (List Char)} (isMailbox : IsPart mailbox)
    (areLabels : ∀ l ∈ labels, IsPart l ∧ '.' ∉ l) (several : 2 ≤ labels.length) :
    IsAddress (mailbox ++ '@' :: ['.'].intercalate labels)

/-- The parts of a split do not hold what was split on. -/
theorem not_mem_of_mem_splitOn {x : Char} {cs part : List Char} (h : part ∈ cs.splitOn x) :
    x ∉ part := by
  induction cs generalizing part with
  | nil =>
    rw [List.splitOn_nil, List.mem_singleton] at h
    rw [h]
    exact List.not_mem_nil
  | cons c cs ih =>
    rw [List.splitOn_cons_eq_if_modifyHead] at h
    split at h
    · obtain rfl | h := List.mem_cons.1 h
      · exact List.not_mem_nil
      · exact ih h
    · next other =>
      obtain ⟨first, others, parts⟩ := List.exists_cons_of_ne_nil (List.splitOn_ne_nil x cs)
      rw [parts, List.modifyHead_cons] at h
      obtain rfl | h := List.mem_cons.1 h
      · rw [List.mem_cons, not_or]
        exact ⟨fun same => other (by simp [same]), ih (parts ▸ List.mem_cons_self)⟩
      · exact ih (parts ▸ List.mem_cons_of_mem first h)

/-- Every character of joined lists is one of a list or of what joins them. -/
theorem mem_intercalate {sep : List Char} {lists : List (List Char)} {c : Char}
    (h : c ∈ sep.intercalate lists) : c ∈ sep ∨ ∃ l ∈ lists, c ∈ l := by
  induction lists with
  | nil => simp at h
  | cons l ls ih =>
    cases ls with
    | nil =>
      rw [List.intercalate_singleton] at h
      exact .inr ⟨l, List.mem_cons_self, h⟩
    | cons m ls =>
      rw [List.intercalate_cons_cons, List.mem_append, List.mem_append] at h
      obtain (here | here) | here := h
      · exact .inr ⟨l, List.mem_cons_self, here⟩
      · exact .inl here
      · exact (ih here).imp_right fun ⟨m, there, mem⟩ => ⟨m, List.mem_cons_of_mem l there, mem⟩

/-- Every list that is joined is within the result. -/
theorem mem_intercalate_of_mem {sep l : List Char} {lists : List (List Char)} {c : Char}
    (there : l ∈ lists) (mem : c ∈ l) : c ∈ sep.intercalate lists := by
  induction lists with
  | nil => cases there
  | cons m ls ih =>
    cases ls with
    | nil =>
      rw [List.mem_singleton] at there
      simpa [there] using mem
    | cons n ls =>
      rw [List.intercalate_cons_cons, List.mem_append, List.mem_append]
      obtain rfl | there := List.mem_cons.1 there
      · exact .inl (.inl mem)
      · exact .inr (ih there)

theorem IsPart.at_not_mem {cs : List Char} (h : IsPart cs) : '@' ∉ cs := fun mem => (h.2 _ mem).2 rfl

theorem at_not_mem_intercalate {labels : List (List Char)}
    (areLabels : ∀ l ∈ labels, IsPart l ∧ '.' ∉ l) : '@' ∉ ['.'].intercalate labels := by
  intro mem
  obtain dot | ⟨l, there, mem⟩ := mem_intercalate mem
  · simp at dot
  · exact (areLabels l there).1.at_not_mem mem

/-- An address is cut in two at its `@`. -/
theorem splitOn_address {mailbox domain : List Char} (isMailbox : '@' ∉ mailbox)
    (isDomain : '@' ∉ domain) : (mailbox ++ '@' :: domain).splitOn '@' = [mailbox, domain] := by
  have join : mailbox ++ '@' :: domain = ['@'].intercalate [mailbox, domain] := by
    simp [List.intercalate_cons_cons]
  rw [join, List.splitOn_intercalate]
  · simp [isMailbox, isDomain]
  · simp

/-- A text has a dot exactly if dots part it into several labels. -/
theorem contains_dot_iff {cs : List Char} :
    cs.contains '.' = true ↔ 2 ≤ (cs.splitOn '.').length := by
  induction cs with
  | nil => simp
  | cons c cs ih =>
    rw [List.splitOn_cons_eq_if_modifyHead]
    split
    · next dot =>
      have some := List.length_pos_of_ne_nil (List.splitOn_ne_nil '.' cs)
      simp only [List.contains_cons, beq_iff_eq.1 dot, beq_self_eq_true, Bool.true_or, true_iff,
        List.length_cons]
      omega
    · next other =>
      have ne : ('.' == c) = false := by
        rw [beq_eq_false_iff_ne]
        rintro rfl
        exact other rfl
      rw [List.contains_cons, ne, Bool.false_or, ih, List.length_modifyHead]

/-- The first label is empty exactly if nothing or a dot comes first. -/
theorem firstLabel_ne_nil_iff {cs : List Char} :
    (cs.splitOn '.').head? ≠ some [] ↔ cs ≠ [] ∧ cs.head? ≠ some '.' := by
  cases cs with
  | nil => simp
  | cons c cs =>
    rw [List.splitOn_cons_eq_if_modifyHead]
    split
    · next dot => simp [beq_iff_eq.1 dot]
    · next other =>
      have ne : c ≠ '.' := by
        rintro rfl
        exact other rfl
      obtain ⟨first, others, parts⟩ := List.exists_cons_of_ne_nil (List.splitOn_ne_nil '.' cs)
      simp [parts, ne]

/-- The labels hold something exactly if the first and the later ones do. -/
theorem forall_labels_iff {cs : List Char} :
    (∀ l ∈ cs.splitOn '.', l ≠ []) ↔
      (cs.splitOn '.').head? ≠ some [] ∧ ∀ l ∈ (cs.splitOn '.').tail, l ≠ [] := by
  obtain ⟨first, others, parts⟩ := List.exists_cons_of_ne_nil (List.splitOn_ne_nil '.' cs)
  simp [parts]

/-- The labels after the first hold something exactly if no dot comes last and no two dots stand
side by side: every label but the first begins behind a dot. -/
theorem laterLabels_ne_nil_iff {cs : List Char} :
    (∀ l ∈ (cs.splitOn '.').tail, l ≠ []) ↔
      cs.getLast? ≠ some '.' ∧ hasDoubleDot cs = false := by
  induction cs with
  | nil => simp [hasDoubleDot]
  | cons c cs ih =>
    rw [List.splitOn_cons_eq_if_modifyHead]
    split
    · next dot =>
      obtain rfl : c = '.' := beq_iff_eq.1 dot
      rw [List.tail_cons, forall_labels_iff, firstLabel_ne_nil_iff, ih]
      cases cs with
      | nil => simp
      | cons d cs => simp [hasDoubleDot, and_left_comm]
    · next other =>
      have ne : c ≠ '.' := by
        rintro rfl
        exact other rfl
      have tail : (List.modifyHead (List.cons c) (cs.splitOn '.')).tail
          = (cs.splitOn '.').tail := by
        cases cs.splitOn '.' <;> rfl
      rw [tail, ih]
      cases cs with
      | nil => simp [hasDoubleDot, ne]
      | cons d cs => simp [hasDoubleDot, ne]

/-- A domain consists of several labels that hold something. -/
theorem isDomain_iff {cs : List Char} :
    isDomain cs = true ↔ 2 ≤ (cs.splitOn '.').length ∧ ∀ l ∈ cs.splitOn '.', l ≠ [] := by
  rw [forall_labels_iff, firstLabel_ne_nil_iff, laterLabels_ne_nil_iff, ← contains_dot_iff]
  have some (dot : cs.contains '.' = true) : cs ≠ [] := by
    rintro rfl
    cases dot
  simp only [isDomain, Bool.and_eq_true, bne_iff_ne, Bool.not_eq_true', and_assoc]
  exact ⟨fun ⟨dot, rest⟩ => ⟨dot, some dot, rest⟩, fun ⟨dot, _, rest⟩ => ⟨dot, rest⟩⟩

/-- What the check on addresses demands of the two sides of the `@`. -/
theorem isAddress_iff {mailbox domain : List Char} (isMailbox : '@' ∉ mailbox)
    (isDomain : '@' ∉ domain) :
    IsAddress (mailbox ++ '@' :: domain) ↔
      (∀ c ∈ mailbox ++ '@' :: domain, Text.isBlank c = false) ∧ mailbox ≠ [] ∧
        2 ≤ (domain.splitOn '.').length ∧ ∀ l ∈ domain.splitOn '.', l ≠ [] := by
  constructor
  · generalize address : mailbox ++ '@' :: domain = cs
    rintro ⟨part, areLabels, several⟩
    rename_i front labels
    have cut := splitOn_address part.at_not_mem (at_not_mem_intercalate areLabels)
    rw [← address, splitOn_address isMailbox isDomain] at cut
    obtain ⟨rfl, rfl⟩ : mailbox = front ∧ domain = ['.'].intercalate labels := by simpa using cut
    have back : (['.'].intercalate labels).splitOn '.' = labels :=
      List.splitOn_intercalate '.' (fun l there => (areLabels l there).2) (by
        rintro rfl
        simp at several)
    rw [back]
    refine ⟨?_, part.1, several, fun l there => (areLabels l there).1.1⟩
    intro c mem
    obtain mem | mem := List.mem_append.1 mem
    · exact (part.2 c mem).1
    obtain rfl | mem := List.mem_cons.1 mem
    · decide
    obtain dot | ⟨l, there, mem⟩ := mem_intercalate mem
    · rw [List.mem_singleton.1 dot]
      decide
    · exact ((areLabels l there).1.2 c mem).1
  · rintro ⟨graphic, some, several, filled⟩
    have whole : ['.'].intercalate (domain.splitOn '.') = domain := List.intercalate_splitOn '.'
    rw [← whole]
    refine .parts ⟨some, fun c mem => ⟨graphic c (List.mem_append_left _ mem), ?_⟩⟩ ?_ several
    · rintro rfl
      exact isMailbox mem
    · intro l there
      refine ⟨⟨filled l there, fun c mem => ?_⟩, not_mem_of_mem_splitOn there⟩
      have inside : c ∈ domain := whole ▸ mem_intercalate_of_mem there mem
      refine ⟨graphic c (List.mem_append_right _ (List.mem_cons_of_mem _ inside)), ?_⟩
      rintro rfl
      exact isDomain inside

/-- The check on email addresses accepts addresses and nothing else. -/
theorem isEmail_iff {s : String} : isEmail s = true ↔ IsAddress s.toList := by
  unfold isEmail
  generalize s.toList = cs
  dsimp only
  split
  · next mailbox domain cut =>
    have joined : cs = mailbox ++ '@' :: domain := by
      have whole : ['@'].intercalate (cs.splitOn '@') = cs := List.intercalate_splitOn '@'
      rw [cut] at whole
      rw [← whole]
      simp [List.intercalate_cons_cons]
    have noAt (part : List Char) (mem : part ∈ [mailbox, domain]) : '@' ∉ part :=
      not_mem_of_mem_splitOn (cut ▸ mem)
    rw [joined, isAddress_iff (noAt _ (by simp)) (noAt _ (by simp)), List.forall_mem_append,
      List.forall_mem_cons, ← isDomain_iff]
    simp [and_assoc]
  · next other =>
    rw [Bool.and_false]
    refine ⟨fun h => absurd h Bool.false_ne_true, ?_⟩
    rintro ⟨part, areLabels, several⟩
    exact absurd (splitOn_address part.at_not_mem (at_not_mem_intercalate areLabels)) (other _ _)

instance (s : String) : Decidable (IsAddress s.toList) := decidable_of_iff _ isEmail_iff

/-! Phone numbers. -/

/-- A text follows a template if its characters fill the places one by one. -/
theorem followsTemplate_iff {ts cs : List Char} :
    followsTemplate ts cs = true ↔ List.Forall₂ (fun t c => fillsPlace t c = true) ts cs := by
  induction ts generalizing cs with
  | nil => cases cs <;> simp [followsTemplate]
  | cons t ts ih => cases cs <;> simp [followsTemplate, ih]

/-- A phone number: `+d (ddd) ddd-dddd` with a digit for every `d`. -/
def IsPhoneNumber (cs : List Char) : Prop :=
  ∃ d₀ d₁ d₂ d₃ d₄ d₅ d₆ d₇ d₈ d₉ d₁₀ : Char,
    (∀ d ∈ [d₀, d₁, d₂, d₃, d₄, d₅, d₆, d₇, d₈, d₉, d₁₀], d.isDigit = true) ∧
      cs = ['+', d₀, ' ', '(', d₁, d₂, d₃, ')', ' ', d₄, d₅, d₆, '-', d₇, d₈, d₉, d₁₀]

theorem followsTemplate_phoneNumber {s : String} :
    followsTemplate phoneNumberTemplate.toList s.toList = true ↔ IsPhoneNumber s.toList := by
  have template : phoneNumberTemplate.toList = ['+', '#', ' ', '(', '#', '#', '#', ')', ' ', '#',
      '#', '#', '-', '#', '#', '#', '#'] := by decide
  rw [followsTemplate_iff, template]
  simp only [List.forall₂_cons_left_iff, List.forall₂_nil_left_iff]
  simp [IsPhoneNumber, fillsPlace]

instance (s : String) : Decidable (IsPhoneNumber s.toList) :=
  decidable_of_iff _ followsTemplate_phoneNumber

end Courier
