import Courier.Proofs.Validation.Nesting
import Courier.Proofs.Validation.Shape

/-!
# The check on email addresses

Which texts the check lets pass, as a grammar of texts: a mailbox and labels, joined by an `@` and
by dots (`IsEmail`). It says of texts what `IsAddress` says of their characters
(`isAddress_iff_isEmail`).
-/

namespace Courier
set_option autoImplicit false

/-- A mailbox, an `@`, and two labels or more with dots between them, none of them empty and no
label with a dot in it; no white space, and no other `@`. -/
structure IsEmail (value mailbox : String) (labels : List String) : Prop where
  parts : value = mailbox ++ "@" ++ ".".intercalate labels
  several : 2 ≤ labels.length
  mailbox_ne : mailbox ≠ ""
  label_ne : ∀ l ∈ labels, l ≠ ""
  undotted : ∀ l ∈ labels, '.' ∉ l.toList
  graphic : ∀ c ∈ value.toList, Text.isBlank c = false
  one_at : value.toList.count '@' = 1

variable {value mailbox : String} {labels : List String}

/-- The characters of an address, part by part. -/
theorem toList_mailbox_labels (mailbox : String) (labels : List String) :
    (mailbox ++ "@" ++ ".".intercalate labels).toList
      = mailbox.toList ++ '@' :: ['.'].intercalate (labels.map String.toList) := by
  rw [String.toList_append, String.toList_append, String.toList_intercalate, List.append_assoc]
  rfl

/-- A text with one `@` has it between its mailbox and its labels only. -/
theorem IsEmail.at_not_mem (h : IsEmail value mailbox labels) :
    '@' ∉ mailbox.toList ∧ ∀ l ∈ labels, '@' ∉ l.toList := by
  have one := h.one_at
  rw [h.parts, toList_mailbox_labels, List.count_append, List.count_cons_self] at one
  have front : mailbox.toList.count '@' = 0 := by omega
  have back : (['.'].intercalate (labels.map String.toList)).count '@' = 0 := by omega
  rw [List.count_eq_zero] at front back
  exact ⟨front, fun l there mem => back (mem_intercalate_of_mem (List.mem_map_of_mem there) mem)⟩

theorem IsEmail.isAddress (h : IsEmail value mailbox labels) : IsAddress value.toList := by
  obtain ⟨noAt, noAtLabels⟩ := h.at_not_mem
  have whole : value.toList
      = mailbox.toList ++ '@' :: ['.'].intercalate (labels.map String.toList) :=
    (congrArg String.toList h.parts).trans (toList_mailbox_labels mailbox labels)
  have graphic := h.graphic
  rw [whole] at graphic ⊢
  refine .parts ⟨?_, fun c mem => ⟨graphic c (List.mem_append_left _ mem), ?_⟩⟩ ?_ ?_
  · exact fun empty => h.mailbox_ne (String.toList_eq_nil_iff.1 empty)
  · rintro rfl
    exact noAt mem
  · intro cs there
    obtain ⟨l, mem, rfl⟩ := List.mem_map.1 there
    refine ⟨⟨fun empty => h.label_ne l mem (String.toList_eq_nil_iff.1 empty), fun c inside => ?_⟩,
      h.undotted l mem⟩
    refine ⟨graphic c ?_, ?_⟩
    · exact List.mem_append_right _ (List.mem_cons_of_mem _ (mem_intercalate_of_mem there inside))
    · rintro rfl
      exact noAtLabels l mem inside
  · rw [List.length_map]
    exact h.several

/-- Addresses are the texts that have a mailbox and labels. -/
theorem isAddress_iff_isEmail :
    IsAddress value.toList ↔ ∃ mailbox labels, IsEmail value mailbox labels := by
  refine ⟨fun h => ?_, fun ⟨_, _, h⟩ => h.isAddress⟩
  generalize chars : value.toList = cs at h
  obtain ⟨part, areLabels, several⟩ := h
  rename_i mailbox labels
  have back : (labels.map String.ofList).map String.toList = labels := by
    rw [List.map_map]
    exact (List.map_congr_left fun _ _ => String.toList_ofList).trans (List.map_id labels)
  have whole :
      value = String.ofList mailbox ++ "@" ++ ".".intercalate (labels.map String.ofList) := by
    apply String.toList_inj.1
    rw [toList_mailbox_labels, back, String.toList_ofList, chars]
  have ofList_ne {cs : List Char} (some : cs ≠ []) : String.ofList cs ≠ "" := by
    intro empty
    rw [← String.toList_eq_nil_iff, String.toList_ofList] at empty
    exact some empty
  refine ⟨.ofList mailbox, labels.map String.ofList, whole, ?_, ofList_ne part.1, ?_, ?_, ?_, ?_⟩
  · rw [List.length_map]
    exact several
  · intro l there
    obtain ⟨cs, mem, rfl⟩ := List.mem_map.1 there
    exact ofList_ne (areLabels cs mem).1.1
  · intro l there
    obtain ⟨cs, mem, rfl⟩ := List.mem_map.1 there
    rw [String.toList_ofList]
    exact (areLabels cs mem).2
  · have graphic := (isAddress_iff part.at_not_mem (at_not_mem_intercalate areLabels)).1
      (.parts part areLabels several)
    rw [chars]
    exact graphic.1
  · rw [chars, List.count_append, List.count_cons_self, List.count_eq_zero.2 part.at_not_mem,
      List.count_eq_zero.2 (at_not_mem_intercalate areLabels)]

/-- The check on email addresses reports nothing of a text exactly if it is empty or an address:
a mailbox, an `@`, and two labels or more with dots between them, none of them empty and no label
with a dot in it, no white space and no other `@` anywhere. Otherwise it reports the field once. -/
theorem Violations.email_accepts (v : Violations) (field value message : String) :
    ((v.run (.email field value message)).items = v.items ↔
      value = "" ∨ ∃ mailbox labels, IsEmail value mailbox labels) ∧
    (v.run (.email field value message) = v ∨
      v.run (.email field value message) = v.push field message) := by
  have ran : v.run (.email field value message)
      = if value.isEmpty || isEmail value then v else v.push field message := rfl
  have accepted : (value.isEmpty || isEmail value) = true
      ↔ value = "" ∨ ∃ mailbox labels, IsEmail value mailbox labels := by
    rw [Bool.or_eq_true, String.isEmpty_iff, isEmail_iff, isAddress_iff_isEmail]
  rw [← accepted, ran]
  split
  · next fine => exact ⟨iff_of_true rfl fine, .inl rfl⟩
  · next wrong =>
    have reported : (v.push field message).items ≠ v.items := by
      simp [push]
    exact ⟨iff_of_false reported wrong, .inr rfl⟩

/-- One label is not enough, nor is an empty one. -/
example :
    let reported (value : String) :=
      (Violations.empty.run (.email "email" value "odd")).items.length
    reported "luke@x.com" = 0 ∧ reported "luke@x" = 1 ∧ reported "luke@x..com" = 1 := by decide

end Courier
