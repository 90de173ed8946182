import Courier.Proofs.Validation.Nesting
import Courier.Proofs.Validation.Shape

/-!
# Well-formed messages

What it takes of a message to pass its checks, said of its data (`Message.WellFormed`), and which
fields of a client are reported otherwise (`CreateClient.faults`). Both come from what a single check
demands (`Check.Passes`) and from what the leaves of a list of phones report under their paths.
-/

namespace Courier
set_option autoImplicit false

/-! What a check demands. -/

namespace Check

/-- None of the check's leaves fails. -/
def Passes (c : Check) : Prop := ∀ l ∈ c.leaves, l.fails = false

theorem passes_required {field value message : String} :
    (required field value message).Passes ↔ HasText value := by
  simp [Passes, leaves, allBlank_eq_false_iff]

theorem passes_requiredId {field message : String} {value : Uuid} :
    (requiredId field value message).Passes ↔ value ≠ .nil := by
  simp [Passes, leaves, Uuid.isNil]

theorem passes_email {field value message : String} :
    (email field value message).Passes ↔ value = "" ∨ IsAddress value.toList := by
  simp only [Passes, leaves, List.forall_mem_singleton, ← isEmail_iff, ← String.isEmpty_iff]
  cases value.isEmpty <;> simp

theorem passes_phoneNumber {field value message : String} :
    (template field value phoneNumberTemplate message).Passes
      ↔ value = "" ∨ IsPhoneNumber value.toList := by
  simp only [Passes, leaves, List.forall_mem_singleton, ← followsTemplate_phoneNumber,
    ← String.isEmpty_iff]
  cases value.isEmpty <;> simp

theorem leavesOfEach_eq (items : List (List Check)) : leavesOfEach items = items.map leavesOfAll := by
  induction items with
  | nil => rfl
  | cons item items ih => rw [leavesOfEach, ih, List.map_cons]

theorem forall_leavesOfAll {checks : List Check} :
    (∀ l ∈ leavesOfAll checks, l.fails = false) ↔ ∀ c ∈ checks, c.Passes := by
  induction checks with
  | nil => simp [leavesOfAll]
  | cons c cs ih => rw [leavesOfAll, List.forall_mem_append, ih, List.forall_mem_cons, Passes]

/-- A nested list passes if every check of every item does. -/
theorem passes_nested {field : String} {items : List (List Check)} :
    (nested field items).Passes ↔ ∀ item ∈ items, ∀ c ∈ item, c.Passes := by
  rw [Passes, leaves, leavesOfEach_eq]
  simp only [List.mem_flatMap, List.mem_map, ← forall_leavesOfAll]
  constructor
  · intro h item mem l there
    obtain ⟨i, at_⟩ := List.mem_iff_getElem?.1 mem
    exact h (l.within field i)
      ⟨(leavesOfAll item, i), List.mem_zipIdx_iff_getElem?.2 (by simp [at_]), l, there, rfl⟩
  · rintro h l ⟨⟨ls, i⟩, mem, l, there, rfl⟩
    have at_ := List.mem_zipIdx_iff_getElem?.1 mem
    rw [List.getElem?_map, Option.map_eq_some_iff] at at_
    obtain ⟨item, at_, rfl⟩ := at_
    exact h item (List.mem_of_getElem? at_) l there

end Check

theorem violations_eq_reports (checks : List Check) :
    violations checks = reports "" (Check.leavesOfAll checks) := by
  rw [violations, Violations.runAll_eq]
  rfl

/-- Nothing is reported exactly if every check passes. -/
theorem violations_eq_nil_iff {checks : List Check} :
    violations checks = [] ↔ ∀ c ∈ checks, c.Passes := by
  rw [violations_eq_reports, ← Check.forall_leavesOfAll]
  simp [reports]

/-! What a message has to be. -/

/-- A phone to attach has a number of the usual shape and a type. -/
def CreatePhone.WellFormed (m : CreatePhone) : Prop :=
  IsPhoneNumber m.phoneNumber.toList ∧ HasText m.phoneType

/-- A new client has both names, an email address and well-formed phones. -/
def CreateClient.WellFormed (m : CreateClient) : Prop :=
  HasText m.firstName ∧ HasText m.lastName ∧ (m.email ≠ "" ∧ IsAddress m.email.toList) ∧
    ∀ p ∈ m.phones, p.WellFormed

/-- What a message has to be. Events may be anything. -/
def Message.WellFormed : Message → Prop
  | ⟨.createClient, m⟩ => m.WellFormed
  | ⟨.createPhone, m⟩ => m.WellFormed
  | ⟨.updateClient, m⟩ => m.id ≠ .nil ∧ (m.email = "" ∨ IsAddress m.email.toList)
  | ⟨.updatePhone, m⟩ =>
    m.id ≠ .nil ∧ m.clientId ≠ .nil ∧ (m.number = "" ∨ IsPhoneNumber m.number.toList)
  | ⟨.deleteClient, m⟩ => m.id ≠ .nil
  | ⟨.changeClientArchiveStatus, m⟩ => m.id ≠ .nil
  | ⟨.clientCreated, _⟩ | ⟨.clientUpdated, _⟩ | ⟨.clientDeleted, _⟩
  | ⟨.clientArchiveStatusChanged, _⟩ => True

theorem IsAddress.hasText {s : String} (h : IsAddress s.toList) : HasText s := by
  generalize chars : s.toList = cs at h
  obtain ⟨part, -, -⟩ := h
  exact ⟨'@', by simp [chars], by decide⟩

theorem IsPhoneNumber.hasText {s : String} (h : IsPhoneNumber s.toList) : HasText s := by
  obtain ⟨d₀, d₁, d₂, d₃, d₄, d₅, d₆, d₇, d₈, d₉, d₁₀, -, chars⟩ := h
  exact ⟨'+', by simp [chars], by decide⟩

theorem HasText.ne_empty {s : String} (h : HasText s) : s ≠ "" := by
  rintro rfl
  obtain ⟨c, mem, -⟩ := h
  simp at mem

theorem CreatePhone.passes_iff (m : CreatePhone) : (∀ c ∈ m.checks, c.Passes) ↔ m.WellFormed := by
  simp only [checks, List.forall_mem_cons, Check.passes_required, Check.passes_phoneNumber,
    WellFormed]
  constructor
  · rintro ⟨number, shape, type, -⟩
    exact ⟨shape.resolve_left number.ne_empty, type⟩
  · rintro ⟨shape, type⟩
    exact ⟨shape.hasText, .inr shape, type, by simp⟩

theorem CreateClient.passes_iff (m : CreateClient) : (∀ c ∈ m.checks, c.Passes) ↔ m.WellFormed := by
  simp only [checks, List.forall_mem_cons, Check.passes_required, Check.passes_email,
    Check.passes_nested, List.forall_mem_map, CreatePhone.passes_iff, WellFormed]
  constructor
  · rintro ⟨first, last, email, address, phones, -⟩
    exact ⟨first, last, ⟨email.ne_empty, address.resolve_left email.ne_empty⟩, phones⟩
  · rintro ⟨first, last, ⟨-, address⟩, phones⟩
    exact ⟨first, last, address.hasText, .inr address, phones, by simp⟩

/-- A message passes its checks exactly if it is well formed. -/
theorem Message.violations_eq_nil (m : Message) : m.violations = [] ↔ m.WellFormed := by
  unfold violations
  rw [violations_eq_nil_iff]
  obtain ⟨c, m⟩ := m
  cases c with
  | createClient => exact CreateClient.passes_iff m
  | createPhone => exact CreatePhone.passes_iff m
  | updateClient =>
    simp [checks, UpdateClient.checks, Check.passes_requiredId, Check.passes_email, WellFormed]
  | updatePhone =>
    simp [checks, UpdatePhone.checks, Check.passes_requiredId, Check.passes_phoneNumber, WellFormed]
  | deleteClient => simp [checks, DeleteClient.checks, Check.passes_requiredId, WellFormed]
  | changeClientArchiveStatus =>
    simp [checks, ChangeClientArchiveStatus.checks, Check.passes_requiredId, WellFormed]
  | clientCreated | clientUpdated | clientDeleted | clientArchiveStatusChanged =>
    simp [checks, WellFormed]

/-! The fields that are reported. -/

/-- A field, unless something holds of it. -/
def lacking (p : Prop) [Decidable p] (field : String) : List String := if p then [] else [field]

/-- The fields of a phone that are reported: a number that is blank, one of the wrong shape though
not empty, and a type that is blank. -/
def CreatePhone.faults (m : CreatePhone) : List String :=
  lacking (HasText m.phoneNumber) "phone_number" ++
    lacking (m.phoneNumber = "" ∨ IsPhoneNumber m.phoneNumber.toList) "phone_number" ++
    lacking (HasText m.phoneType) "phone_type"

/-- The fields of a client that are reported, those of each phone under the phone's place. -/
def CreateClient.faults (m : CreateClient) : List String :=
  lacking (HasText m.firstName) "first_name" ++
    lacking (HasText m.lastName) "last_name" ++
    lacking (HasText m.email) "email" ++
    lacking (m.email = "" ∨ IsAddress m.email.toList) "email" ++
    m.phones.zipIdx.flatMap fun phone =>
      phone.1.faults.map ("phones[" ++ toString phone.2 ++ "]." ++ ·)

/-- The fields that leaves report under an outer path. -/
def reportedFields (outer : String) (leaves : List Leaf) : List String :=
  (reports outer leaves).map (·.field)

theorem reportedFields_append (outer : String) (ls ms : List Leaf) :
    reportedFields outer (ls ++ ms) = reportedFields outer ls ++ reportedFields outer ms := by
  unfold reportedFields
  rw [reports_append, List.map_append]

/-- Under an outer path the same fields are reported, behind the path. -/
theorem reportedFields_eq (outer : String) (ls : List Leaf) :
    reportedFields outer ls = (reportedFields "" ls).map (outer ++ ·) := by
  simp [reportedFields, reports, Leaf.violation]

/-- A check with a single leaf reports its field unless it passes. -/
theorem reportedFields_leaf {c : Check} {field message : String} {fails : Bool}
    (leaf : c.leaves = [⟨[], field, message, fails⟩]) {p : Prop} [Decidable p] (passes : c.Passes ↔ p) :
    reportedFields "" c.leaves = lacking p field := by
  have holds : p ↔ fails = false := by
    rw [← passes, Check.Passes, leaf, List.forall_mem_singleton]
  cases fails <;> simp [leaf, holds, lacking, reportedFields, reports, Leaf.violation, Leaf.path]

theorem CreatePhone.reportedFields_checks (m : CreatePhone) :
    reportedFields "" (Check.leavesOfAll m.checks) = m.faults := by
  simp only [checks, Check.leavesOfAll, reportedFields_append]
  rw [reportedFields_leaf rfl Check.passes_required, reportedFields_leaf rfl Check.passes_phoneNumber,
    reportedFields_leaf rfl Check.passes_required, ← List.append_assoc, ← List.append_assoc]
  exact List.append_nil _

theorem CreateClient.reportedFields_phones (phones : List CreatePhone) (index : Nat) :
    reportedFields "" (((Check.leavesOfEach (phones.map CreatePhone.checks)).zipIdx index).flatMap
        fun item => item.1.map (Leaf.within "phones" item.2))
      = (phones.zipIdx index).flatMap fun phone =>
          phone.1.faults.map ("phones[" ++ toString phone.2 ++ "]." ++ ·) := by
  induction phones generalizing index with
  | nil => rfl
  | cons phone phones ih =>
    have path : Violations.itemPath "" "phones" index = "phones[" ++ toString index ++ "]." := by
      unfold Violations.itemPath
      rw [String.empty_append]
      rfl
    rw [List.map_cons, Check.leavesOfEach, List.zipIdx_cons, List.flatMap_cons,
      reportedFields_append, ih, List.zipIdx_cons, List.flatMap_cons, reportedFields,
      reports_within, ← reportedFields, reportedFields_eq, path, CreatePhone.reportedFields_checks]

theorem CreateClient.reportedFields_checks (m : CreateClient) :
    reportedFields "" (Check.leavesOfAll m.checks) = m.faults := by
  simp only [checks, Check.leavesOfAll, reportedFields_append]
  rw [reportedFields_leaf rfl Check.passes_required, reportedFields_leaf rfl Check.passes_required,
    reportedFields_leaf rfl Check.passes_required, reportedFields_leaf rfl Check.passes_email,
    Check.leaves, reportedFields_phones, ← List.append_assoc, ← List.append_assoc,
    ← List.append_assoc, ← List.append_assoc]
  exact List.append_nil _

/-- Validation passes the well-formed messages and no others. Of a client it reports every field that
is at fault, in the order of the checks; and a message that passes does so under any identifier but
the nil one. -/
theorem Message.valid_iff_wellFormed :
    (∀ m : Message, m.violations = [] ↔ m.WellFormed) ∧
    (∀ c : CreateClient, (Message.violations ⟨.createClient, c⟩).map (·.field) = c.faults) ∧
    (∀ (m : Message) (id : Uuid), m.violations = [] → id ≠ .nil →
      (m.withId id).violations = []) := by
  refine ⟨violations_eq_nil, fun c => ?_, fun m id valid known => ?_⟩
  · show (Courier.violations c.checks).map (·.field) = _
    rw [violations_eq_reports]
    exact c.reportedFields_checks
  · rw [violations_eq_nil] at valid ⊢
    obtain ⟨c, m⟩ := m
    cases c with
    | createClient | createPhone => exact valid
    | updateClient | updatePhone => exact ⟨known, valid.2⟩
    | deleteClient | changeClientArchiveStatus => exact known
    | clientCreated | clientUpdated | clientDeleted | clientArchiveStatusChanged => trivial

/-- A client without an identifier, with one phone. -/
def luke : CreateClient :=
  ⟨.nil, "Luke", "Skywalker", "Luke.Skywalker@gmail.com", [⟨.nil, .nil, "+1 (555) 123-4567", "mobile"⟩]⟩

/-- What the three parts say of `luke`, of the same client with a blank address and a blank phone
behind the other one, and of `luke` under an identifier. -/
theorem Message.valid_iff_wellFormed_luke :
    luke.WellFormed ∧
    (Message.violations ⟨.createClient,
        { luke with email := " ", phones := luke.phones ++ [⟨.nil, .nil, " ", ""⟩] }⟩).map (·.field)
      = ["email", "email", "phones[1].phone_number", "phones[1].phone_number",
          "phones[1].phone_type"] ∧
    (Message.withId ⟨.createClient, luke⟩ ⟨List.replicate 16 7, rfl⟩).violations = [] := by
  have valid : Message.violations ⟨.createClient, luke⟩ = [] := by decide +kernel
  refine ⟨(valid_iff_wellFormed.1 _).1 valid, ?_, valid_iff_wellFormed.2.2 _ _ valid (by decide)⟩
  rw [valid_iff_wellFormed.2.1]
  decide +kernel

end Courier
