import Courier.Contract.Checks

/-!
# Checks only add

What was reported stays reported, whatever is checked after it (`Violations.items_run`). So a
message that passes its checks without an identifier is one whose checks do not ask for it, and it
passes them under any identifier (`Message.violations_withId`).
-/

namespace Courier
set_option autoImplicit false

namespace Violations

theorem items_pushUnless (v : Violations) (condition : Bool) (field message : String) :
    v.items <+: (v.pushUnless condition field message).items := by
  unfold pushUnless
  split
  · exact List.prefix_rfl
  · exact List.prefix_append _ _

mutual

/-- A check keeps what was reported before it. -/
theorem items_run (v : Violations) (c : Check) : v.items <+: (v.run c).items := by
  cases c with
  | report field message => exact List.prefix_append _ _
  | required field value message => exact items_pushUnless v _ field message
  | requiredId field value message => exact items_pushUnless v _ field message
  | email field value message => exact items_pushUnless v _ field message
  | template field value template message => exact items_pushUnless v _ field message
  | nested field items => exact items_runItems v v.path field 0 items

theorem items_runAll (v : Violations) (cs : List Check) : v.items <+: (v.runAll cs).items := by
  cases cs with
  | nil => exact List.prefix_rfl
  | cons c cs => exact (items_run v c).trans (items_runAll (v.run c) cs)

theorem items_runItems (v : Violations) (outer field : String) (index : Nat)
    (items : List (List Check)) : v.items <+: (v.runItems outer field index items).items := by
  cases items with
  | nil => exact List.prefix_rfl
  | cons item items =>
    have first := items_runAll { v with path := itemPath outer field index } item
    exact first.trans (items_runItems _ outer field (index + 1) items)

end

end Violations

/-- A nil identifier where one is required is reported. -/
theorem violations_requiredId {field message : String} {value : Uuid} (unknown : value.isNil = true)
    (checks : List Check) : violations (.requiredId field value message :: checks) ≠ [] := by
  intro none
  have reported : Violations.empty.run (.requiredId field value message)
      = Violations.empty.push field message := by
    unfold Violations.run Violations.pushUnless
    rw [unknown]
    rfl
  have kept :=
    Violations.items_runAll (Violations.empty.run (.requiredId field value message)) checks
  rw [reported] at kept
  unfold violations Violations.runAll at none
  rw [reported] at none
  rw [none] at kept
  exact absurd (List.prefix_nil.1 kept) (List.cons_ne_nil _ _)

/-- A message that is valid without an identifier stays valid when it is given one: its checks do
not look at the identifier. -/
theorem Message.violations_withId {m : Message} (valid : m.violations = [])
    (unknown : m.id.isNil = true) (id : Uuid) : (m.withId id).violations = [] := by
  obtain ⟨c, body⟩ := m
  cases c with
  | updateClient | deleteClient | changeClientArchiveStatus | updatePhone =>
    exact absurd valid (violations_requiredId unknown _)
  | createClient | createPhone | clientCreated | clientUpdated | clientDeleted
  | clientArchiveStatusChanged => exact valid

end Courier
