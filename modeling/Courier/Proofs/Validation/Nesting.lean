import Courier.Validation

/-!
# Reports follow the nesting

Checks form a tree whose inner nodes are the nested lists. `Check.leavesOfAll` lists its leaves from
left to right, each with its way through the lists. Running the checks reports the leaves that fail,
in that order and under that way, and leaves the path as it was (`Violations.runAll_eq`): the path
that the run overwrites for every item is the one thing that its induction carries along.
-/

namespace Courier
set_option autoImplicit false

/-- A check on a single value: the way to it through nested lists, where and what it reports, and
whether it fails. -/
structure Leaf where
  way : List (String × Nat)
  field : String
  message : String
  fails : Bool

namespace Leaf

/-- The leaf of an item, seen from outside the list. -/
def within (field : String) (index : Nat) (l : Leaf) : Leaf :=
  { l with way := (field, index) :: l.way }

/-- A list on the way and the index of the item taken there. -/
def turn (t : String × Nat) : String := t.1 ++ "[" ++ toString t.2 ++ "]."

/-- The path of a leaf, such as `f1[i1].f2[i2].field`. -/
def path (l : Leaf) : String := String.join (l.way.map turn) ++ l.field

/-- What a leaf reports under an outer path. -/
def violation (outer : String) (l : Leaf) : Violation := ⟨outer ++ l.path, l.message⟩

end Leaf

namespace Check

mutual

/-- The leaves of a check. -/
def leaves : Check → List Leaf
  | .report field message => [⟨[], field, message, true⟩]
  | .required field value message => [⟨[], field, message, Text.allBlank value⟩]
  | .requiredId field value message => [⟨[], field, message, value.isNil⟩]
  | .email field value message => [⟨[], field, message, !value.isEmpty && !isEmail value⟩]
  | .template field value shape message =>
    [⟨[], field, message, !value.isEmpty && !followsTemplate shape.toList value.toList⟩]
  | .nested field items =>
    (leavesOfEach items).zipIdx.flatMap fun item => item.1.map (Leaf.within field item.2)

/-- The leaves of checks, from left to right. -/
def leavesOfAll : List Check → List Leaf
  | [] => []
  | c :: cs => leaves c ++ leavesOfAll cs

/-- The leaves of every item of a list. -/
def leavesOfEach : List (List Check) → List (List Leaf)
  | [] => []
  | item :: items => leavesOfAll item :: leavesOfEach items

end

theorem leavesOfAll_append (cs ds : List Check) :
    leavesOfAll (cs ++ ds) = leavesOfAll cs ++ leavesOfAll ds := by
  induction cs with
  | nil => rfl
  | cons c cs ih => rw [List.cons_append, leavesOfAll, leavesOfAll, ih, List.append_assoc]

/-- The leaves that fail. -/
def failures (checks : List Check) : List Leaf := (leavesOfAll checks).filter (·.fails)

end Check

/-- What leaves report under an outer path: those that fail, one violation each. -/
def reports (outer : String) (leaves : List Leaf) : List Violation :=
  (leaves.filter (·.fails)).map (Leaf.violation outer)

theorem reports_append (outer : String) (ls ms : List Leaf) :
    reports outer (ls ++ ms) = reports outer ls ++ reports outer ms := by
  unfold reports
  rw [List.filter_append, List.map_append]

/-- An item's leaves report under the item's path what they report from outside its list. -/
theorem reports_within (outer field : String) (index : Nat) (ls : List Leaf) :
    reports outer (ls.map (Leaf.within field index))
      = reports (Violations.itemPath outer field index) ls := by
  unfold reports
  rw [List.filter_map, List.map_map]
  apply List.map_congr_left
  intro l _
  have path : outer ++ (l.within field index).path
      = Violations.itemPath outer field index ++ l.path := by
    simp only [Leaf.path, Leaf.within, Leaf.turn, Violations.itemPath, List.map_cons,
      String.join_cons, String.append_assoc]
  rw [Function.comp_apply, Leaf.violation, path]
  rfl

namespace Violations

theorem pushUnless_eq (v : Violations) (condition : Bool) (field message : String) :
    v.pushUnless condition field message
      = ⟨v.items ++ reports v.path [⟨[], field, message, !condition⟩], v.path⟩ := by
  cases condition with
  | true => simp [pushUnless, reports]
  | false => simp [pushUnless, push, reports, Leaf.violation, Leaf.path]

mutual

/-- A check adds what its leaves report, and leaves the path as it was. -/
theorem run_eq (v : Violations) (c : Check) :
    v.run c = ⟨v.items ++ reports v.path c.leaves, v.path⟩ := by
  cases c with
  | report field message =>
    have pushed := pushUnless_eq v false field message
    rwa [Bool.not_false] at pushed
  | required field value message =>
    rw [run, pushUnless_eq, Bool.not_not, Check.leaves]
  | requiredId field value message =>
    rw [run, pushUnless_eq, Bool.not_not, Check.leaves]
  | email field value message =>
    rw [run, pushUnless_eq, Bool.not_or, Check.leaves]
  | template field value template message =>
    rw [run, pushUnless_eq, Bool.not_or, Check.leaves]
  | nested field items =>
    rw [run, items_runItems_eq v v.path field 0 items, Check.leaves]

theorem runAll_eq (v : Violations) (cs : List Check) :
    v.runAll cs = ⟨v.items ++ reports v.path (Check.leavesOfAll cs), v.path⟩ := by
  cases cs with
  | nil => simp [runAll, Check.leavesOfAll, reports]
  | cons c cs =>
    rw [runAll, run_eq v c, runAll_eq _ cs, Check.leavesOfAll, reports_append, List.append_assoc]

/-- The items of a list report under their own paths, whatever path was there before. -/
theorem items_runItems_eq (v : Violations) (outer field : String) (index : Nat)
    (items : List (List Check)) :
    (v.runItems outer field index items).items = v.items ++ reports outer
      (((Check.leavesOfEach items).zipIdx index).flatMap fun item =>
        item.1.map (Leaf.within field item.2)) := by
  cases items with
  | nil => simp [runItems, Check.leavesOfEach, reports]
  | cons item items =>
    rw [runItems, runAll_eq _ item, items_runItems_eq _ outer field (index + 1) items,
      Check.leavesOfEach, List.zipIdx_cons, List.flatMap_cons, reports_append, reports_within,
      List.append_assoc]

end

/-- What later checks add does not depend on the checks before them. -/
theorem items_runAll_append (v : Violations) (cs later : List Check) :
    (v.runAll (cs ++ later)).items
      = (v.runAll cs).items ++ reports v.path (Check.leavesOfAll later) := by
  rw [runAll_eq, runAll_eq, Check.leavesOfAll_append, reports_append, List.append_assoc]

/-- Reports follow the nesting of the checks. Every leaf that fails is reported once, from left to
right, under the path that its lists and items spell, behind what was reported before; the path is
left as it was. So the checks behind a nested list report what they would report without it, there
are never fewer reports than before, and there is none exactly if there was none and no leaf fails. -/
theorem reports_follow_nesting (v : Violations) (checks : List Check) :
    (v.runAll checks).items
        = v.items ++ (Check.failures checks).map (fun l => ⟨v.path ++ l.path, l.message⟩) ∧
    (v.runAll checks).path = v.path ∧
    (∀ (field : String) (items : List (List Check)) (later : List Check), ∃ own behind,
      (v.runAll (checks ++ later)).items = (v.runAll checks).items ++ behind ∧
      (v.runAll (checks ++ .nested field items :: later)).items
        = (v.runAll checks).items ++ own ++ behind ∧
      (v.runAll (checks ++ [.nested field items])).items = (v.runAll checks).items ++ own) ∧
    v.size ≤ (v.runAll checks).size ∧
    ((v.runAll checks).isEmpty = true
      ↔ v.isEmpty = true ∧ ∀ l ∈ Check.leavesOfAll checks, l.fails = false) := by
  refine ⟨?items, ?path, ?behind, ?size, ?empty⟩
  case items =>
    rw [runAll_eq]
    rfl
  case path => rw [runAll_eq]
  case behind =>
    intro field items later
    refine ⟨reports v.path (Check.nested field items).leaves,
      reports v.path (Check.leavesOfAll later), items_runAll_append v checks later, ?_, ?_⟩
    · rw [items_runAll_append, Check.leavesOfAll, reports_append, List.append_assoc]
    · rw [items_runAll_append, Check.leavesOfAll, Check.leavesOfAll, List.append_nil]
  case size =>
    rw [runAll_eq, size, size, List.length_append]
    exact Nat.le_add_right _ _
  case empty =>
    rw [runAll_eq]
    simp [isEmpty, reports]

end Violations

end Courier
