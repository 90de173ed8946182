import Courier.Text.Blank
import Courier.Uuid

/-!
# Validation

The checks a message declares, as data, and what running them reports: one violation for every
check that fails, under the path of the value it looks at. Nothing stops at the first failure.
-/

namespace Courier
set_option autoImplicit false

/-- One failed check. -/
structure Violation where
  field : String
  message : String
  deriving DecidableEq

/-- Whether two dots stand side by side. -/
def hasDoubleDot : List Char → Bool
  | c :: d :: cs => (c == '.' && d == '.') || hasDoubleDot (d :: cs)
  | _ => false

/-- Whether characters are the domain of an email address: they have a dot, but none at either end
and no two side by side. -/
def isDomain (cs : List Char) : Bool :=
  cs.contains '.' && cs.head? != some '.' && cs.getLast? != some '.' && !hasDoubleDot cs

/-- Whether a text is an email address: one `@` between a mailbox and a domain, and no white space
anywhere. -/
def isEmail (value : String) : Bool :=
  let cs := value.toList
  !cs.any Text.isBlank &&
    match cs.splitOn '@' with
    | [mailbox, domain] => !mailbox.isEmpty && isDomain domain
    | _ => false

/-- Whether a character fills a place of a template: `#` takes an ASCII digit, any other character
itself. -/
def fillsPlace (template c : Char) : Bool :=
  if template = '#' then c.isDigit else decide (c = template)

/-- Whether a text follows a template, character by character. -/
def followsTemplate : List Char → List Char → Bool
  | [], [] => true
  | t :: ts, c :: cs => fillsPlace t c && followsTemplate ts cs
  | _, _ => false

/-- A check on a message. -/
inductive Check where
  /-- Always fails. -/
  | report (field message : String)
  /-- The text holds more than white space. -/
  | required (field value message : String)
  /-- The identifier is not the nil one. -/
  | requiredId (field : String) (value : Uuid) (message : String)
  /-- The text is empty or an email address. -/
  | email (field value message : String)
  /-- The text is empty or follows the template. -/
  | template (field value template message : String)
  /-- The checks of every item of a list. -/
  | nested (field : String) (items : List (List Check))
  deriving Inhabited

/-- What checks have reported, and the path that fields are reported under. -/
structure Violations where
  items : List Violation
  path : String
  deriving DecidableEq

namespace Violations

/-- Nothing reported. -/
def empty : Violations := ⟨[], ""⟩

/-- Reports a field under the current path. -/
def push (v : Violations) (field message : String) : Violations :=
  { v with items := v.items ++ [⟨v.path ++ field, message⟩] }

/-- Reports a field unless a condition holds. -/
def pushUnless (v : Violations) (condition : Bool) (field message : String) : Violations :=
  if condition then v else v.push field message

/-- The path of an item of a list. -/
def itemPath (outer field : String) (index : Nat) : String :=
  outer ++ field ++ "[" ++ toString index ++ "]."

mutual

/-- Runs one check. -/
def run (v : Violations) : Check → Violations
  | .report field message => v.push field message
  | .required field value message => v.pushUnless (!Text.allBlank value) field message
  | .requiredId field value message => v.pushUnless (!value.isNil) field message
  | .email field value message => v.pushUnless (value.isEmpty || isEmail value) field message
  | .template field value template message =>
    v.pushUnless (value.isEmpty || followsTemplate template.toList value.toList) field message
  | .nested field items => { runItems v v.path field 0 items with path := v.path }

/-- Runs checks in order. -/
def runAll (v : Violations) : List Check → Violations
  | [] => v
  | c :: cs => runAll (run v c) cs

/-- Runs the checks of items, the first of them at `index`, each under the item's path. -/
def runItems (v : Violations) (outer field : String) (index : Nat) : List (List Check) → Violations
  | [] => v
  | item :: items =>
    let v := runAll { v with path := itemPath outer field index } item
    runItems v outer field (index + 1) items

end

/-- The reported fields. -/
def fields (v : Violations) : List String := v.items.map (·.field)

/-- The number of reports. -/
def size (v : Violations) : Nat := v.items.length

/-- Whether nothing is reported. -/
def isEmpty (v : Violations) : Bool := v.items.isEmpty

end Violations

/-- The messages of violations in one line. -/
def Violation.summary (items : List Violation) : String :=
  ", ".intercalate (items.map (·.message))

/-- What a list of checks reports. -/
def violations (checks : List Check) : List Violation := (Violations.empty.runAll checks).items

end Courier
