import Courier.Instant.Reader
import Courier.Json.Number
import Courier.Json.Skip

/-!
# Reading values

One reader for each kind of value a document holds. A value of another kind is refused with what
was found and what was expected; a text or number in front of it still has to be well formed.
-/

namespace Courier.Json
set_option autoImplicit false

/-- Refuses the value that comes next, for lack of `expected`. -/
def refuse {α : Type} (expected : String) : Reader α := do
  match ← peek with
  | none => throw .endInValue
  | some b =>
    if b = octet 'n' then
      advance; word afterN
      throw (.wrongType .null expected)
    else if b = octet 't' then
      advance; word afterT
      throw (.wrongType (.boolean true) expected)
    else if b = octet 'f' then
      advance; word afterF
      throw (.wrongType (.boolean false) expected)
    else if b = octet '-' ∨ isDigit b then
      let n ← number
      throw (.wrongType n.found expected)
    else if b = octet '"' then
      advance
      let s ← text
      throw (.wrongType (.text s) expected)
    else if b = octet '[' then throw (.wrongType .sequence expected)
    else if b = octet '\x7b' then throw (.wrongType .map expected)
    else throw .expectedValue

/-- A text in place of `expected`. -/
def textAs (expected : String) : Reader String := do
  match ← peek with
  | some b => if b = octet '"' then advance; text else refuse expected
  | none => throw .endInValue

/-- A text. -/
def readText : Reader String := textAs "a string"

/-- A truth value. -/
def readFlag : Reader Bool := do
  match ← peek with
  | none => throw .endInValue
  | some b =>
    if b = octet 't' then advance; word afterT; pure true
    else if b = octet 'f' then advance; word afterF; pure false
    else refuse "a boolean"

/-- A natural number below a bound, the type of the bound being called `expected`. -/
def readNat (bound : Nat) (expected : String) : Reader Nat := do
  match ← peek with
  | none => throw .endInValue
  | some b =>
    if b = octet '-' ∨ isDigit b then
      match ← number with
      | .integer value =>
        if 0 ≤ value ∧ value < bound then pure value.toNat
        else throw (.wrongValue (.integer value) expected)
      | n => throw (.wrongType n.found expected)
    else refuse expected

/-- An identifier. -/
def readUuid : Reader Uuid := do
  match Uuid.parse (← textAs "a formatted UUID string") with
  | .ok u => pure u
  | .error e => throw (.badUuid e)

/-- An instant. -/
def readInstant : Reader Instant := do
  match Instant.parse (← textAs "an RFC 3339 formatted date and time string") with
  | .ok t => pure t
  | .error e => throw (.badInstant e)

/-- A value or `null`. -/
def readOption {α : Type} (read : Reader α) : Reader (Option α) := do
  if (← peek) = some (octet 'n') then
    advance; word afterN
    pure none
  else return some (← read)

/-- A value kept as it is written. -/
def readRaw : Reader String := fun bs =>
  match raw bs with
  | .error e => .error e
  | .ok (value, rest) =>
    match Utf8.decode? value with
    | some s => .ok (s, rest)
    | none => .error .invalidUtf8

/-- Whether another element follows in a list whose bracket has been passed; `first` before the
first one. -/
def anotherElement (first : Bool) : Reader Bool := do
  match ← peek with
  | none => throw .endInList
  | some b =>
    if b = octet ']' then pure false
    else if first then pure true
    else if b = octet ',' then
      advance
      match ← peek with
      | none => throw .endInValue
      | some b => if b = octet ']' then throw .trailingComma else pure true
    else throw .expectedCommaOrBracket

/-- The end of a list. -/
def endOfList : Reader Unit := do
  match ← peek with
  | none => throw .endInList
  | some b =>
    if b = octet ']' then advance
    else if b = octet ',' then
      advance
      if (← peek) = some (octet ']') then throw .trailingComma else throw .trailingCharacters
    else throw .trailingCharacters

/-- The elements of a list up to its end. Every element takes an octet at least, so as many rounds
as octets are enough. -/
def elements {α : Type} (read : Reader α) : Nat → Bool → Reader (List α)
  | 0, _ => pure []
  | fuel + 1, first => do
    if ← anotherElement first then
      let x ← read
      let xs ← elements read fuel false
      pure (x :: xs)
    else pure []

/-- A list. -/
def readList {α : Type} (read : Reader α) : Reader (List α) := do
  match ← peek with
  | none => throw .endInValue
  | some b =>
    if b = octet '[' then
      advance
      let xs ← elements read ((← get).length + 1) true
      endOfList
      pure xs
    else refuse "a sequence"

/-- Whether another member follows in an object whose bracket has been passed; `first` before the
first one. -/
def anotherMember (first : Bool) : Reader Bool := do
  match ← peek with
  | none => throw .endInObject
  | some b =>
    if b = octet '\x7d' then pure false
    else if first then (if b = octet '"' then pure true else throw .keyNotText)
    else if b = octet ',' then
      advance
      match ← peek with
      | none => throw .endInValue
      | some b =>
        if b = octet '"' then pure true
        else if b = octet '\x7d' then throw .trailingComma
        else throw .keyNotText
    else throw .expectedCommaOrBrace

/-- The end of an object. -/
def endOfObject : Reader Unit := do
  match ← peek with
  | none => throw .endInObject
  | some b =>
    if b = octet '\x7d' then advance
    else if b = octet ',' then throw .trailingComma
    else throw .trailingCharacters

/-- The colon between a member's name and its value. -/
def colon : Reader Unit := do
  match ← peek with
  | none => throw .endInObject
  | some b => if b = octet ':' then advance else throw .expectedColon

/-- Passes over a value. -/
def skipValue : Reader Unit := fun bs =>
  match skip bs with
  | .ok rest => .ok ((), rest)
  | .error e => .error e

/-- A whole document: one value and nothing but white space after it. -/
def document {α : Type} (read : Reader α) (bs : Octets) : Except Error α := do
  let (x, rest) ← read bs
  if rest.all isSpace then .ok x else .error .trailingCharacters

end Courier.Json
