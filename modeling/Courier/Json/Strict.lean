import Courier.Json.Reader

/-!
# Documents of any shape

A document that is read whole, whatever it holds: strings are decoded, numbers have to be in
range, and brackets nest up to a limit. Where a name is reserved for it, an object that opens with
that name stands for a document of its own, which the member holds as a text.
-/

namespace Courier.Json
set_option autoImplicit false

/-- How many brackets may be open at once. -/
def depthLimit : Nat := 127

/-- How an object holds a document: the reserved name of its first member, and the reading of the
text there. -/
structure Embedding where
  name : String
  read : String → Except Error Unit

/-- The members of an object up to its end, each value read the same way. An embedded document is
the last thing looked at. -/
def anyMembers (embedding : Embedding) (value : Reader Unit) : Nat → Bool → Reader Unit
  | 0, _ => pure ()
  | fuel + 1, first => do
    if ← anotherMember first then
      advance
      let name ← text
      colon
      if first && name == embedding.name then
        embedding.read (← textAs "raw value")
      else
        value
        anyMembers embedding value fuel false
    else pure ()

/-- Reads a value whose elements and members are read by `inner`; none if no bracket may be
opened. -/
def anyValueOver (embedding : Embedding) (inner : Option (Reader Unit)) : Reader Unit := do
  match ← peek with
  | none => throw .endInValue
  | some b =>
    if b = octet 'n' then advance; word afterN
    else if b = octet 't' then advance; word afterT
    else if b = octet 'f' then advance; word afterF
    else if b = octet '-' ∨ isDigit b then
      let _ ← number
    else if b = octet '"' then
      advance
      let _ ← text
    else if b = octet '[' then
      match inner with
      | none => throw .tooDeep
      | some inner =>
        advance
        let _ ← elements inner ((← get).length + 1) true
        endOfList
    else if b = octet '\x7b' then
      match inner with
      | none => throw .tooDeep
      | some inner =>
        advance
        anyMembers embedding inner ((← get).length + 1) true
        endOfObject
    else throw .expectedValue

/-- Reads a value with the given number of brackets still to open. -/
def anyValue (embedding : Embedding) : Nat → Reader Unit
  | 0 => anyValueOver embedding none
  | depth + 1 => anyValueOver embedding (some (anyValue embedding depth))

/-- Checks a document in which others are embedded up to a number of levels. Each has its own limit
of brackets, and what is wrong with it is told without the class it would have on its own. -/
def checkWithin (reserved : String) : Nat → Octets → Except Error Unit
  | 0, _ => .ok ()
  | levels + 1, bs =>
    let embedded (s : String) := (checkWithin reserved levels (Utf8.encode s)).mapError .embedded
    document (anyValue ⟨reserved, embedded⟩ depthLimit) bs

/-- Checks a document of any shape. An embedded document is shorter than the one that holds it, so
there are fewer levels than octets. -/
def check (reserved : String) (bs : Octets) : Except Error Unit :=
  checkWithin reserved (bs.length + 1) bs

end Courier.Json
