import Courier.Json.Reader
import Courier.Json.Writer

/-!
# Records

A record is a fixed list of named members, each with a way to read and to write its value. It is
read from an object, whose members may come in any order among unknown ones, or from a list of
the values in the order of declaration; it is written as an object in that order.
-/

namespace Courier.Json
set_option autoImplicit false

/-- How values of a type are read and written. -/
structure Codec (α : Type) where
  read : Reader α
  write : α → String

namespace Codec

/-- Texts. -/
def text : Codec String := ⟨readText, writeText⟩

/-- Truth values. -/
def flag : Codec Bool := ⟨readFlag, writeFlag⟩

/-- Identifiers. -/
def uuid : Codec Uuid := ⟨readUuid, fun u => writeText u.text⟩

/-- Instants. -/
def instant : Codec Instant := ⟨readInstant, fun t => writeText t.text⟩

/-- Values kept as they are written. -/
def raw : Codec String := ⟨readRaw, id⟩

/-- Naturals below a bound that goes by a name. -/
def nat (bound : Nat) (name : String) : Codec Nat := ⟨readNat bound name, toString⟩

/-- Lists. -/
def list {α : Type} (c : Codec α) : Codec (List α) :=
  ⟨readList c.read, fun xs => writeList (xs.map c.write)⟩

end Codec

/-- A member of a record: its name, its values, and the value it has where it is missing. -/
structure Field where
  name : String
  Value : Type
  codec : Codec Value
  absent : Option Value

/-- A member that has to be there. -/
def Field.required {α : Type} (name : String) (codec : Codec α) : Field := ⟨name, α, codec, none⟩

/-- A member that may be missing. -/
def Field.optional {α : Type} (name : String) (codec : Codec α) (absent : α) : Field :=
  ⟨name, α, codec, some absent⟩

/-- The values of all members. -/
def Record : List Field → Type
  | [] => Unit
  | f :: fs => f.Value × Record fs

/-- The values of the members read so far. -/
def Slots : List Field → Type
  | [] => Unit
  | f :: fs => Option f.Value × Slots fs

/-- No member read yet. -/
def Slots.empty : (fs : List Field) → Slots fs
  | [] => ()
  | _ :: fs => (none, Slots.empty fs)

/-- Reads the value of the member of a name, after its colon; none if no member has the name. -/
def Slots.readNamed : (fs : List Field) → Slots fs → String → Option (Reader (Slots fs))
  | [], _, _ => none
  | f :: fs, (value, rest), name =>
    if f.name = name then
      some (match value with
        | some _ => throw (.repeatedField f.name)
        | none => do
          colon
          let value ← f.codec.read
          pure (some value, rest))
    else (Slots.readNamed fs rest name).map fun read => do return (value, ← read)

/-- The record, once every member that has to be there has been read. -/
def Slots.complete : (fs : List Field) → Slots fs → Except Error (Record fs)
  | [], _ => .ok ()
  | f :: fs, (value, rest) => do
    let value ← match value, f.absent with
      | some value, _ => .ok value
      | none, some value => .ok value
      | none, none => .error (.missingField f.name)
    return (value, ← Slots.complete fs rest)

/-- The members of an object up to its end. Every member takes an octet at least, so as many
rounds as octets are enough. -/
def members (fs : List Field) : Nat → Bool → Slots fs → Reader (Slots fs)
  | 0, _, slots => pure slots
  | fuel + 1, first, slots => do
    if ← anotherMember first then
      advance
      let name ← text
      match slots.readNamed fs name with
      | some read => members fs fuel false (← read)
      | none =>
        colon
        skipValue
        members fs fuel false slots
    else pure slots

/-- A record's name and its members. -/
structure Schema where
  name : String
  fields : List Field

namespace Schema

/-- What a document without the record lacks. -/
def expected (s : Schema) : String := "struct " ++ s.name

/-- What a list with too few values lacks. -/
def expectedElements (s : Schema) : String :=
  let n := s.fields.length
  let noun := if n = 1 then "element" else "elements"
  s!"struct {s.name} with {n} {noun}"

/-- The values of the members of a list, from the one at `index` on. -/
def readElements (s : Schema) : (fs : List Field) → Nat → Bool → Reader (Record fs)
  | [], _, _ => pure ()
  | f :: fs, index, first => do
    if ← anotherElement first then
      let value ← f.codec.read
      let rest ← readElements s fs (index + 1) false
      pure (value, rest)
    else
      match f.absent with
      | some value =>
        let rest ← readElements s fs (index + 1) first
        pure (value, rest)
      | none => throw (.tooFewElements index s.expectedElements)

/-- Reads a record. -/
def read (s : Schema) : Reader (Record s.fields) := do
  match ← peek with
  | none => throw .endInValue
  | some b =>
    if b = octet '\x7b' then
      advance
      let slots ← members s.fields ((← get).length + 1) true (Slots.empty s.fields)
      let record ← slots.complete s.fields
      endOfObject
      pure record
    else if b = octet '[' then
      advance
      let record ← s.readElements s.fields 0 true
      endOfList
      pure record
    else refuse s.expected

end Schema

/-- The names of members with their values written. -/
def writeMembers : (fs : List Field) → Record fs → List (String × String)
  | [], _ => []
  | f :: fs, (value, rest) => (f.name, f.codec.write value) :: writeMembers fs rest

/-- Writes a record. -/
def Schema.write (s : Schema) (r : Record s.fields) : String :=
  writeObject (writeMembers s.fields r)

/-- A record under the names of a structure: the two ways between them. -/
structure Shape (α : Type) where
  schema : Schema
  toRecord : α → Record schema.fields
  ofRecord : Record schema.fields → α

/-- How a structure is read and written. -/
def Shape.codec {α : Type} (s : Shape α) : Codec α :=
  ⟨do return s.ofRecord (← s.schema.read), fun x => s.schema.write (s.toRecord x)⟩

end Courier.Json
