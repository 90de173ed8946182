import Courier.Text.Utf8

/-!
# Values of header tables

The typed values that travel in the headers of a message, and tables of them by name.
-/

namespace Courier.Amqp
set_option autoImplicit false

/-- A value of a header table. Integers stay in the range of their type. -/
inductive Value where
  | boolean (value : Bool)
  | shortShortInt (value : Int)
  | shortShortUInt (value : Nat)
  | shortInt (value : Int)
  | shortUInt (value : Nat)
  | longInt (value : Int)
  | longUInt (value : Nat)
  | longLongInt (value : Int)
  | timestamp (value : Nat)
  | float (bits : UInt32)
  | double (bits : UInt64)
  | decimal (scale : Nat) (value : Nat)
  | shortString (value : String)
  | longString (value : Octets)
  | byteArray (value : Octets)
  | fieldArray (values : List Value)
  | fieldTable (members : List (String × Value))
  | void
  deriving Inhabited

/-- Values by name; no name occurs twice. -/
abbrev Table := List (String × Value)

namespace Table

/-- The value of a name. -/
def get? (t : Table) (name : String) : Option Value :=
  match t with
  | [] => none
  | (key, value) :: rest => if key = name then some value else get? rest name

/-- The table with a name's value set. -/
def insert (t : Table) (name : String) (value : Value) : Table :=
  match t with
  | [] => [(name, value)]
  | (key, old) :: rest =>
    if key = name then (key, value) :: rest else (key, old) :: insert rest name value

/-- The names of a table. -/
def names (t : Table) : List String := t.map (·.1)

@[simp] theorem get?_insert_self (t : Table) (name : String) (value : Value) :
    (insert t name value).get? name = some value := by
  induction t with
  | nil => simp [insert, get?]
  | cons m t ih =>
    obtain ⟨key, old⟩ := m
    by_cases h : key = name <;> simp [insert, get?, h, ih]

theorem get?_insert_of_ne {t : Table} {name other : String} (value : Value) (h : name ≠ other) :
    (insert t name value).get? other = t.get? other := by
  induction t with
  | nil => simp [insert, get?, h]
  | cons m t ih =>
    obtain ⟨key, old⟩ := m
    by_cases hk : key = name
    · subst hk; simp [insert, get?, h]
    · by_cases ho : key = other
      · subst ho; simp [insert, get?, hk]
      · simp [insert, get?, hk, ho, ih]

end Table

namespace Value

/-- The name of a value's type. -/
def typeName : Value → String
  | boolean _ => "Boolean"
  | shortShortInt _ => "ShortShortInt"
  | shortShortUInt _ => "ShortShortUInt"
  | shortInt _ => "ShortInt"
  | shortUInt _ => "ShortUInt"
  | longInt _ => "LongInt"
  | longUInt _ => "LongUInt"
  | longLongInt _ => "LongLongInt"
  | timestamp _ => "Timestamp"
  | float _ => "Float"
  | double _ => "Double"
  | decimal _ _ => "Decimal"
  | shortString _ => "ShortString"
  | longString _ => "LongString"
  | byteArray _ => "ByteArray"
  | fieldArray _ => "FieldArray"
  | fieldTable _ => "FieldTable"
  | void => "Void"

/-- A text as a long string. -/
def ofText (s : String) : Value := longString (Utf8.encode s)

/-- The value of a signed integer of 64 bits or of any shorter integer. -/
def asInteger? : Value → Option Int
  | shortShortInt value | shortInt value | longInt value | longLongInt value => some value
  | shortShortUInt value | shortUInt value | longUInt value => some value
  | _ => none

/-- The members of a table. -/
def asTable? : Value → Option Table
  | fieldTable members => some members
  | _ => none

/-- The elements of an array. -/
def asArray? : Value → Option (List Value)
  | fieldArray values => some values
  | _ => none

/-- The octets of a long string. -/
def asLongString? : Value → Option Octets
  | longString value => some value
  | _ => none

end Value

end Courier.Amqp
