import Courier.Json.Spelling

/-!
# Objects as they stand

An object is told from its octets by its members, each with the text its name says and the octets of
its value. Members may change places, white space may come and go, names may be spelled otherwise,
and members of unknown names may come and go: that are the edits which leave what an object tells a
reader who knows some names only.
-/

namespace Courier.Json
set_option autoImplicit false

/-- Parts with a comma between each two. -/
def listing : List Octets → Octets
  | [] => []
  | part :: parts => part ++ following parts

/-- A member of an object, with the text its name says. -/
structure Entry where
  name : String
  member : Member

namespace Entry

/-- The octets of the value of a member. -/
def value (e : Entry) : Octets := e.member.element.value

/-- What a member tells: its name, and its value as it is written. -/
def told (e : Entry) : String × Octets := (e.name, e.value)

/-- A member of white space, a string that says its name, and a value. -/
structure WellFormed (e : Entry) : Prop where
  padded : e.member.Padded
  quotes : Quotes e.member.name e.name
  isValue : IsValue e.value

end Entry

/-- An object, with the white space around it and after its opening brace. -/
structure Object where
  before : Octets
  gap : Octets
  entries : List Entry
  after : Octets

namespace Object

/-- The octets of an object. -/
def octets (o : Object) : Octets :=
  o.before ++ octet '\x7b' ::
    (o.gap ++ (listing (o.entries.map (·.member.octets)) ++ octet '\x7d' :: o.after))

/-- What the members of an object tell. -/
def told (o : Object) : List (String × Octets) := o.entries.map Entry.told

/-- An object of white space and members. -/
structure WellFormed (o : Object) : Prop where
  before : IsBlank o.before
  gap : IsBlank o.gap
  entries : ∀ e ∈ o.entries, e.WellFormed
  after : IsBlank o.after

/-- The edits of an object that tell nothing new to a reader who knows some names only. -/
inductive Edit (known : List String) (o : Object) : Object → Prop where
  /-- The members in another order. -/
  | permuted {entries : List Entry} (order : o.entries.Perm entries) :
    Edit known o { o with entries }
  /-- Other white space, and other spellings of the same names. -/
  | rewritten {o' : Object} (same : o'.told = o.told) : Edit known o o'
  /-- A further member of an unknown name, at any place and with any value. -/
  | inserted {front back : List Entry} {e : Entry} (place : o.entries = front ++ back)
    (unknown : e.name ∉ known) : Edit known o { o with entries := front ++ e :: back }
  /-- A member of an unknown name less. -/
  | removed {front back : List Entry} {e : Entry} (place : o.entries = front ++ e :: back)
    (unknown : e.name ∉ known) : Edit known o { o with entries := front ++ back }

/-- One edit after the other, each of which leaves a well-formed object. -/
inductive Recast (known : List String) (o : Object) : Object → Prop where
  | refl : Recast known o o
  | edited {o' o'' : Object} (recast : Recast known o o') (edit : o'.Edit known o'')
    (wellFormed : o''.WellFormed) : Recast known o o''

end Object

end Courier.Json
