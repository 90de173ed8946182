import Courier.Envelope
import Courier.Log

/-!
# The registry of message types

Which types a consumer knows, by the name they go by. Of several registrations of one name the
first one counts.
-/

namespace Courier
set_option autoImplicit false

/-- A known type: its name, its kind, the handler it needs, and how its payload is read. -/
structure Registration where
  name : String
  kind : MessageKind
  handlerContract : String
  decode : Octets → Except Json.Error Message

namespace Registration

/-- The registration of a contract. -/
def of (c : Contract) : Registration where
  name := c.name
  kind := c.kind
  handlerContract := "MessageHandler<" ++ c.name ++ ">"
  decode := c.decode

/-- The message that a payload holds. -/
def message (r : Registration) (payload : String) : Except MessagingError Message :=
  match r.decode (Utf8.encode payload) with
  | .ok m => .ok m
  | .error cause => .error (.serialization r.name cause)

end Registration

/-- Registrations by name. -/
structure Registry where
  entries : List Registration

namespace Registry

/-- The registration of a name. -/
def resolve (r : Registry) (name : String) : Option Registration :=
  r.entries.find? fun e => e.name = name

/-- The registry with one more registration, or an event where its name is taken. -/
def add (r : Registry) (e : Registration) : Registry × List Log.Event :=
  if (r.resolve e.name).isSome then (r, [.repeatedRegistration e.name])
  else (⟨r.entries ++ [e]⟩, [])

/-- The registry of a list of registrations, with the events of making it. -/
def ofList (es : List Registration) : Registry × List Log.Event :=
  es.foldl (fun (r, events) e =>
    let (r, more) := r.add e
    (r, events ++ more)) (⟨[]⟩, [])

/-- The registry of every contract. -/
def discover : Registry := (ofList (Contract.all.map .of)).1

/-- The name of the handler that messages of a name need. -/
def handlerContract (r : Registry) (name : String) : Option String :=
  (r.resolve name).map (·.handlerContract)

/-- Registrations in the order of their names. -/
def sorted (es : List Registration) : List Registration :=
  es.mergeSort fun a b => decide (a.name ≤ b.name)

/-- The registrations of a kind, in the order of their names. -/
def ofKind (r : Registry) (kind : MessageKind) : List Registration :=
  sorted (r.entries.filter fun e => e.kind = kind)

/-- The names, in order. -/
def names (r : Registry) : List String := (sorted r.entries).map (·.name)

/-- The number of names. -/
def size (r : Registry) : Nat := r.entries.length

/-- Whether there is no name. -/
def isEmpty (r : Registry) : Bool := r.entries.isEmpty

end Registry

end Courier
