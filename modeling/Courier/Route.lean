import Courier.Settings

/-!
# Routes

Where messages of a type go: an exchange and a routing key, which is the simple name of the type.
-/

namespace Courier
set_option autoImplicit false

/-- An exchange and the key messages are routed by. -/
structure Route where
  exchange : String
  routingKey : String
  deriving DecidableEq

/-- The characters after the last pair of colons, all of them if there is none. The pair is the
last one also where three colons or more stand in a row. -/
def afterLastSeparator : List Char → List Char
  | [] => []
  | c :: cs =>
    let tail := afterLastSeparator cs
    if tail.length < cs.length then tail
    else
      match c, cs with
      | ':', ':' :: rest => rest
      | _, _ => c :: cs

/-- The simple name of a type: what follows the last `::`. -/
def simpleName (name : String) : String := String.ofList (afterLastSeparator name.toList)

/-- The route of a type on an exchange. -/
def Route.of (exchange messageType : String) : Route := ⟨exchange, simpleName messageType⟩

end Courier
