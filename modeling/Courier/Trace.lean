import Courier.Amqp.Properties
import Courier.Text.Lowercase

/-!
# Trace headers

How the context of a trace travels among the headers of a message: a propagator sets pairs of
texts when a message leaves and asks for them when it arrives. Keys are stored in small letters.
-/

namespace Courier.Trace
set_option autoImplicit false
open Amqp

/-- The headers with a pair set. -/
def inject (headers : Table) (key value : String) : Table :=
  headers.insert (Text.toLower key) (.ofText value)

/-- The headers with pairs set in order. -/
def injectAll (headers : Table) (pairs : List (String × String)) : Table :=
  pairs.foldl (fun headers pair => inject headers pair.1 pair.2) headers

/-- The text under a key, if it is one. -/
def extract (headers : Table) (key : String) : Option String :=
  (headers.get? key).bind fun value => value.asLongString?.bind Utf8.decode?

/-- The keys that can be asked for, in no order that counts. -/
def keys (headers : Table) : List String := headers.names

end Courier.Trace
