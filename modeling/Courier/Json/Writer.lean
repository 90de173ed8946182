import Courier.Text.Hex

/-!
# Writing documents

Compact text: no white space, strings with the two marks and the controls escaped and everything
else as it is.
-/

namespace Courier.Json
set_option autoImplicit false

/-- One character of a string token. -/
def escapeChar (c : Char) : List Char :=
  if c = '"' then ['\\', '"']
  else if c = '\\' then ['\\', '\\']
  else if c.toNat = 0x08 then ['\\', 'b']
  else if c.toNat = 0x09 then ['\\', 't']
  else if c.toNat = 0x0A then ['\\', 'n']
  else if c.toNat = 0x0C then ['\\', 'f']
  else if c.toNat = 0x0D then ['\\', 'r']
  else if c.toNat < 0x20 then
    ['\\', 'u', '0', '0', Hex.digit (c.toNat / 16), Hex.digit (c.toNat % 16)]
  else [c]

/-- The characters of a string token. -/
def writeChars (cs : List Char) : List Char := '"' :: (cs.flatMap escapeChar ++ ['"'])

/-- A text as a string token. -/
def writeText (s : String) : String := String.ofList (writeChars s.toList)

/-- A truth value. -/
def writeFlag (b : Bool) : String := if b then "true" else "false"

/-- A list of values already written. -/
def writeList (xs : List String) : String := "[" ++ ",".intercalate xs ++ "]"

/-- An object of names and values already written. -/
def writeObject (members : List (String × String)) : String :=
  "\x7b" ++ ",".intercalate (members.map fun m => writeText m.1 ++ ":" ++ m.2) ++ "\x7d"

end Courier.Json
