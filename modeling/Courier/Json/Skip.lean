import Courier.Json.Token

/-!
# Passing over a value

A value that nobody reads is only checked for its syntax. `skip` runs a machine with a stack of
open brackets over the octets, one at a time, so it has no limit of depth; numbers may have any
size, and the content of strings is not decoded.
-/

namespace Courier.Json
set_option autoImplicit false

/-- An open bracket. -/
inductive Bracket where
  | list
  | object
  deriving DecidableEq

/-- Where the machine stands between two octets. -/
inductive Place where
  /-- A value comes next. -/
  | value
  /-- A bracket has just been opened. -/
  | opened
  /-- A member's name comes next. -/
  | name
  /-- A colon comes next. -/
  | colon
  /-- The innermost value is complete. -/
  | complete
  /-- Within a string, a member's name if `isName`. -/
  | text (isName : Bool)
  /-- After a backslash. -/
  | escape (isName : Bool)
  /-- Before the given number of hexadecimal digits. -/
  | hex (isName : Bool) (owed : Nat)
  /-- Before these octets of a word. -/
  | word (owed : Octets)
  /-- After a minus sign. -/
  | minus
  /-- After a leading zero. -/
  | zero
  /-- Within the digits of a whole part. -/
  | whole
  /-- After the point. -/
  | point
  /-- Within the digits of a fraction. -/
  | fraction
  /-- After the `e`. -/
  | power
  /-- After the sign of the power. -/
  | powerSign
  /-- Within the digits of the power. -/
  | powerDigits
  deriving DecidableEq

/-- Whether a number may end here. -/
def Place.endsNumber : Place → Bool
  | .zero | .whole | .fraction | .powerDigits => true
  | _ => false

/-- Whether nothing is owed: the value is complete, or it is a number that may end here. -/
def Place.isComplete (p : Place) : Bool := p = .complete || p.endsNumber

/-- Where a step leads. -/
abbrev Step := Except Error (Place × List Bracket)

/-- The start of a value. -/
def startValue (stack : List Bracket) (b : UInt8) : Step :=
  if isSpace b then .ok (.value, stack)
  else if b = octet 'n' then .ok (.word afterN, stack)
  else if b = octet 't' then .ok (.word afterT, stack)
  else if b = octet 'f' then .ok (.word afterF, stack)
  else if b = octet '-' then .ok (.minus, stack)
  else if b = octet '0' then .ok (.zero, stack)
  else if 49 ≤ b.toNat ∧ b.toNat ≤ 57 then .ok (.whole, stack)
  else if b = octet '"' then .ok (.text false, stack)
  else if b = octet '[' then .ok (.opened, .list :: stack)
  else if b = octet '\x7b' then .ok (.opened, .object :: stack)
  else .error .expectedValue

/-- The start of a member. -/
def startName (stack : List Bracket) (b : UInt8) : Step :=
  if isSpace b then .ok (.name, stack)
  else if b = octet '"' then .ok (.text true, stack)
  else .error .keyNotText

/-- After a value within brackets. -/
def afterValue (stack : List Bracket) (b : UInt8) : Step :=
  if isSpace b then .ok (.complete, stack)
  else
    match stack with
    | [] => .ok (.complete, [])
    | .list :: outer =>
      if b = octet ',' then .ok (.value, stack)
      else if b = octet ']' then .ok (.complete, outer)
      else .error .expectedCommaOrBracket
    | .object :: outer =>
      if b = octet ',' then .ok (.name, stack)
      else if b = octet '\x7d' then .ok (.complete, outer)
      else .error .expectedCommaOrBrace

/-- After an opening bracket. -/
def afterOpened (stack : List Bracket) (b : UInt8) : Step :=
  if isSpace b then .ok (.opened, stack)
  else
    match stack with
    | .list :: outer => if b = octet ']' then .ok (.complete, outer) else startValue stack b
    | .object :: outer => if b = octet '\x7d' then .ok (.complete, outer) else startName stack b
    | [] => .error .expectedValue

/-- After digits of a number that may go on with a point or a power. -/
def afterDigits (here : Place) (mayPoint : Bool) (stack : List Bracket) (b : UInt8) : Step :=
  if isSpace b then .ok (.complete, stack)
  else if mayPoint ∧ b = octet '.' then .ok (.point, stack)
  else if here ≠ .powerDigits ∧ (b = octet 'e' ∨ b = octet 'E') then .ok (.power, stack)
  else afterValue stack b

/-- One octet, those after it given. -/
def step (p : Place) (stack : List Bracket) (b : UInt8) (ahead : Octets) : Step :=
  let digit := decide (48 ≤ b.toNat) && decide (b.toNat ≤ 57)
  match p with
  | .value => startValue stack b
  | .opened => afterOpened stack b
  | .name => startName stack b
  | .colon =>
    if isSpace b then .ok (.colon, stack)
    else if b = octet ':' then .ok (.value, stack)
    else .error .expectedColon
  | .complete => afterValue stack b
  | .text isName =>
    if b = octet '"' then .ok (if isName then .colon else .complete, stack)
    else if b = octet '\\' then .ok (.escape isName, stack)
    else if b.toNat < 0x20 then .error .controlCharacter
    else .ok (.text isName, stack)
  | .escape isName =>
    if b = octet 'u' then
      if (ahead.drop 3).isEmpty then .error .endInText else .ok (.hex isName 4, stack)
    else if (plainEscape? b).isSome then .ok (.text isName, stack)
    else .error .invalidEscape
  | .hex isName owed =>
    if Hex.isDigit (Char.ofNat b.toNat) then
      .ok (if owed ≤ 1 then .text isName else .hex isName (owed - 1), stack)
    else .error .invalidEscape
  | .word owed =>
    match owed with
    | [] => afterValue stack b
    | c :: owed =>
      if b = c then .ok (if owed = [] then .complete else .word owed, stack)
      else .error .expectedWord
  | .minus =>
    if b = octet '0' then .ok (.zero, stack)
    else if digit then .ok (.whole, stack)
    else .error .invalidNumber
  | .zero => if digit then .error .invalidNumber else afterDigits .zero true stack b
  | .whole => if digit then .ok (.whole, stack) else afterDigits .whole true stack b
  | .point => if digit then .ok (.fraction, stack) else .error .invalidNumber
  | .fraction => if digit then .ok (.fraction, stack) else afterDigits .fraction false stack b
  | .power =>
    if b = octet '+' ∨ b = octet '-' then .ok (.powerSign, stack)
    else if digit then .ok (.powerDigits, stack)
    else .error .invalidNumber
  | .powerSign => if digit then .ok (.powerDigits, stack) else .error .invalidNumber
  | .powerDigits =>
    if digit then .ok (.powerDigits, stack) else afterDigits .powerDigits false stack b

/-- What a document that ends here lacks. -/
def endError (p : Place) (stack : List Bracket) : Error :=
  match p with
  | .value | .word _ => .endInValue
  | .text _ | .escape _ | .hex _ _ => .endInText
  | .name | .colon => .endInObject
  | .minus | .point | .power | .powerSign => .invalidNumber
  | _ =>
    match stack with
    | .list :: _ => .endInList
    | .object :: _ => .endInObject
    | [] => .endInValue

/-- Whether the machine may stop before the given octet: the outermost value is complete, and the
octet does not continue it. -/
def stopsBefore (p : Place) (stack : List Bracket) (b : UInt8) : Bool :=
  match p, stack with
  | .complete, [] => true
  | .zero, [] => !(isDigitOctet b) && b != octet '.' && b != octet 'e' && b != octet 'E'
  | .whole, [] => !(isDigitOctet b) && b != octet '.' && b != octet 'e' && b != octet 'E'
  | .fraction, [] => !(isDigitOctet b) && b != octet 'e' && b != octet 'E'
  | .powerDigits, [] => !(isDigitOctet b)
  | _, _ => false
where
  /-- A decimal digit. -/
  isDigitOctet (b : UInt8) : Bool := decide (48 ≤ b.toNat) && decide (b.toNat ≤ 57)

/-- Runs the machine until the outermost value is complete; the octets after it. -/
def skipFrom : Place → List Bracket → Octets → Except Error Octets
  | p, stack, [] => if stack = [] ∧ p.isComplete then .ok [] else .error (endError p stack)
  | p, stack, b :: rest =>
    if stopsBefore p stack b then .ok (b :: rest)
    else
      match step p stack b rest with
      | .ok (p, stack) => skipFrom p stack rest
      | .error e => .error e

/-- Passes over a value and the white space before it. -/
def skip (bs : Octets) : Except Error Octets := skipFrom .value [] bs

/-- The octets of a value as they stand in the document, and those after it. -/
def raw (bs : Octets) : Except Error (Octets × Octets) :=
  let start := bs.dropWhile isSpace
  match skip start with
  | .ok rest => .ok (start.take (start.length - rest.length), rest)
  | .error e => .error e

end Courier.Json
