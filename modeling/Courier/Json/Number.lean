import Courier.Json.Token

/-!
# Numbers of a document

A number token is first cut into its parts and then given a value: an integer of 64 bits if it is
written as one and fits, otherwise a floating-point number.
-/

namespace Courier.Json
set_option autoImplicit false

/-- The parts of a number token. -/
structure NumberToken where
  negative : Bool
  whole : List Nat
  fraction : Option (List Nat)
  power : Option Int
  deriving DecidableEq

/-- The value of a number token. -/
inductive Number where
  | integer (value : Int)
  | float (negative : Bool) (magnitude : Binary64)
  deriving DecidableEq

/-- Whether an octet is a decimal digit. -/
def isDigit (b : UInt8) : Bool := decide (48 ≤ b.toNat) && decide (b.toNat ≤ 57)

/-- The values of the digits at the front. -/
def digits : Reader (List Nat) := fun bs =>
  .ok ((bs.takeWhile isDigit).map fun b => b.toNat - 48, bs.dropWhile isDigit)

/-- The digits at the front, at least one of them. -/
def someDigits : Reader (List Nat) := do
  match ← get with
  | [] => throw .endInValue
  | b :: _ => if isDigit b then digits else throw .invalidNumber

/-- The whole part, which has no leading zero. -/
def wholePart : Reader (List Nat) := do
  let ds ← someDigits
  match ds with
  | 0 :: _ :: _ => throw .invalidNumber
  | _ => pure ds

/-- The digits after a point, if one comes next. -/
def fractionPart : Reader (Option (List Nat)) := do
  match ← get with
  | b :: rest =>
    if b = octet '.' then
      set rest
      return some (← someDigits)
    else pure none
  | [] => pure none

/-- The number that digits stand for. -/
def ofDigits (ds : List Nat) : Nat := ds.foldl (fun n d => 10 * n + d) 0

/-- The power of ten after an `e`, if one comes next. -/
def powerPart : Reader (Option Int) := do
  match ← get with
  | b :: rest =>
    if b = octet 'e' ∨ b = octet 'E' then
      set rest
      match rest with
      | s :: rest' =>
        if s = octet '+' then
          set rest'
          return some (ofDigits (← someDigits) : Int)
        else if s = octet '-' then
          set rest'
          return some (-(ofDigits (← someDigits) : Int))
        else return some (ofDigits (← someDigits) : Int)
      | [] => throw .endInValue
    else pure none
  | [] => pure none

/-- A number token. -/
def numberToken : Reader NumberToken := do
  let negative ← match ← get with
    | b :: rest => if b = octet '-' then set rest; pure true else pure false
    | [] => pure false
  let whole ← wholePart
  let fraction ← fractionPart
  let power ← powerPart
  return { negative, whole, fraction, power }

/-- The greatest integer of 64 bits. -/
def maxInteger : Nat := Nat.pow 2 64 - 1

/-- The digits of the whole part that fit 64 bits, and the number of digits left out. -/
def significand : Nat → List Nat → Nat × Nat
  | n, [] => (n, 0)
  | n, d :: ds =>
    if 10 * n + d ≤ maxInteger then significand (10 * n + d) ds else (n, (d :: ds).length)

/-- The digits of a fraction that still fit 64 bits behind a significand, and how many they are. -/
def extend : Nat → List Nat → Nat × Nat
  | n, [] => (n, 0)
  | n, d :: ds =>
    if 10 * n + d ≤ maxInteger then
      let (n, taken) := extend (10 * n + d) ds
      (n, taken + 1)
    else (n, 0)

/-- A power of ten as a magnitude. -/
def powerOfTen (n : Nat) : Binary64 := (Binary64.nearest (Nat.pow 10 n) 1).getD .zero

/-- The greatest power of ten that is a magnitude. -/
def greatestPower : Nat := 308

/-- A magnitude below 2 ^ 64 times a power of ten, by one product or quotient with a power of ten
that is a magnitude. A smaller power is divided out in two steps, after which nothing is left of
it if that is not enough; a greater one is out of range. -/
def scaleByTen (x : Binary64) (power : Int) : Option Binary64 :=
  if 0 ≤ power then
    if power ≤ greatestPower then x.mul (powerOfTen power.toNat)
    else if x.isZero then some x
    else none
  else if -greatestPower ≤ power then x.div (powerOfTen (-power).toNat)
  else
    (x.div (powerOfTen greatestPower)).bind fun y =>
      if -greatestPower ≤ power + greatestPower then
        y.div (powerOfTen (-(power + greatestPower)).toNat)
      else some .zero

/-- The value of a number token. -/
def NumberToken.value (t : NumberToken) : Except Error Number :=
  let (n, omitted) := significand 0 t.whole
  let float (n : Nat) (power : Int) : Except Error Number :=
    match (Binary64.nearest n 1).bind fun x => scaleByTen x power with
    | some x => .ok (.float t.negative x)
    | none => .error .numberOutOfRange
  match t.fraction, t.power with
  | none, none =>
    if omitted ≠ 0 then float n omitted
    else if t.negative = false then .ok (.integer n)
    else if n = 0 ∨ Nat.pow 2 63 < n then float n 0
    else .ok (.integer (-(n : Int)))
  | none, some power => float n (omitted + power)
  | some ds, power =>
    let (n, taken) := extend n ds
    float n ((omitted : Int) - taken + power.getD 0)

/-- A number. -/
def number : Reader Number := do
  let t ← numberToken
  match t.value with
  | .ok n => pure n
  | .error e => throw e

/-- What a number is called where another value is expected. -/
def Number.found : Number → Found
  | .integer value => .integer value
  | .float negative magnitude => .float negative magnitude

end Courier.Json
