import Courier.Instant.Calendar
import Courier.Text.Digits

/-!
# Instants

A moment of coordinated universal time, to the nanosecond, leap seconds included, its text and its
distance from 1970-01-01T00:00:00Z.
-/

namespace Courier
set_option autoImplicit false

/-- The first and the last year an instant can lie in. -/
def firstYear : Int := -262143

@[inherit_doc firstYear]
def lastYear : Int := 262142

/-- A moment of coordinated universal time. Second 60 is a leap second. -/
structure Instant where
  date : Date
  hour : Nat
  minute : Nat
  second : Nat
  nano : Nat
  year_ge : firstYear ≤ date.year
  year_le : date.year ≤ lastYear
  hour_lt : hour < 24
  minute_lt : minute < 60
  second_le : second ≤ 60
  nano_lt : nano < 1000000000
  deriving DecidableEq

namespace Instant

/-- The digits after the seconds: none, three, six or nine of them, whichever are exact first. -/
def fraction (nano : Nat) : List Char :=
  if nano = 0 then []
  else if nano % 1000000 = 0 then '.' :: Digits.fixed 3 (nano / 1000000)
  else if nano % 1000 = 0 then '.' :: Digits.fixed 6 (nano / 1000)
  else '.' :: Digits.fixed 9 nano

/-- A year: four digits, or a sign and at least four outside 0 to 9999. -/
def yearChars (year : Int) : List Char :=
  if 0 ≤ year ∧ year ≤ 9999 then Digits.fixed 4 year.toNat
  else if 0 ≤ year then '+' :: Digits.atLeast 4 year.toNat
  else '-' :: Digits.atLeast 4 (-year).toNat

/-- The characters of an instant's text. -/
def chars (t : Instant) : List Char :=
  yearChars t.date.year ++ '-' :: Digits.fixed 2 t.date.month ++ '-' :: Digits.fixed 2 t.date.day
    ++ 'T' :: Digits.fixed 2 t.hour ++ ':' :: Digits.fixed 2 t.minute
    ++ ':' :: Digits.fixed 2 t.second ++ fraction t.nano ++ ['Z']

/-- The text of an instant. -/
def text (t : Instant) : String := String.ofList t.chars

/-- Whole seconds since 1970-01-01T00:00:00Z; a leap second counts with the second before it. -/
def unixSeconds (t : Instant) : Int :=
  t.date.daysSinceEpoch * 86400 + (t.hour * 3600 + t.minute * 60 + min t.second 59 : Nat)

/-- 1970-01-01T00:00:00Z. -/
def epoch : Instant where
  date := .epoch
  hour := 0
  minute := 0
  second := 0
  nano := 0
  year_ge := by decide
  year_le := by decide
  hour_lt := by decide
  minute_lt := by decide
  second_le := by decide
  nano_lt := by decide

instance : Inhabited Instant := ⟨epoch⟩

/-- Why a text is not an instant. -/
inductive ParseError where
  /-- The text ends where more is needed. -/
  | tooShort
  /-- A character that cannot stand where it does. -/
  | invalid
  /-- A number that its place does not allow. -/
  | outOfRange
  /-- Text after the zone. -/
  | tooLong
  /-- A moment that leaves the range of years once its zone is accounted for. -/
  | impossible
  deriving DecidableEq

/-- The wording of a cause. -/
def ParseError.message : ParseError → String
  | .tooShort => "premature end of input"
  | .invalid => "input contains invalid characters"
  | .outOfRange => "input is out of range"
  | .tooLong => "trailing input"
  | .impossible => "no possible date and time matching input"

end Instant

end Courier
