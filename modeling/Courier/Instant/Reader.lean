import Courier.Instant
import Courier.Text.Blank

/-!
# Reading instants

The text of an instant as other programs may write it: white space before numbers and separators,
one or two digits, a signed year of any length, any fraction, and a zone.
-/

namespace Courier.Instant
set_option autoImplicit false

/-- Reads from the front of a text. -/
abbrev Reader := StateT (List Char) (Except ParseError)

namespace Reader

/-- Passes over white space. -/
def blanks : Reader Unit := modify Text.trimStart

/-- The digits at the front, at most `places` of them when a bound is given, none an error. -/
def digits (places : Option Nat) : Reader (List Char) := fun cs =>
  match cs with
  | [] => .error .tooShort
  | c :: _ =>
    if c.isDigit then
      let window := match places with
        | some n => cs.take n
        | none => cs
      let ds := window.takeWhile Char.isDigit
      .ok (ds, cs.drop ds.length)
    else .error .invalid

/-- A number after white space, in its bounds. -/
def number (places low high : Nat) : Reader Nat := do
  blanks
  let n := Digits.value (← digits (some places))
  if low ≤ n ∧ n ≤ high then pure n else throw .outOfRange

/-- A year after white space: at most four digits, or a sign and any number of them. -/
def year : Reader Int := do
  blanks
  match ← get with
  | '-' :: rest =>
    set rest
    let n := Digits.value (← digits none)
    if n ≤ 2147483648 then pure (-(n : Int)) else throw .outOfRange
  | '+' :: rest =>
    set rest
    let n := Digits.value (← digits none)
    if n ≤ 2147483647 then pure (n : Int) else throw .outOfRange
  | _ => return (Digits.value (← digits (some 4)) : Int)

/-- A separator after white space. -/
def separator (c : Char) : Reader Unit := do
  blanks
  match ← get with
  | [] => throw .tooShort
  | d :: rest => if d = c then set rest else throw .invalid

/-- What stands between date and time. -/
def betweenDateAndTime : Reader Unit := do
  match ← get with
  | [] => throw .tooShort
  | c :: rest => if c = 'T' ∨ c = 't' ∨ c = ' ' then set rest else throw .invalid

/-- The nanoseconds of a fraction, zero when there is none; digits past the ninth are dropped. -/
def nanoseconds : Reader Nat := do
  match ← get with
  | '.' :: rest =>
    set rest
    let ds ← digits none
    let kept := ds.take 9
    pure (Digits.value kept * Nat.pow 10 (9 - kept.length))
  | _ => pure 0

/-- Two digits as a number below one hundred. -/
def twoDigits : Reader Nat := do
  match ← get with
  | [] => throw .tooShort
  | [c] => if c.toNat < 0x80 then throw .tooShort else throw .invalid
  | a :: b :: rest =>
    if a.isDigit ∧ b.isDigit then
      set rest
      pure (Digits.value [a, b])
    else throw .invalid

/-- A signed distance from universal time, in minutes. -/
def offset : Reader Int := do
  let sign : Int ← match ← get with
    | '+' :: rest => set rest; pure 1
    | '-' :: rest => set rest; pure (-1)
    | '\u2212' :: rest => set rest; pure (-1)
    | _ :: _ => throw .invalid
    | [] => throw .tooShort
  let hours ← twoDigits
  modify (·.dropWhile fun c => c = ':' ∨ Text.isBlank c)
  let minutes ← twoDigits
  if 59 < minutes then throw .outOfRange
  pure (sign * (hours * 60 + minutes : Nat))

/-- The zone: a letter or three for universal time, else the distance from it in minutes. -/
def zone : Reader Int := do
  blanks
  let cs ← get
  if (cs.take 3).map Char.toLower = ['u', 't', 'c'] then
    set (cs.drop 3)
    pure 0
  else
    match cs with
    | 'Z' :: rest => set rest; pure 0
    | 'z' :: rest => set rest; pure 0
    | _ => offset

/-- Nothing but white space is left. -/
def finished : Reader Unit := do
  blanks
  match ← get with
  | [] => pure ()
  | _ => throw .tooLong

end Reader

/-- The date and the minutes of the day after moving by less than two days. -/
def shift (date : Date) (minutes : Int) : Date × Nat :=
  if minutes < 0 then (date.pred, (minutes + 1440).toNat)
  else if 1440 ≤ minutes then (date.succ, (minutes - 1440).toNat)
  else (date, minutes.toNat)

/-- The instant of a local date and time and its distance from universal time in minutes. -/
def ofLocal (year : Int) (month day hour minute second nano : Nat) (offset : Int) :
    Except ParseError Instant :=
  if year < firstYear ∨ lastYear < year then .error .outOfRange
  else
    match Date.ofYmd? year month day with
    | none => .error .outOfRange
    | some date =>
      if offset ≤ -1440 ∨ 1440 ≤ offset then .error .outOfRange
      else
        let (date, minutes) := shift date ((hour * 60 + minute : Nat) - offset)
        if hy : firstYear ≤ date.year ∧ date.year ≤ lastYear then
          if ht : minutes < 1440 ∧ second ≤ 60 ∧ nano < 1000000000 then
            .ok {
              date := date
              hour := minutes / 60
              minute := minutes % 60
              second := second
              nano := nano
              year_ge := hy.1
              year_le := hy.2
              hour_lt := by omega
              minute_lt := by omega
              second_le := ht.2.1
              nano_lt := ht.2.2 }
          else .error .outOfRange
        else .error .impossible

/-- Reads a date, a time and a zone. -/
def reader : Reader Instant := do
  let year ← Reader.year
  Reader.separator '-'
  let month ← Reader.number 2 1 12
  Reader.separator '-'
  let day ← Reader.number 2 1 31
  Reader.betweenDateAndTime
  let hour ← Reader.number 2 0 23
  Reader.separator ':'
  let minute ← Reader.number 2 0 59
  Reader.separator ':'
  let second ← Reader.number 2 0 60
  let nano ← Reader.nanoseconds
  let offset ← Reader.zone
  Reader.finished
  ofLocal year month day hour minute second nano offset

/-- Reads the text of an instant. -/
def parse (s : String) : Except ParseError Instant := (reader s.toList).map (·.1)

end Courier.Instant
