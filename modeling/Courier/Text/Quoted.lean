import Courier.Text.Blank
import Courier.Text.Unprintable

/-!
# Quoted text for messages

A text between double quotes, as an error message shows it: quotes and backslashes are escaped,
four controls have letters, and what cannot be seen on its own is spelled by its number.
-/

namespace Courier.Text
set_option autoImplicit false

/-- Digits of a number in base sixteen, small letters, no leading zero. -/
def hexDigits (n : Nat) : List Char := Nat.toDigits 16 n

/-- A character spelled by its number, as in `\u{200b}`. -/
def spelled (c : Char) : List Char :=
  ['\\', 'u', '\x7b'] ++ hexDigits c.toNat ++ ['\x7d']

/-- Whether a reader would miss a character that stands alone, or take it for a part of another. -/
def isUnreadable (c : Char) : Bool :=
  [graphemeExtendRanges, unprintableRanges, ignorableRanges].any fun ranges =>
    inRanges ranges c.toNat

/-- One character inside the quotes. -/
def quoteChar (c : Char) : List Char :=
  if c = '\x00' then ['\\', '0']
  else if c = '\t' then ['\\', 't']
  else if c = '\r' then ['\\', 'r']
  else if c = '\n' then ['\\', 'n']
  else if c = '"' then ['\\', '"']
  else if c = '\\' then ['\\', '\\']
  else if isUnreadable c then spelled c
  else [c]

/-- A text between quotes. -/
def quote (s : String) : String := String.ofList ('"' :: s.toList.flatMap quoteChar ++ ['"'])

end Courier.Text
