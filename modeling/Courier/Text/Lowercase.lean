import Courier.Text.Blank
import Courier.Text.LetterCase

/-!
# Lowercase

Text in small letters by the rules of Unicode: each letter on its own, except that a capital
sigma at the end of a word becomes the final sigma, and a dotted capital I leaves its dot behind.
-/

namespace Courier.Text
set_option autoImplicit false

/-- The code point of the small letter, the same one where there is none. -/
def smallCode (code : Nat) : Nat :=
  match caseRuns.find? fun r =>
      decide (r.first ≤ code) && decide (code ≤ r.last) && (code - r.first) % r.step == 0 with
  | some r => r.small + (code - r.first)
  | none => code

/-- Whether the first character that case does not skip has case. -/
def startsCased (cs : List Char) : Bool :=
  match cs.dropWhile fun c => inRanges caseIgnorableRanges c.toNat with
  | c :: _ => inRanges casedRanges c.toNat
  | [] => false

/-- The small letters of one character that stands between `before` (nearest first) and `after`. -/
def lowerAt (before : List Char) (c : Char) (after : List Char) : List Char :=
  if c.toNat < 0x80 then [c.toLower]
  else if c = 'Σ' then [if startsCased before && !startsCased after then 'ς' else 'σ']
  else if c = 'İ' then ['i', '\u0307']
  else [Char.ofNat (smallCode c.toNat)]

/-- Lowers what is left of a text whose part before is given, nearest first. -/
def lowerFrom : List Char → List Char → List Char
  | _, [] => []
  | before, c :: rest => lowerAt before c rest ++ lowerFrom (c :: before) rest

/-- A text in small letters. -/
def toLower (s : String) : String := String.ofList (lowerFrom [] s.toList)

end Courier.Text
