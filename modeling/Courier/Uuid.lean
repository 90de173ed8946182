import Courier.Text.Hex

/-!
# UUIDs

Identifiers of sixteen octets, their text and the reading of it. The text is written in small
letters with hyphens (`Uuid.text`); it is read in either case, with or without hyphens, and a
hyphenated one also in braces or after `urn:uuid:`. A text that is none of these is refused with
the first cause that `ParseError.ofGroups` or `ParseError.diagnose` finds.
-/

namespace Courier
set_option autoImplicit false

/-- An identifier of sixteen octets. -/
structure Uuid where
  octets : Octets
  length_octets : octets.length = 16
  deriving DecidableEq

namespace Uuid

/-- The identifier of nothing: all octets zero. -/
def nil : Uuid := ⟨List.replicate 16 0, by decide⟩

instance : Inhabited Uuid := ⟨nil⟩

/-- Whether an identifier is the nil one. -/
def isNil (u : Uuid) : Bool := decide (u = nil)

/-- Cuts 32 digits into the groups of the hyphenated form. -/
def hyphenate (ds : List Char) : List Char :=
  ds.take 8 ++ '-' :: (ds.drop 8).take 4 ++ '-' :: (ds.drop 12).take 4
    ++ '-' :: (ds.drop 16).take 4 ++ '-' :: ds.drop 20

/-- The characters of an identifier's text. -/
def chars (u : Uuid) : List Char := hyphenate (Hex.digits u.octets)

/-- The text of an identifier: 32 small digits in five groups. -/
def text (u : Uuid) : String := String.ofList u.chars

/-- Why a text is not an identifier. -/
inductive ParseError where
  /-- A text of a length that no form has. -/
  | length (found : Nat)
  /-- A character that is neither a digit nor a hyphen, at an octet's position. -/
  | character (found : Char) (index : Nat)
  /-- Not five groups. -/
  | groupCount (found : Nat)
  /-- A group of the wrong length. -/
  | groupLength (group expected found : Nat)
  deriving DecidableEq

/-- The wording of a cause. -/
def ParseError.message : ParseError → String
  | .length found => s!"invalid length: found {found}"
  | .character found index => s!"invalid character: found `{found}` at {index}"
  | .groupCount found => s!"invalid group count: expected 5, found {found}"
  | .groupLength group expected found =>
    s!"invalid group length in group {group}: expected {expected}, found {found}"

/-- The lengths of the five groups. -/
def groupLengths : List Nat := [8, 4, 4, 4, 12]

/-- The characters between hyphens. -/
def groups (cs : List Char) : List (List Char) := cs.splitOn '-'

/-- The identifier of 32 digits. -/
def ofDigits? (ds : List Char) : Option Uuid := do
  let bs ← Hex.octets? ds
  if h : bs.length = 16 then some ⟨bs, h⟩ else none

/-- The identifier of a hyphenated text. -/
def ofHyphenated? (cs : List Char) : Option Uuid :=
  if (groups cs).map List.length = groupLengths then ofDigits? (groups cs).flatten else none

/-- What stands between braces. -/
def unbraced? (cs : List Char) : Option (List Char) :=
  match cs with
  | '\x7b' :: rest => if rest.getLast? = some '\x7d' then some rest.dropLast else none
  | _ => none

/-- What follows `urn:uuid:`, written in either case. -/
def afterUrn? (cs : List Char) : Option (List Char) :=
  if (cs.take 9).map Char.toLower = "urn:uuid:".toList then some (cs.drop 9) else none

/-- The number of octets of a text. -/
def octetLength (cs : List Char) : Nat := (Utf8.encodeChars cs).length

/-- The first character that no form has, with the position of its first octet. -/
def firstStray? : Nat → List Char → Option (Char × Nat)
  | _, [] => none
  | index, c :: rest =>
    if Hex.isDigit c || c = '-' then firstStray? (index + 1) rest else some (c, index)

/-- The first of the leading groups whose length is wrong, with the length it should have and the
one it has. -/
def firstWrongGroup? : Nat → List Nat → List (List Char) → Option (Nat × Nat × Nat)
  | index, expected :: es, g :: gs =>
    if g.length = expected then firstWrongGroup? (index + 1) es gs
    else some (index, expected, g.length)
  | _, _, _ => none

/-- Why hyphenated groups are not an identifier: a stray character first, then the number of groups,
then their lengths. They start at octet `offset` of a text of `total` octets, by which the last
group is measured. -/
def ParseError.ofGroups (offset total : Nat) (cs : List Char) : ParseError :=
  match firstStray? offset cs with
  | some (c, index) => .character c index
  | none =>
    let gs := groups cs
    if gs.length ≠ 5 then .groupCount gs.length
    else
      match firstWrongGroup? 0 (groupLengths.take 4) gs with
      | some (group, expected, found) => .groupLength group expected found
      | none => .groupLength 4 12 (total - 24)

/-- Why a text is not an identifier when its length leaves open which hyphenated form was meant.
Braces and the URN words are not part of what is looked at; digits alone can only have the wrong
length. -/
def ParseError.diagnose (cs : List Char) : ParseError :=
  let total := octetLength cs
  if total = 0 ∨ 45 < total ∨ cs.all Hex.isDigit then .length total
  else
    match unbraced? cs, afterUrn? cs with
    | some inner, _ => .ofGroups 1 total inner
    | none, some inner => .ofGroups 9 total inner
    | none, none => .ofGroups 0 total cs

/-- Reads a hyphenated text that had nothing around it, or has been unwrapped. -/
def parseHyphenated (cs : List Char) : Except ParseError Uuid :=
  match ofHyphenated? cs with
  | some u => .ok u
  | none => .error (.ofGroups 0 (octetLength cs) cs)

/-- Reads the text of an identifier; which form it can have is decided by its length, and what a
hyphenated form wraps is looked at on its own. -/
def parseChars (cs : List Char) : Except ParseError Uuid :=
  match octetLength cs, unbraced? cs, afterUrn? cs with
  | 32, _, _ =>
    match ofDigits? cs with
    | some u => .ok u
    | none => .error (.diagnose cs)
  | 36, _, _ => parseHyphenated cs
  | 38, some inner, _ => parseHyphenated inner
  | 45, _, some inner => parseHyphenated inner
  | _, _, _ => .error (.diagnose cs)

/-- Reads the text of an identifier. -/
def parse (s : String) : Except ParseError Uuid := parseChars s.toList

end Uuid

end Courier
