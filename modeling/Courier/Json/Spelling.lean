import Courier.Json.Grammar

/-!
# What strings say

The characters that stand between the quotes of a string, each as it is or escaped: by a letter
behind a backslash, or by the digits of its code, which are those of two surrogates for a character
beyond sixteen bits. So one text has many spellings.
-/

namespace Courier.Json
set_option autoImplicit false

/-- An escape, and the character it stands for. -/
inductive Escapes : Octets → Char → Prop where
  | letter {e b : UInt8} (known : plainEscape? e = some b) :
    Escapes [octet '\\', e] (Char.ofNat b.toNat)
  | code {i j k l : UInt8} {c : Char} (value : hex4? i j k l = some c.toNat) :
    Escapes [octet '\\', octet 'u', i, j, k, l] c
  | pair {i j k l i' j' k' l' : UInt8} {lead trail : Nat} {c : Char}
    (first : hex4? i j k l = some (0xD800 + lead)) (second : hex4? i' j' k' l' = some (0xDC00 + trail))
    (bounds : lead < 0x400 ∧ trail < 0x400) (value : c.toNat = lead * 0x400 + trail + 0x10000) :
    Escapes [octet '\\', octet 'u', i, j, k, l, octet '\\', octet 'u', i', j', k', l'] c

/-- What stands between the quotes of a string, and the characters it says. -/
inductive Spells : Octets → List Char → Prop where
  | nil : Spells [] []
  | plain {c : Char} {bs : Octets} {cs : List Char} (plain : ∀ b ∈ Utf8.encodeChar c, IsPlain b)
    (rest : Spells bs cs) : Spells (Utf8.encodeChar c ++ bs) (c :: cs)
  | escape {escape bs : Octets} {c : Char} {cs : List Char} (escapes : Escapes escape c)
    (rest : Spells bs cs) : Spells (escape ++ bs) (c :: cs)

/-- A string with its quotes, and the text it says. -/
def Quotes (token : Octets) (s : String) : Prop :=
  ∃ content, token = octet '"' :: (content ++ [octet '"']) ∧ Spells content s.toList

end Courier.Json
