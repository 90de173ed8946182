import Courier.Json.Error
import Courier.Text.Hex

/-!
# Tokens of a document

What a reader of JSON does at the front of the octets left to it: white space, words, string
tokens and numbers. A reader either fails with a cause or gives a value and the octets after it.
-/

namespace Courier.Json
set_option autoImplicit false

/-- Reads from the front of a document. -/
abbrev Reader := StateT Octets (Except Error)

/-- The octet of an ASCII character. -/
def octet (c : Char) : UInt8 := UInt8.ofNat c.toNat

/-- White space of the format: space, tab, line feed and carriage return. -/
def isSpace (b : UInt8) : Bool :=
  b = octet ' ' || b = octet '\n' || b = octet '\t' || b = octet '\r'

/-- Passes over white space. -/
def skipSpace : Reader Unit := modify (·.dropWhile isSpace)

/-- The next octet that is not white space, left in place. -/
def peek : Reader (Option UInt8) := do
  skipSpace
  return (← get).head?

/-- Passes over one octet. -/
def advance : Reader Unit := modify List.tail

/-- The octets of the rest of a word whose first letter has been passed. -/
def word : Octets → Reader Unit
  | [] => pure ()
  | b :: bs => do
    match ← get with
    | [] => throw .endInValue
    | c :: rest =>
      set rest
      if c = b then word bs else throw .expectedWord

/-- The octets after the first letter of `null`, `true` and `false`. -/
def afterN : Octets := Utf8.encode "ull"

@[inherit_doc afterN]
def afterT : Octets := Utf8.encode "rue"

@[inherit_doc afterN]
def afterF : Octets := Utf8.encode "alse"

/-- The value of four hexadecimal digits. -/
def hex4? (a b c d : UInt8) : Option Nat := do
  let digit (b : UInt8) := Hex.value? (Char.ofNat b.toNat)
  let a ← digit a
  let b ← digit b
  let c ← digit c
  let d ← digit d
  return 0x1000 * a + 0x100 * b + 0x10 * c + d

/-- Whether a code is the first or the second half of a surrogate pair. -/
def isLead (n : Nat) : Bool := decide (0xD800 ≤ n) && decide (n ≤ 0xDBFF)

@[inherit_doc isLead]
def isTrail (n : Nat) : Bool := decide (0xDC00 ≤ n) && decide (n ≤ 0xDFFF)

/-- The octet that a letter after a backslash stands for. -/
def plainEscape? (b : UInt8) : Option UInt8 :=
  if b = octet '"' then some (octet '"')
  else if b = octet '\\' then some (octet '\\')
  else if b = octet '/' then some (octet '/')
  else if b = octet 'b' then some 0x08
  else if b = octet 'f' then some 0x0C
  else if b = octet 'n' then some 0x0A
  else if b = octet 'r' then some 0x0D
  else if b = octet 't' then some 0x09
  else none

/-- Octets in front of those that a reading gave. -/
def prepend (bs : Octets) : Except Error (Octets × Octets) → Except Error (Octets × Octets)
  | .ok (content, rest) => .ok (bs ++ content, rest)
  | .error e => .error e

/-- The octets of the text of a string token after its opening quote, and the octets after its
closing one. Escapes are resolved; surrogates must come in pairs. -/
def textOctets : Octets → Except Error (Octets × Octets)
  | [] => .error .endInText
  | b :: rest =>
    if b = octet '"' then .ok ([], rest)
    else if b = octet '\\' then
      match rest with
      | [] => .error .endInText
      | e :: rest =>
        if e = octet 'u' then
          match rest with
          | a :: b :: c :: d :: rest =>
            match hex4? a b c d with
            | none => .error .invalidEscape
            | some n =>
              if isTrail n then .error .loneSurrogate
              else if isLead n then
                match rest with
                | [] => .error .endInText
                | s :: rest =>
                  if s ≠ octet '\\' then .error .unfinishedSurrogatePair
                  else
                    match rest with
                    | [] => .error .endInText
                    | u :: rest =>
                      if u ≠ octet 'u' then .error .unfinishedSurrogatePair
                      else
                        match rest with
                        | a :: b :: c :: d :: rest =>
                          match hex4? a b c d with
                          | none => .error .invalidEscape
                          | some m =>
                            if isTrail m then
                              let code := (n - 0xD800) * 0x400 + (m - 0xDC00) + 0x10000
                              prepend (Utf8.encodeChar (Char.ofNat code)) (textOctets rest)
                            else .error .loneSurrogate
                        | _ => .error .endInText
              else prepend (Utf8.encodeChar (Char.ofNat n)) (textOctets rest)
          | _ => .error .endInText
        else
          match plainEscape? e with
          | some x => prepend [x] (textOctets rest)
          | none => .error .invalidEscape
    else if b.toNat < 0x20 then .error .controlCharacter
    else prepend [b] (textOctets rest)

/-- The text of a string token after its opening quote. -/
def text : Reader String := fun bs =>
  match textOctets bs with
  | .error e => .error e
  | .ok (content, rest) =>
    match Utf8.decode? content with
    | some s => .ok (s, rest)
    | none => .error .invalidUtf8

end Courier.Json
