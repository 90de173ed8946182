import Courier.Json.Token

/-!
# The grammar of values

Which octets are a value: a word, a number, a string, or a list or an object of values, with white
space around what stands within brackets. Numbers may have any size and brackets any depth, and an
escape may name any code.
-/

namespace Courier.Json
set_option autoImplicit false

/-- White space. -/
def IsBlank (bs : Octets) : Prop := ∀ b ∈ bs, isSpace b = true

/-- A decimal digit. -/
def IsDigit (b : UInt8) : Prop := 48 ≤ b.toNat ∧ b.toNat ≤ 57

/-- A digit at least, and nothing but digits. -/
def IsDigits (bs : Octets) : Prop := bs ≠ [] ∧ ∀ b ∈ bs, IsDigit b

/-- An octet that stands for itself in a string. -/
def IsPlain (b : UInt8) : Prop := b ≠ octet '"' ∧ b ≠ octet '\\' ∧ 0x20 ≤ b.toNat

/-- What stands between the quotes of a string. -/
inductive IsContent : Octets → Prop where
  | nil : IsContent []
  | plain {b : UInt8} {bs : Octets} (plain : IsPlain b) (rest : IsContent bs) : IsContent (b :: bs)
  | escape {e : UInt8} {bs : Octets} (known : (plainEscape? e).isSome) (rest : IsContent bs) :
    IsContent (octet '\\' :: e :: bs)
  | code {i j k l : UInt8} {bs : Octets}
    (digits : ∀ d ∈ [i, j, k, l], Hex.isDigit (Char.ofNat d.toNat) = true) (rest : IsContent bs) :
    IsContent (octet '\\' :: octet 'u' :: i :: j :: k :: l :: bs)

/-- A string. -/
inductive IsText : Octets → Prop where
  | quoted {content : Octets} (isContent : IsContent content) :
    IsText (octet '"' :: (content ++ [octet '"']))

/-- The whole part of a number: zero, or digits of which the first is not zero. -/
inductive IsWhole : Octets → Prop where
  | zero : IsWhole [octet '0']
  | digits {b : UInt8} {ds : Octets} (lead : 49 ≤ b.toNat ∧ b.toNat ≤ 57)
    (digits : ∀ d ∈ ds, IsDigit d) : IsWhole (b :: ds)

/-- The fraction of a number, which may be missing. -/
inductive IsFraction : Octets → Prop where
  | missing : IsFraction []
  | point {ds : Octets} (digits : IsDigits ds) : IsFraction (octet '.' :: ds)

/-- The sign of a power, which may be missing. -/
def IsPowerSign (bs : Octets) : Prop := bs = [] ∨ bs = [octet '+'] ∨ bs = [octet '-']

/-- The power of ten of a number, which may be missing. -/
inductive IsPower : Octets → Prop where
  | missing : IsPower []
  | letter {e : UInt8} {sign ds : Octets} (letter : e = octet 'e' ∨ e = octet 'E')
    (isSign : IsPowerSign sign) (digits : IsDigits ds) : IsPower (e :: (sign ++ ds))

/-- A number without its sign. -/
inductive IsUnsigned : Octets → Prop where
  | parts {whole fraction power : Octets} (isWhole : IsWhole whole)
    (isFraction : IsFraction fraction) (isPower : IsPower power) :
    IsUnsigned (whole ++ (fraction ++ power))

/-- A number. -/
inductive IsNumber : Octets → Prop where
  | positive {bs : Octets} (isUnsigned : IsUnsigned bs) : IsNumber bs
  | negative {bs : Octets} (isUnsigned : IsUnsigned bs) : IsNumber (octet '-' :: bs)

/-- An element of a list, with the white space around it. -/
structure Element where
  before : Octets
  value : Octets
  after : Octets

/-- A member of an object, with the white space around its parts. -/
structure Member where
  before : Octets
  name : Octets
  after : Octets
  element : Element

namespace Element

/-- The octets of an element. -/
def octets (e : Element) : Octets := e.before ++ (e.value ++ e.after)

/-- What stands around the value of an element is white space. -/
def Padded (e : Element) : Prop := IsBlank e.before ∧ IsBlank e.after

end Element

namespace Member

/-- The octets of a member. -/
def octets (m : Member) : Octets :=
  m.before ++ (m.name ++ (m.after ++ octet ':' :: m.element.octets))

/-- What stands around the name and the value of a member is white space, and the name is a
string. -/
def Padded (m : Member) : Prop :=
  IsBlank m.before ∧ IsText m.name ∧ IsBlank m.after ∧ m.element.Padded

end Member

/-- Parts after the first one of several, each behind its comma. -/
def following (parts : List Octets) : Octets := parts.flatMap (octet ',' :: ·)

/-- The octets of a value. -/
inductive IsValue : Octets → Prop where
  | nullWord : IsValue (octet 'n' :: afterN)
  | trueWord : IsValue (octet 't' :: afterT)
  | falseWord : IsValue (octet 'f' :: afterF)
  | number {bs : Octets} (isNumber : IsNumber bs) : IsValue bs
  | text {bs : Octets} (isText : IsText bs) : IsValue bs
  | emptyList {blank : Octets} (isBlank : IsBlank blank) :
    IsValue (octet '[' :: (blank ++ [octet ']']))
  | list {e : Element} {es : List Element} (padded : ∀ x ∈ e :: es, x.Padded)
    (values : ∀ x ∈ e :: es, IsValue x.value) :
    IsValue (octet '[' :: (e.octets ++ (following (es.map Element.octets) ++ [octet ']'])))
  | emptyObject {blank : Octets} (isBlank : IsBlank blank) :
    IsValue (octet '\x7b' :: (blank ++ [octet '\x7d']))
  | object {m : Member} {ms : List Member} (padded : ∀ x ∈ m :: ms, x.Padded)
    (values : ∀ x ∈ m :: ms, IsValue x.element.value) :
    IsValue (octet '\x7b' :: (m.octets ++ (following (ms.map Member.octets) ++ [octet '\x7d'])))

end Courier.Json
