/-!
# Floating-point numbers of 64 bits

Magnitudes `mantissa · 2 ^ exponent` with a mantissa of 53 bits, in exact arithmetic on naturals:
the magnitude nearest to a quotient, products and quotients rounded to it, and the shortest decimal
that reads back. Ties go to the even mantissa.
-/

namespace Courier
set_option autoImplicit false

/-- A finite magnitude, `mantissa · 2 ^ exponent`. The mantissa fills 53 bits unless the exponent
is the least one, -1074. -/
structure Binary64 where
  mantissa : Nat
  exponent : Int
  deriving DecidableEq

namespace Binary64

/-- The least and the greatest exponent. -/
def minExponent : Int := -1074

@[inherit_doc minExponent]
def maxExponent : Int := 971

/-- No magnitude. -/
def zero : Binary64 := ⟨0, minExponent⟩

/-- Whether there is no magnitude. -/
def isZero (x : Binary64) : Bool := x.mantissa == 0

/-- A quotient times a power of two, as a quotient. -/
def scaled (num den : Nat) (e : Int) : Nat × Nat :=
  if 0 ≤ e then (num * Nat.pow 2 e.toNat, den) else (num, den * Nat.pow 2 (-e).toNat)

/-- The natural nearest to a quotient, the even one of two. -/
def roundDiv (num den : Nat) : Nat :=
  let q := num / den
  let r := num % den
  if 2 * r < den then q
  else if den < 2 * r then q + 1
  else if q % 2 = 0 then q
  else q + 1

/-- The exponent at which a quotient has a mantissa of 53 bits, or the least one. -/
def exponentOf (num den : Nat) : Int :=
  let guess : Int := (Nat.log2 num : Int) - (Nat.log2 den : Int)
  let (n, d) := scaled num den (-guess)
  let log := if n < d then guess - 1 else guess
  max minExponent (log - 52)

/-- The magnitude nearest to a quotient, none when it exceeds them all. -/
def nearest (num den : Nat) : Option Binary64 :=
  if num = 0 then some zero
  else
    let e := exponentOf num den
    let (n, d) := scaled num den (-e)
    let m := roundDiv n d
    let x : Binary64 := if m = Nat.pow 2 53 then ⟨Nat.pow 2 52, e + 1⟩ else ⟨m, e⟩
    if maxExponent < x.exponent then none else some x

/-- A magnitude as a quotient. -/
def toQuotient (x : Binary64) : Nat × Nat := scaled x.mantissa 1 x.exponent

/-- The product, rounded. -/
def mul (x y : Binary64) : Option Binary64 :=
  let (a, b) := x.toQuotient
  let (c, d) := y.toQuotient
  nearest (a * c) (b * d)

/-- The quotient by a magnitude other than zero, rounded. -/
def div (x y : Binary64) : Option Binary64 :=
  let (a, b) := x.toQuotient
  let (c, d) := y.toQuotient
  nearest (a * d) (b * c)

/-- A decimal, `digits · 10 ^ exponent`. -/
structure Decimal where
  digits : Nat
  exponent : Int
  deriving DecidableEq

/-- A decimal as a quotient. -/
def Decimal.toQuotient (d : Decimal) : Nat × Nat :=
  if 0 ≤ d.exponent then (d.digits * Nat.pow 10 d.exponent.toNat, 1)
  else (d.digits, Nat.pow 10 (-d.exponent).toNat)

/-- Whether a decimal reads back as the magnitude. -/
def readsBack (x : Binary64) (d : Decimal) : Bool :=
  let (n, m) := d.toQuotient
  decide (nearest n m = some x)

/-- The decimal exponent of the leading digit of a quotient. -/
def leadingExponent (num den : Nat) : Int :=
  let guess : Int := ((Nat.log2 num : Int) - (Nat.log2 den : Int)) * 30103 / 100000
  let atLeast (e : Int) : Bool :=
    if 0 ≤ e then decide (den * Nat.pow 10 e.toNat ≤ num)
    else decide (den ≤ num * Nat.pow 10 (-e).toNat)
  if atLeast (guess + 1) then guess + 1 else if atLeast guess then guess else guess - 1

/-- The decimal of a given number of digits that is nearest to the magnitude and reads back, the
even one of two. -/
def atPlaces? (x : Binary64) (places : Nat) : Option Decimal :=
  let (num, den) := x.toQuotient
  let e := leadingExponent num den - (places - 1 : Int)
  let (n, d) :=
    if 0 ≤ e then (num, den * Nat.pow 10 e.toNat) else (num * Nat.pow 10 (-e).toNat, den)
  let near := roundDiv n d
  let far := if near = n / d then near + 1 else n / d
  if x.readsBack ⟨near, e⟩ then some ⟨near, e⟩
  else if x.readsBack ⟨far, e⟩ then some ⟨far, e⟩
  else none

/-- A decimal without zeros at its end. -/
def Decimal.trimmed : Nat → Decimal → Decimal
  | 0, d => d
  | fuel + 1, d =>
    if d.digits % 10 = 0 ∧ d.digits ≠ 0 then Decimal.trimmed fuel ⟨d.digits / 10, d.exponent + 1⟩
    else d

/-- The decimal of fewest digits that reads back as the magnitude. Seventeen digits always do. -/
def shortest (x : Binary64) : Decimal :=
  if x.isZero then ⟨0, 0⟩
  else
    match (List.range 17).findSome? fun k => x.atPlaces? (k + 1) with
    | some d => d.trimmed 20
    | none => ⟨0, 0⟩

/-- How a decimal is laid out: positional between two exponents of the leading digit, otherwise
one digit before the point and an exponent with a sign. -/
structure Layout where
  leastPositional : Int
  greatestPositional : Int

/-- The layout used in messages: positional from 0.00001 to below ten to the sixteenth. -/
def Layout.message : Layout := ⟨-5, 15⟩

/-- The characters of a decimal, always with a point or an exponent. -/
def Decimal.chars (layout : Layout) (d : Decimal) : List Char :=
  let ds := Nat.toDigits 10 d.digits
  let lead : Int := d.exponent + ds.length - 1
  if d.digits = 0 then ['0', '.', '0']
  else if layout.leastPositional ≤ lead ∧ lead ≤ layout.greatestPositional then
    if 0 ≤ d.exponent then ds ++ List.replicate d.exponent.toNat '0' ++ ['.', '0']
    else if 0 ≤ lead then ds.take (lead.toNat + 1) ++ '.' :: ds.drop (lead.toNat + 1)
    else '0' :: '.' :: List.replicate (-lead - 1).toNat '0' ++ ds
  else
    let head := ds.take 1
    let tail := ds.drop 1
    head ++ (if tail = [] then [] else '.' :: tail) ++ ['e', if 0 ≤ lead then '+' else '-']
      ++ Nat.toDigits 10 lead.natAbs

/-- The text of a signed magnitude. -/
def text (negative : Bool) (x : Binary64) : String :=
  String.ofList ((if negative then ['-'] else []) ++ x.shortest.chars .message)

end Binary64

end Courier
