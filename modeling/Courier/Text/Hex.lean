import Courier.Text.Utf8

/-!
# Hexadecimal text

Octets as pairs of digits. Main statement: `octets?_digits`, reading undoes writing; writing uses
small letters and reading takes either case.
-/

namespace Courier.Hex
set_option autoImplicit false

/-- The digit of a value below sixteen. -/
def digit (n : Nat) : Char := if n < 10 then Char.ofNat (48 + n) else Char.ofNat (87 + n)

/-- The value of a digit of either case. -/
def value? (c : Char) : Option Nat :=
  let n := c.toNat
  if 48 ≤ n ∧ n ≤ 57 then some (n - 48)
  else if 97 ≤ n ∧ n ≤ 102 then some (n - 87)
  else if 65 ≤ n ∧ n ≤ 70 then some (n - 55)
  else none

/-- Whether a character is a digit of either case. -/
def isDigit (c : Char) : Bool := (value? c).isSome

/-- The two digits of each octet, high half first. -/
def digits (bs : Octets) : List Char :=
  bs.flatMap fun b => [digit (b.toNat / 16), digit (b.toNat % 16)]

/-- The octets that pairs of digits stand for. -/
def octets? : List Char → Option Octets
  | [] => some []
  | [_] => none
  | h :: l :: rest =>
    match value? h, value? l, octets? rest with
    | some h, some l, some bs => some (UInt8.ofNat (16 * h + l) :: bs)
    | _, _, _ => none

theorem value?_digit : ∀ n < 16, value? (digit n) = some n := by decide

theorem octets?_digits (bs : Octets) : octets? (digits bs) = some bs := by
  induction bs with
  | nil => rfl
  | cons b bs ih =>
    have hb : b.toNat < 256 := b.toNat_lt
    have e : digits (b :: bs) = digit (b.toNat / 16) :: digit (b.toNat % 16) :: digits bs := by
      simp [digits]
    rw [e, octets?, value?_digit _ (by omega), value?_digit _ (by omega), ih]
    have : 16 * (b.toNat / 16) + b.toNat % 16 = b.toNat := by omega
    simp [this]

theorem length_digits (bs : Octets) : (digits bs).length = 2 * bs.length := by
  induction bs with
  | nil => rfl
  | cons b bs ih => simp [digits] at ih ⊢; omega

end Courier.Hex
