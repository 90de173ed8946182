/-!
# Decimal text

Natural numbers as decimal digits, with a fixed number of places or with as many as they need,
and the value of digits. Main statement: `value_fixed`, fixed places keep the number.
-/

namespace Courier.Digits
set_option autoImplicit false

/-- The digit of a value below ten. -/
def digit (n : Nat) : Char := Char.ofNat (48 + n % 10)

/-- The last `places` digits of a number, zeros in front. -/
def fixed : Nat → Nat → List Char
  | 0, _ => []
  | places + 1, n => fixed places (n / 10) ++ [digit n]

/-- The digits of a number, at least `places` of them. -/
def atLeast (places n : Nat) : List Char :=
  fixed (max places (Nat.toDigits 10 n).length) n

/-- The value of a digit. -/
def digitValue (c : Char) : Nat := c.toNat - 48

/-- The number that digits stand for, read after a number already read. -/
def valueFrom (n : Nat) (cs : List Char) : Nat :=
  cs.foldl (fun n c => 10 * n + digitValue c) n

/-- The number that digits stand for. -/
def value (cs : List Char) : Nat := valueFrom 0 cs

theorem digitValue_digit (n : Nat) : digitValue (digit n) = n % 10 := by
  have h : ∀ m < 10, digitValue (Char.ofNat (48 + m)) = m := by decide
  exact h _ (Nat.mod_lt _ (by decide))

theorem isDigit_digit (n : Nat) : (digit n).isDigit = true := by
  have h : ∀ m < 10, (Char.ofNat (48 + m)).isDigit = true := by decide
  exact h _ (Nat.mod_lt _ (by decide))

theorem length_fixed (places n : Nat) : (fixed places n).length = places := by
  induction places generalizing n with
  | zero => rfl
  | succ places ih => simp [fixed, ih]

theorem isDigit_of_mem_fixed {places n : Nat} {c : Char} (h : c ∈ fixed places n) :
    c.isDigit = true := by
  induction places generalizing n with
  | zero => simp [fixed] at h
  | succ places ih =>
    simp only [fixed, List.mem_append, List.mem_singleton] at h
    rcases h with h | rfl
    · exact ih h
    · exact isDigit_digit n

theorem value_fixed {places n : Nat} (h : n < Nat.pow 10 places) : value (fixed places n) = n := by
  induction places generalizing n with
  | zero => simp at h; simp [h, fixed, value, valueFrom]
  | succ places ih =>
    have hq : n / 10 < Nat.pow 10 places := by
      have h : n < Nat.pow 10 places * 10 := h
      exact Nat.div_lt_of_lt_mul (by omega)
    have := ih hq
    simp only [value, valueFrom] at this
    simp only [fixed, value, valueFrom, List.foldl_append, List.foldl_cons, List.foldl_nil, this,
      digitValue_digit]
    omega

/-- As many places as a number needs keep it. -/
theorem value_atLeast (places n : Nat) : value (atLeast places n) = n := by
  apply value_fixed
  have length : 0 < (Nat.toDigits 10 n).length := Nat.length_toDigits_pos
  exact (Nat.length_toDigits_le_iff (by decide) (by omega)).1 (Nat.le_max_right _ _)

theorem isDigit_of_mem_atLeast {places n : Nat} {c : Char} (h : c ∈ atLeast places n) :
    c.isDigit = true :=
  isDigit_of_mem_fixed h

theorem atLeast_ne_nil {places n : Nat} : atLeast places n ≠ [] := by
  intro h
  have length := length_fixed (max places (Nat.toDigits 10 n).length) n
  have pos : 0 < (Nat.toDigits 10 n).length := Nat.length_toDigits_pos
  rw [show fixed _ n = [] from h, List.length_nil] at length
  omega

end Courier.Digits
