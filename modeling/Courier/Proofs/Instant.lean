import Courier.Instant.Reader
import Courier.Proofs.Acting

/-!
# The text of an instant

Reading the text of an instant gives the instant back (`Instant.parse_text`), whatever its year, its
fraction and its second. Each part of the text has its own lemma: what the part's reader makes of
the part with more text behind it.
-/

namespace Courier
set_option autoImplicit false

namespace Text

theorem trimStart_cons {c : Char} (h : isBlank c = false) (cs : List Char) :
    trimStart (c :: cs) = c :: cs := by
  simp [trimStart, List.dropWhile, h]

end Text

namespace Digits

theorem fixed_cons (places n : Nat) : ∃ c cs, fixed (places + 1) n = c :: cs := by
  apply List.exists_cons_of_ne_nil
  intro h
  have length := length_fixed (places + 1) n
  rw [h] at length
  cases length

end Digits

namespace Instant.Reader
open Reading

/-- The front of a text, all digits, as far as a bound allows. -/
theorem digits_some {ds rest : List Char} (digit : ∀ c ∈ ds, c.isDigit = true) (ne : ds ≠ []) :
    digits (some ds.length) (ds ++ rest) = .ok (ds, rest) := by
  cases ds with
  | nil => exact absurd rfl ne
  | cons d ds =>
    have first : d.isDigit = true := digit d List.mem_cons_self
    have all : (d :: ds).takeWhile Char.isDigit = d :: ds := by
      rw [← List.append_nil (d :: ds), List.takeWhile_append_of_pos digit, List.takeWhile_nil]
    simp only [digits, List.cons_append, first, if_true]
    rw [← List.cons_append, List.take_left' rfl, all, List.drop_left' rfl]

/-- The front of a text up to the first character that is not a digit. -/
theorem digits_none {ds rest : List Char} {c : Char} (digit : ∀ d ∈ ds, d.isDigit = true)
    (ne : ds ≠ []) (stop : c.isDigit = false) :
    digits none (ds ++ c :: rest) = .ok (ds, c :: rest) := by
  cases ds with
  | nil => exact absurd rfl ne
  | cons d ds =>
    have first : d.isDigit = true := digit d List.mem_cons_self
    have all : ((d :: ds) ++ c :: rest).takeWhile Char.isDigit = d :: ds := by
      rw [List.takeWhile_append_of_pos digit, List.takeWhile_cons_of_neg (by simp [stop]),
        List.append_nil]
    simp only [digits, List.cons_append, first, if_true]
    rw [← List.cons_append, all, List.drop_left' rfl]

theorem blanks_cons {c : Char} (h : Text.isBlank c = false) (cs : List Char) :
    blanks (c :: cs) = .ok ((), c :: cs) := by
  show Except.ok ((), Text.trimStart (c :: cs)) = _
  rw [Text.trimStart_cons h]

theorem blanks_fixed (places n : Nat) (rest : List Char) :
    blanks (Digits.fixed (places + 1) n ++ rest) = .ok ((), Digits.fixed (places + 1) n ++ rest) := by
  obtain ⟨c, cs, h⟩ := Digits.fixed_cons places n
  have digit : c.isDigit = true := by
    have mem : c ∈ Digits.fixed (places + 1) n := h ▸ List.mem_cons_self
    exact Digits.isDigit_of_mem_fixed mem
  rw [h]
  exact blanks_cons (Text.not_isBlank_of_isDigit digit) (cs ++ rest)

theorem digits_fixed (places n : Nat) (rest : List Char) :
    digits (some (places + 1)) (Digits.fixed (places + 1) n ++ rest)
      = .ok (Digits.fixed (places + 1) n, rest) := by
  have length := Digits.length_fixed (places + 1) n
  have ne : Digits.fixed (places + 1) n ≠ [] := by
    intro h
    rw [h] at length
    cases length
  have read : digits _ (Digits.fixed (places + 1) n ++ rest) = _ :=
    digits_some (fun _ => Digits.isDigit_of_mem_fixed) ne
  rwa [length] at read

/-- A number of two places, within bounds that two places hold. -/
theorem number_fixed {low high n : Nat} (two : high < 100) (ge : low ≤ n) (le : n ≤ high)
    (rest : List Char) : number 2 low high (Digits.fixed 2 n ++ rest) = .ok (n, rest) := by
  have bound : n < Nat.pow 10 2 := Nat.lt_of_le_of_lt le two
  unfold number
  rw [bind_ok (blanks_fixed 1 n rest), bind_ok (digits_fixed 1 n rest)]
  simp only [Digits.value_fixed bound, ge, le, and_self, if_true]
  rfl

theorem separator_cons {c : Char} (h : Text.isBlank c = false) (rest : List Char) :
    separator c (c :: rest) = .ok ((), rest) := by
  unfold separator
  rw [bind_ok (blanks_cons h rest)]
  show (if c = c then set rest else throw ParseError.invalid : Reader Unit) (c :: rest) = _
  rw [if_pos rfl]
  rfl

theorem year_minus {ds rest : List Char} {c : Char} (digit : ∀ d ∈ ds, d.isDigit = true)
    (ne : ds ≠ []) (stop : c.isDigit = false) (le : Digits.value ds ≤ 2147483648) :
    year ('-' :: (ds ++ c :: rest)) = .ok (-(Digits.value ds : Int), c :: rest) := by
  show (digits none >>= fun ds => if Digits.value ds ≤ 2147483648 then
    pure (-(Digits.value ds : Int)) else throw .outOfRange : Reader Int) (ds ++ c :: rest) = _
  rw [bind_ok (digits_none digit ne stop), if_pos le]
  rfl

theorem year_plus {ds rest : List Char} {c : Char} (digit : ∀ d ∈ ds, d.isDigit = true)
    (ne : ds ≠ []) (stop : c.isDigit = false) (le : Digits.value ds ≤ 2147483647) :
    year ('+' :: (ds ++ c :: rest)) = .ok ((Digits.value ds : Int), c :: rest) := by
  show (digits none >>= fun ds => if Digits.value ds ≤ 2147483647 then
    pure (Digits.value ds : Int) else throw .outOfRange : Reader Int) (ds ++ c :: rest) = _
  rw [bind_ok (digits_none digit ne stop), if_pos le]
  rfl

/-- A year whose first character is a digit has no sign. -/
theorem year_unsigned {c : Char} {cs ds rest : List Char} (digit : c.isDigit = true)
    (front : digits (some 4) (c :: cs) = .ok (ds, rest)) :
    year (c :: cs) = .ok ((Digits.value ds : Int), rest) := by
  have minus : c ≠ '-' := by rintro rfl; cases digit
  have plus : c ≠ '+' := by rintro rfl; cases digit
  unfold year
  rw [bind_ok (blanks_cons (Text.not_isBlank_of_isDigit digit) cs), bind_ok (a := c :: cs) rfl]
  simp only [List.cons.injEq, minus, plus, false_and, imp_false, not_false_eq_true, implies_true]
  rw [bind_ok front]
  rfl

theorem year_fixed {n : Nat} (bound : n < 10000) (rest : List Char) :
    year (Digits.fixed 4 n ++ rest) = .ok ((n : Int), rest) := by
  have front := digits_fixed 3 n rest
  obtain ⟨c, cs, h⟩ := Digits.fixed_cons 3 n
  have digit : c.isDigit = true := by
    have mem : c ∈ Digits.fixed 4 n := h ▸ List.mem_cons_self
    exact Digits.isDigit_of_mem_fixed mem
  rw [h, List.cons_append] at front ⊢
  rw [year_unsigned digit front, ← h, Digits.value_fixed bound]

/-- The year of an instant's text, signed or not, with the hyphen after it. -/
theorem year_yearChars {y : Int} (ge : firstYear ≤ y) (le : y ≤ lastYear) (rest : List Char) :
    year (yearChars y ++ '-' :: rest) = .ok (y, '-' :: rest) := by
  unfold firstYear at ge
  unfold lastYear at le
  unfold yearChars
  split
  · next h =>
    rw [year_fixed (by omega)]
    congr 2
    omega
  split
  · next h =>
    rw [List.cons_append, year_plus (fun _ => Digits.isDigit_of_mem_atLeast)
      Digits.atLeast_ne_nil rfl (by rw [Digits.value_atLeast]; omega), Digits.value_atLeast]
    congr 2
    omega
  · rw [List.cons_append, year_minus (fun _ => Digits.isDigit_of_mem_atLeast)
      Digits.atLeast_ne_nil rfl (by rw [Digits.value_atLeast]; omega), Digits.value_atLeast]
    congr 2
    omega

theorem betweenDateAndTime_cons (rest : List Char) :
    betweenDateAndTime ('T' :: rest) = .ok ((), rest) := rfl

theorem nanoseconds_point {ds rest : List Char} {c : Char} (digit : ∀ d ∈ ds, d.isDigit = true)
    (ne : ds ≠ []) (le : ds.length ≤ 9) (stop : c.isDigit = false) :
    nanoseconds ('.' :: (ds ++ c :: rest))
      = .ok (Digits.value ds * Nat.pow 10 (9 - ds.length), c :: rest) := by
  show (digits none >>= fun ds =>
    pure (Digits.value (ds.take 9) * Nat.pow 10 (9 - (ds.take 9).length)) : Reader Nat)
      (ds ++ c :: rest) = _
  rw [bind_ok (digits_none digit ne stop), List.take_of_length_le le]
  rfl

/-- A fraction is read as the nanoseconds it was written for, however many of its digits were
dropped. -/
theorem nanoseconds_fraction {nano : Nat} (bound : nano < 1000000000) (rest : List Char) :
    nanoseconds (fraction nano ++ 'Z' :: rest) = .ok (nano, 'Z' :: rest) := by
  have point (places unit n : Nat) (pos : 0 < places) (le : places ≤ 9)
      (last : Nat.pow 10 (9 - places) = unit) (small : n < Nat.pow 10 places) :
      nanoseconds ('.' :: Digits.fixed places n ++ 'Z' :: rest)
        = .ok (n * unit, 'Z' :: rest) := by
    have length := Digits.length_fixed places n
    rw [List.cons_append, nanoseconds_point (fun _ => Digits.isDigit_of_mem_fixed) _ _ rfl,
      Digits.value_fixed small, length, last]
    · intro h
      rw [h] at length
      simp at length
      omega
    · omega
  unfold fraction
  split
  · next h => rw [h]; rfl
  split
  · have small : nano / 1000000 < 1000 := by omega
    rw [point 3 1000000 (nano / 1000000) (by decide) (by decide) rfl small]
    congr 2
    omega
  split
  · have small : nano / 1000 < 1000000 := by omega
    rw [point 6 1000 (nano / 1000) (by decide) (by decide) rfl small]
    congr 2
    omega
  · rw [point 9 1 nano (by decide) (by decide) rfl bound, Nat.mul_one]

theorem zone_universal : zone ['Z'] = .ok (0, []) := rfl

theorem finished_nil : finished [] = .ok ((), []) := rfl

end Instant.Reader

theorem Date.ofYmd?_self (d : Date) : Date.ofYmd? d.year d.month d.day = some d := by
  rw [Date.ofYmd?, dif_pos ⟨⟨d.month_pos, d.month_le⟩, d.day_pos, d.day_le⟩]

theorem daysInMonth_le (year : Int) (month : Nat) : daysInMonth year month ≤ 31 := by
  unfold daysInMonth
  split
  · split <;> decide
  · split <;> decide

namespace Instant
open Reading

/-- A local time without an offset is the instant itself. -/
theorem ofLocal_self (t : Instant) :
    ofLocal t.date.year t.date.month t.date.day t.hour t.minute t.second t.nano 0 = .ok t := by
  have year := t.year_ge
  have year' := t.year_le
  have hour := t.hour_lt
  have minute := t.minute_lt
  have second := t.second_le
  have nano := t.nano_lt
  have time : shift t.date (((t.hour * 60 + t.minute : Nat) : Int) - 0)
      = (t.date, t.hour * 60 + t.minute) := by
    rw [shift, if_neg (by omega), if_neg (by omega)]
    rfl
  unfold ofLocal
  rw [if_neg (by omega), Date.ofYmd?_self]
  dsimp only
  rw [if_neg (by omega), time]
  dsimp only
  rw [dif_pos ⟨year, year'⟩, dif_pos ⟨by omega, second, nano⟩]
  congr 1
  obtain ⟨date, h, m, s, n, _, _, _, _, _, _⟩ := t
  congr 1
  · show (h * 60 + m) / 60 = h
    omega
  · show (h * 60 + m) % 60 = m
    omega

theorem reader_chars (t : Instant) : reader t.chars = .ok (t, []) := by
  have day := t.date.day_le
  have days := daysInMonth_le t.date.year t.date.month
  have hour : t.hour ≤ 23 := Nat.le_of_lt_succ t.hour_lt
  have minute : t.minute ≤ 59 := Nat.le_of_lt_succ t.minute_lt
  unfold reader chars
  simp only [List.append_assoc, List.cons_append]
  rw [bind_ok (Reader.year_yearChars t.year_ge t.year_le _),
    bind_ok (Reader.separator_cons rfl _),
    bind_ok (Reader.number_fixed (by decide) t.date.month_pos t.date.month_le _),
    bind_ok (Reader.separator_cons rfl _),
    bind_ok (Reader.number_fixed (by decide) t.date.day_pos (by omega) _),
    bind_ok (Reader.betweenDateAndTime_cons _),
    bind_ok (Reader.number_fixed (by decide) (Nat.zero_le _) hour _),
    bind_ok (Reader.separator_cons rfl _),
    bind_ok (Reader.number_fixed (by decide) (Nat.zero_le _) minute _),
    bind_ok (Reader.separator_cons rfl _),
    bind_ok (Reader.number_fixed (by decide) (Nat.zero_le _) t.second_le _),
    bind_ok (Reader.nanoseconds_fraction t.nano_lt _), bind_ok Reader.zone_universal,
    bind_ok Reader.finished_nil]
  show (ofLocal _ _ _ _ _ _ _ 0).map (fun t => (t, ([] : List Char))) = _
  rw [ofLocal_self]
  rfl

/-- Reading the text of an instant gives it back. -/
theorem parse_text (t : Instant) : parse t.text = .ok t := by
  rw [parse, text, String.toList_ofList, reader_chars]
  rfl

end Instant

end Courier
