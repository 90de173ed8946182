import Courier.Text.Utf8

/-!
# The order of texts

Texts are ordered by their characters, octets by their values, and writing a text as octets keeps
the order (`encode_lt`): what is sorted by its characters is sorted by its octets.
-/

namespace Courier.Utf8
set_option autoImplicit false

/-- Octets are compared by the first, or by the others where it is the same. -/
theorem octet_cons_lt {a b : Nat} {xs ys : Octets} (ha : a < 256) (hb : b < 256)
    (h : a < b ∨ a = b ∧ xs < ys) : UInt8.ofNat a :: xs < UInt8.ofNat b :: ys := by
  rw [List.cons_lt_cons_iff]
  rcases h with less | ⟨rfl, rest⟩
  · left
    rw [UInt8.lt_iff_toNat_lt, toNat_ofNat_lt ha, toNat_ofNat_lt hb]
    exact less
  · exact .inr ⟨rfl, rest⟩

/-- An octet that continues a character: six bits of its number. -/
theorem tail_cons_lt {m n : Nat} {xs ys : Octets}
    (h : m % 0x40 < n % 0x40 ∨ m % 0x40 = n % 0x40 ∧ xs < ys) :
    UInt8.ofNat (0x80 + m % 0x40) :: xs < UInt8.ofNat (0x80 + n % 0x40) :: ys :=
  octet_cons_lt (by omega) (by omega)
    (h.imp (fun less => by omega) fun ⟨same, rest⟩ => ⟨by omega, rest⟩)

theorem encodeChar_ne_nil (c : Char) : encodeChar c ≠ [] := by
  unfold encodeChar
  dsimp only
  repeat' split
  all_goals exact List.cons_ne_nil _ _

/-- The octets of a smaller character come first, whatever follows them. -/
theorem encodeChar_append_lt {c d : Char} (less : c.toNat < d.toNat) (xs ys : Octets) :
    encodeChar c ++ xs < encodeChar d ++ ys := by
  obtain ⟨bound, -⟩ := code_lt d
  -- a character of more octets has a greater first octet; of as many, the first that differs counts
  by_cases d1 : d.toNat < 0x80
  · simp only [encodeChar, if_pos d1, if_pos (show c.toNat < 0x80 by omega)]
    exact octet_cons_lt (by omega) (by omega) (.inl less)
  by_cases c1 : c.toNat < 0x80
  · simp only [encodeChar, if_pos c1, if_neg d1]
    repeat' split
    all_goals exact octet_cons_lt (by omega) (by omega) (.inl (by omega))
  by_cases d2 : d.toNat < 0x800
  · simp only [encodeChar, if_neg c1, if_neg d1, if_pos d2, if_pos (show c.toNat < 0x800 by omega)]
    apply octet_cons_lt (by omega) (by omega)
    by_cases first : c.toNat / 0x40 < d.toNat / 0x40
    · exact .inl (by omega)
    · exact .inr ⟨by omega, tail_cons_lt (.inl (by omega))⟩
  by_cases c2 : c.toNat < 0x800
  · simp only [encodeChar, if_neg c1, if_pos c2, if_neg d1, if_neg d2]
    split
    all_goals exact octet_cons_lt (by omega) (by omega) (.inl (by omega))
  by_cases d3 : d.toNat < 0x10000
  · simp only [encodeChar, if_neg c1, if_neg c2, if_neg d1, if_neg d2, if_pos d3,
      if_pos (show c.toNat < 0x10000 by omega)]
    apply octet_cons_lt (by omega) (by omega)
    by_cases first : c.toNat / 0x1000 < d.toNat / 0x1000
    · exact .inl (by omega)
    refine .inr ⟨by omega, tail_cons_lt ?_⟩
    by_cases second : c.toNat / 0x40 % 0x40 < d.toNat / 0x40 % 0x40
    · exact .inl second
    · exact .inr ⟨by omega, tail_cons_lt (.inl (by omega))⟩
  by_cases c3 : c.toNat < 0x10000
  · simp only [encodeChar, if_neg c1, if_neg c2, if_pos c3, if_neg d1, if_neg d2, if_neg d3]
    exact octet_cons_lt (by omega) (by omega) (.inl (by omega))
  · simp only [encodeChar, if_neg c1, if_neg c2, if_neg c3, if_neg d1, if_neg d2, if_neg d3]
    apply octet_cons_lt (by omega) (by omega)
    by_cases first : c.toNat / 0x40000 < d.toNat / 0x40000
    · exact .inl (by omega)
    refine .inr ⟨by omega, tail_cons_lt ?_⟩
    by_cases second : c.toNat / 0x1000 % 0x40 < d.toNat / 0x1000 % 0x40
    · exact .inl second
    refine .inr ⟨by omega, tail_cons_lt ?_⟩
    by_cases third : c.toNat / 0x40 % 0x40 < d.toNat / 0x40 % 0x40
    · exact .inl third
    · exact .inr ⟨by omega, tail_cons_lt (.inl (by omega))⟩

theorem encodeChars_lt {cs ds : List Char} (less : cs < ds) : encodeChars cs < encodeChars ds := by
  induction less with
  | @nil c cs =>
    cases octets : encodeChar c with
    | nil => exact absurd octets (encodeChar_ne_nil c)
    | cons b bs =>
      show [] < encodeChar c ++ encodeChars cs
      rw [octets]
      exact List.nil_lt_cons b _
  | cons _ ih => exact List.append_left_lt ih
  | rel less => exact encodeChar_append_lt less _ _

/-- Texts are ordered as their octets are. -/
theorem encode_lt {s t : String} (less : s < t) : encode s < encode t :=
  encodeChars_lt less

end Courier.Utf8
