import Courier.Json.Grammar
import Courier.Json.Writer
import Courier.Proofs.Acting
import Courier.Proofs.Text.Utf8

/-!
# String tokens

Reading a string token gives back the text it was written for (`text_writeText`), whatever
characters it holds and whatever follows it.
-/

namespace Courier.Json
set_option autoImplicit false
open Reading

theorem isPlain_of_high {b : UInt8} (h : 0x80 ≤ b.toNat) : IsPlain b := by
  refine ⟨?_, ?_, by omega⟩
  · rintro rfl
    exact absurd h (by decide)
  · rintro rfl
    exact absurd h (by decide)

/-- The octets of a character that is written as it is. -/
theorem isPlain_of_mem_encodeChar {c : Char} (quote : c ≠ '"') (slash : c ≠ '\\')
    (graphic : 0x20 ≤ c.toNat) {b : UInt8} (hb : b ∈ Utf8.encodeChar c) : IsPlain b := by
  by_cases ascii : c.toNat < 0x80
  · rw [Utf8.encodeChar_ascii ascii, List.mem_singleton] at hb
    have code : b.toNat = c.toNat := by rw [hb, Utf8.toNat_ofNat_lt (by omega)]
    refine ⟨?_, ?_, by omega⟩
    · rintro rfl
      exact quote (Char.toNat_inj.1 code.symm)
    · rintro rfl
      exact slash (Char.toNat_inj.1 code.symm)
  · exact isPlain_of_high (Utf8.high_of_mem_encodeChar (by omega) hb)

/-- An escaped character is one that is written as it is, or a backslash and a letter, or a
backslash and four digits. -/
theorem escapeChar_cases (c : Char) :
    (escapeChar c = [c] ∧ ∀ b ∈ Utf8.encodeChar c, IsPlain b) ∨
      (∃ e, Utf8.encodeChars (escapeChar c) = [octet '\\', e] ∧ e ≠ octet 'u' ∧
        ∃ x, plainEscape? e = some x ∧ Utf8.encodeChar c = [x]) ∨
      (∃ h l, Utf8.encodeChars (escapeChar c)
          = [octet '\\', octet 'u', octet '0', octet '0', h, l] ∧
        hex4? (octet '0') (octet '0') h l = some c.toNat ∧ c.toNat < 0x20 ∧
        Hex.isDigit (Char.ofNat h.toNat) = true ∧ Hex.isDigit (Char.ofNat l.toNat) = true) := by
  have code {n : Nat} (h : c.toNat = n) : c = Char.ofNat n := by rw [← h, Char.ofNat_toNat]
  unfold escapeChar
  by_cases quote : c = '"'
  · rw [if_pos quote, quote]
    exact .inr (.inl ⟨octet '"', rfl, by decide, _, rfl, rfl⟩)
  rw [if_neg quote]
  by_cases slash : c = '\\'
  · rw [if_pos slash, slash]
    exact .inr (.inl ⟨octet '\\', rfl, by decide, _, rfl, rfl⟩)
  rw [if_neg slash]
  by_cases backspace : c.toNat = 0x08
  · rw [if_pos backspace, code backspace]
    exact .inr (.inl ⟨octet 'b', rfl, by decide, _, rfl, rfl⟩)
  rw [if_neg backspace]
  by_cases tab : c.toNat = 0x09
  · rw [if_pos tab, code tab]
    exact .inr (.inl ⟨octet 't', rfl, by decide, _, rfl, rfl⟩)
  rw [if_neg tab]
  by_cases lineFeed : c.toNat = 0x0A
  · rw [if_pos lineFeed, code lineFeed]
    exact .inr (.inl ⟨octet 'n', rfl, by decide, _, rfl, rfl⟩)
  rw [if_neg lineFeed]
  by_cases formFeed : c.toNat = 0x0C
  · rw [if_pos formFeed, code formFeed]
    exact .inr (.inl ⟨octet 'f', rfl, by decide, _, rfl, rfl⟩)
  rw [if_neg formFeed]
  by_cases carriageReturn : c.toNat = 0x0D
  · rw [if_pos carriageReturn, code carriageReturn]
    exact .inr (.inl ⟨octet 'r', rfl, by decide, _, rfl, rfl⟩)
  rw [if_neg carriageReturn]
  by_cases control : c.toNat < 0x20
  · rw [if_pos control]
    right; right
    have table : ∀ n < 0x20,
        Utf8.encodeChars ['\\', 'u', '0', '0', Hex.digit (n / 16), Hex.digit (n % 16)]
            = [octet '\\', octet 'u', octet '0', octet '0', octet (Hex.digit (n / 16)),
                octet (Hex.digit (n % 16))] ∧
          hex4? (octet '0') (octet '0') (octet (Hex.digit (n / 16)))
            (octet (Hex.digit (n % 16))) = some n ∧
          Hex.isDigit (Char.ofNat (octet (Hex.digit (n / 16))).toNat) = true ∧
          Hex.isDigit (Char.ofNat (octet (Hex.digit (n % 16))).toNat) = true := by
      decide
    obtain ⟨octets, value, high, low⟩ := table _ control
    exact ⟨_, _, octets, value, control, high, low⟩
  · rw [if_neg control]
    exact .inl ⟨rfl, fun b hb => isPlain_of_mem_encodeChar quote slash (by omega) hb⟩

theorem prepend_prepend (xs ys : Octets) (r : Except Error (Octets × Octets)) :
    prepend xs (prepend ys r) = prepend (xs ++ ys) r := by
  cases r with
  | ok p => simp [prepend]
  | error e => rfl

theorem textOctets_plain {b : UInt8} (h : IsPlain b) (rest : Octets) :
    textOctets (b :: rest) = prepend [b] (textOctets rest) := by
  obtain ⟨quote, slash, graphic⟩ := h
  rw [textOctets.eq_def]
  dsimp only
  rw [if_neg quote, if_neg slash, if_neg (by omega)]

theorem textOctets_plains {bs : Octets} (h : ∀ b ∈ bs, IsPlain b) (rest : Octets) :
    textOctets (bs ++ rest) = prepend bs (textOctets rest) := by
  induction bs with
  | nil =>
    rw [List.nil_append]
    cases textOctets rest <;> rfl
  | cons b bs ih =>
    rw [List.cons_append, textOctets_plain (h b List.mem_cons_self),
      ih fun x hx => h x (List.mem_cons_of_mem b hx), prepend_prepend]
    rfl

/-- An escaped character in front of the rest of a token is read as that character. -/
theorem textOctets_escapeChar (c : Char) (rest : Octets) :
    textOctets (Utf8.encodeChars (escapeChar c) ++ rest)
      = prepend (Utf8.encodeChar c) (textOctets rest) := by
  rcases escapeChar_cases c with ⟨same, plain⟩ | ⟨e, octets, letter, x, escape, one⟩ |
    ⟨h, l, octets, value, control, -⟩
  · rw [same, Utf8.encodeChars_cons, Utf8.encodeChars_nil, List.append_nil,
      textOctets_plains plain]
  · rw [octets, one, List.cons_append, List.cons_append, List.nil_append, textOctets.eq_def]
    dsimp only
    rw [if_neg (by decide), if_pos rfl, if_neg letter, escape]
  · have trail : isTrail c.toNat = false := by simp [isTrail]; omega
    have lead : isLead c.toNat = false := by simp [isLead]; omega
    rw [octets]
    simp only [List.cons_append, List.nil_append]
    rw [textOctets.eq_def]
    dsimp only
    rw [if_neg (by decide), if_pos rfl]
    simp only [if_true, value, trail, lead, Bool.false_eq_true, if_false, Char.ofNat_toNat]

theorem textOctets_escaped (cs : List Char) (rest : Octets) :
    textOctets (Utf8.encodeChars (cs.flatMap escapeChar) ++ octet '"' :: rest)
      = .ok (Utf8.encodeChars cs, rest) := by
  induction cs with
  | nil =>
    rw [List.flatMap_nil, Utf8.encodeChars_nil, List.nil_append, textOctets.eq_def]
    exact if_pos rfl
  | cons c cs ih =>
    rw [List.flatMap_cons, Utf8.encodeChars_append, List.append_assoc, textOctets_escapeChar, ih]
    rfl

/-- The octets of a string token. -/
theorem encode_writeText (s : String) :
    Utf8.encode (writeText s)
      = octet '"' :: (Utf8.encodeChars (s.toList.flatMap escapeChar) ++ [octet '"']) := by
  rw [Utf8.encode, writeText, String.toList_ofList, writeChars, Utf8.encodeChars_cons,
    Utf8.encodeChars_append]
  rfl

/-- Reading a string token after its opening quote gives the text it was written for. -/
theorem text_escaped (s : String) (rest : Octets) :
    text (Utf8.encodeChars (s.toList.flatMap escapeChar) ++ octet '"' :: rest) = .ok (s, rest) := by
  unfold text
  rw [textOctets_escaped]
  have decoded := Utf8.decode?_encode s
  unfold Utf8.encode at decoded
  simp only [decoded]

/-- Looking at an octet that is not white space. -/
theorem peek_cons {b : UInt8} (h : isSpace b = false) (rest : Octets) :
    peek (b :: rest) = .ok (some b, b :: rest) := by
  show Except.ok (((b :: rest).dropWhile isSpace).head?, (b :: rest).dropWhile isSpace) = _
  rw [List.dropWhile_cons_of_neg (by simp [h])]
  rfl

theorem advance_cons (b : UInt8) (rest : Octets) : advance (b :: rest) = .ok ((), rest) := rfl

end Courier.Json
