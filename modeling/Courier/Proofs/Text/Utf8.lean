import Courier.Text.Utf8

/-!
# Well-formed octets

The strict reading of UTF-8 loses nothing: octets that have a text are the octets of that text
(`encode_eq_of_decode?`). Beside it, which octets a character is made of: one octet of seven bits
for ASCII, octets with the high bit set for every other character.
-/

namespace Courier.Utf8
set_option autoImplicit false

theorem toNat_ofNat_char {n : Nat} (h : n < 0xD800 ∨ 0xDFFF < n ∧ n < 0x110000) :
    (Char.ofNat n).toNat = n := by
  have valid : n.isValidChar := h
  unfold Char.ofNat
  rw [dif_pos valid]
  rfl

theorem encodeChars_cons (c : Char) (cs : List Char) :
    encodeChars (c :: cs) = encodeChar c ++ encodeChars cs := rfl

@[simp] theorem encodeChars_nil : encodeChars [] = [] := rfl

/-- An ASCII character is one octet. -/
theorem encodeChar_ascii {c : Char} (h : c.toNat < 0x80) :
    encodeChar c = [UInt8.ofNat c.toNat] := by
  simp [encodeChar, h]

/-- Text in ASCII has as many octets as characters. -/
theorem encodeChars_ascii {cs : List Char} (h : ∀ c ∈ cs, c.toNat < 0x80) :
    encodeChars cs = cs.map fun c => UInt8.ofNat c.toNat := by
  induction cs with
  | nil => rfl
  | cons c cs ih =>
    rw [encodeChars_cons, encodeChar_ascii (h c List.mem_cons_self),
      ih fun x hx => h x (List.mem_cons_of_mem c hx)]
    rfl

/-- Every octet of a character beyond ASCII has its high bit set. -/
theorem high_of_mem_encodeChar {c : Char} (h : 0x80 ≤ c.toNat) {b : UInt8}
    (hb : b ∈ encodeChar c) : 0x80 ≤ b.toNat := by
  obtain ⟨hmax, -⟩ := code_lt c
  unfold encodeChar at hb
  simp only [show ¬c.toNat < 0x80 by omega, if_false] at hb
  split at hb
  · simp only [List.mem_cons, List.not_mem_nil, or_false] at hb
    rcases hb with rfl | rfl <;> rw [toNat_ofNat_lt (by omega)] <;> omega
  split at hb
  · simp only [List.mem_cons, List.not_mem_nil, or_false] at hb
    rcases hb with rfl | rfl | rfl <;> rw [toNat_ofNat_lt (by omega)] <;> omega
  · simp only [List.mem_cons, List.not_mem_nil, or_false] at hb
    rcases hb with rfl | rfl | rfl | rfl <;> rw [toNat_ofNat_lt (by omega)] <;> omega

theorem isTail_iff {b : UInt8} : isTail b = true ↔ 0x80 ≤ b.toNat ∧ b.toNat ≤ 0xBF := by
  simp [isTail]

/-- The bounds that a lead octet puts on the one after it. -/
theorem mayFollow_bounds {a b : UInt8} (h : mayFollow a b = true) :
    (0x80 ≤ b.toNat ∧ b.toNat ≤ 0xBF) ∧ (a.toNat = 0xE0 → 0xA0 ≤ b.toNat) ∧
      (a.toNat = 0xED → b.toNat ≤ 0x9F) ∧ (a.toNat = 0xF0 → 0x90 ≤ b.toNat) ∧
      (a.toNat = 0xF4 → b.toNat ≤ 0x8F) := by
  simp only [mayFollow, Bool.and_eq_true, isTail_iff] at h
  obtain ⟨bounds, rest⟩ := h
  refine ⟨bounds, ?_, ?_, ?_, ?_⟩ <;> intro e <;> simpa [e] using rest

theorem ofNat_eq {a : UInt8} {n : Nat} (h : n = a.toNat) : UInt8.ofNat n = a := by
  rw [h, UInt8.ofNat_toNat]

theorem encodeChar_ofNat_ascii {a : UInt8} (h : a.toNat < 0x80) :
    encodeChar (Char.ofNat a.toNat) = [a] := by
  have code : (Char.ofNat a.toNat).toNat = a.toNat := toNat_ofNat_char (by omega)
  rw [encodeChar_ascii (by omega), code, UInt8.ofNat_toNat]

theorem encodeChar_join2 {a b : UInt8} (low : 0xC2 ≤ a.toNat) (high : a.toNat < 0xE0)
    (h : mayFollow a b = true) : encodeChar (join2 a b) = [a, b] := by
  obtain ⟨tail, -⟩ := mayFollow_bounds h
  have code : (join2 a b).toNat = (a.toNat - 0xC0) * 0x40 + (b.toNat - 0x80) :=
    toNat_ofNat_char (by omega)
  unfold encodeChar
  rw [if_neg (by omega), if_pos (by omega), ofNat_eq (a := a) (by omega),
    ofNat_eq (a := b) (by omega)]

theorem encodeChar_join3 {a b c : UInt8} (low : 0xE0 ≤ a.toNat) (high : a.toNat < 0xF0)
    (hb : mayFollow a b = true) (hc : isTail c = true) :
    encodeChar (join3 a b c) = [a, b, c] := by
  obtain ⟨tail, first, surrogate, -⟩ := mayFollow_bounds hb
  have last := isTail_iff.1 hc
  have code : (join3 a b c).toNat
      = (a.toNat - 0xE0) * 0x1000 + (b.toNat - 0x80) * 0x40 + (c.toNat - 0x80) :=
    toNat_ofNat_char (by omega)
  unfold encodeChar
  rw [if_neg (by omega), if_neg (by omega), if_pos (by omega), ofNat_eq (a := a) (by omega),
    ofNat_eq (a := b) (by omega), ofNat_eq (a := c) (by omega)]

theorem encodeChar_join4 {a b c d : UInt8} (low : 0xF0 ≤ a.toNat) (high : a.toNat < 0xF5)
    (hb : mayFollow a b = true) (hc : isTail c = true) (hd : isTail d = true) :
    encodeChar (join4 a b c d) = [a, b, c, d] := by
  obtain ⟨tail, -, -, first, last⟩ := mayFollow_bounds hb
  have third := isTail_iff.1 hc
  have fourth := isTail_iff.1 hd
  have code : (join4 a b c d).toNat
      = (a.toNat - 0xF0) * 0x40000 + (b.toNat - 0x80) * 0x1000 + (c.toNat - 0x80) * 0x40
        + (d.toNat - 0x80) :=
    toNat_ofNat_char (by omega)
  unfold encodeChar
  rw [if_neg (by omega), if_neg (by omega), if_neg (by omega), ofNat_eq (a := a) (by omega),
    ofNat_eq (a := b) (by omega), ofNat_eq (a := c) (by omega), ofNat_eq (a := d) (by omega)]

/-- Characters read without a malformed run between them. -/
theorem mapM_some_cons {c : Char} {ps : List (Option Char)} {cs : List Char}
    (h : (some c :: ps).mapM id = some cs) : ∃ tail, cs = c :: tail ∧ ps.mapM id = some tail := by
  simp only [List.mapM_cons, id, Option.pure_def, Option.bind_eq_bind, Option.bind_some,
    Option.bind_eq_some_iff, Option.some.injEq] at h
  obtain ⟨tail, htail, rfl⟩ := h
  exact ⟨tail, rfl, htail⟩

theorem mapM_none_cons {ps : List (Option Char)} {cs : List Char}
    (h : (none :: ps).mapM id = some cs) : False := by
  simp [List.mapM_cons] at h

theorem encodeChars_eq_of_decodeChars? {bs : Octets} {cs : List Char}
    (h : decodeChars? bs = some cs) : encodeChars cs = bs := by
  unfold decodeChars? at h
  fun_induction pieces bs generalizing cs
  case case1 => simp at h; simp [h]
  case case2 a rest ha ih =>
    obtain ⟨tail, rfl, htail⟩ := mapM_some_cons h
    rw [encodeChars_cons, encodeChar_ofNat_ascii ha, ih htail]; rfl
  case case5 a h1 h2 h3 b rest hb ih =>
    obtain ⟨tail, rfl, htail⟩ := mapM_some_cons h
    rw [encodeChars_cons, encodeChar_join2 (by omega) h3 hb, ih htail]; rfl
  case case9 a h1 h2 h3 h4 b hb c rest hc ih =>
    obtain ⟨tail, rfl, htail⟩ := mapM_some_cons h
    rw [encodeChars_cons, encodeChar_join3 (by omega) h4 hb hc, ih htail]; rfl
  case case15 a h1 h2 h3 h4 h5 b hb c hc d rest hd ih =>
    obtain ⟨tail, rfl, htail⟩ := mapM_some_cons h
    rw [encodeChars_cons, encodeChar_join4 (by omega) h5 hb hc hd, ih htail]; rfl
  -- a malformed run has no text
  all_goals exact (mapM_none_cons h).elim

/-- The lenient reading undoes writing as well. -/
theorem decodeLossy_encode (s : String) : decodeLossy (encode s) = s := by
  have cut := pieces_encodeChars s.toList []
  rw [List.append_nil] at cut
  unfold decodeLossy encode
  rw [cut]
  simp [pieces, Function.comp_def]

/-- Octets that have a text are the octets of that text. -/
theorem encode_eq_of_decode? {bs : Octets} {s : String} (h : decode? bs = some s) :
    encode s = bs := by
  obtain ⟨cs, hcs, rfl⟩ := Option.map_eq_some_iff.1 h
  rw [encode, String.toList_ofList]
  exact encodeChars_eq_of_decodeChars? hcs

end Courier.Utf8
