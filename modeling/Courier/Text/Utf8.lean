/-!
# UTF-8

Text as octets and back. `pieces` cuts any octets into characters and malformed runs; the strict
reading (`decode?`) refuses a malformed run, the lenient one (`decodeLossy`) puts U+FFFD in its
place. Main statement: `decode?_encode`, the strict reading undoes writing.
-/

namespace Courier

/-- A sequence of octets, as a message body or a header value carries it. -/
abbrev Octets := List UInt8

namespace Utf8
set_option autoImplicit false

/-- The octets of one character, most significant bits first. -/
def encodeChar (c : Char) : Octets :=
  let n := c.toNat
  if n < 0x80 then [UInt8.ofNat n]
  else if n < 0x800 then [UInt8.ofNat (0xC0 + n / 0x40), UInt8.ofNat (0x80 + n % 0x40)]
  else if n < 0x10000 then
    [UInt8.ofNat (0xE0 + n / 0x1000), UInt8.ofNat (0x80 + n / 0x40 % 0x40),
      UInt8.ofNat (0x80 + n % 0x40)]
  else
    [UInt8.ofNat (0xF0 + n / 0x40000), UInt8.ofNat (0x80 + n / 0x1000 % 0x40),
      UInt8.ofNat (0x80 + n / 0x40 % 0x40), UInt8.ofNat (0x80 + n % 0x40)]

/-- The octets of a list of characters. -/
def encodeChars (cs : List Char) : Octets := cs.flatMap encodeChar

/-- The octets of a text. -/
def encode (s : String) : Octets := encodeChars s.toList

/-- An octet that continues a character. -/
def isTail (b : UInt8) : Bool := decide (0x80 ≤ b.toNat) && decide (b.toNat ≤ 0xBF)

/-- The octets allowed right after the lead octet `a`. Four leads narrow the range, so that no
character has two spellings, none is a surrogate and none exceeds U+10FFFF. -/
def mayFollow (a b : UInt8) : Bool :=
  isTail b &&
    (if a.toNat = 0xE0 then decide (0xA0 ≤ b.toNat)
    else if a.toNat = 0xED then decide (b.toNat ≤ 0x9F)
    else if a.toNat = 0xF0 then decide (0x90 ≤ b.toNat)
    else if a.toNat = 0xF4 then decide (b.toNat ≤ 0x8F)
    else true)

/-- The character of two, three or four octets. -/
def join2 (a b : UInt8) : Char := Char.ofNat ((a.toNat - 0xC0) * 0x40 + (b.toNat - 0x80))

@[inherit_doc join2]
def join3 (a b c : UInt8) : Char :=
  Char.ofNat ((a.toNat - 0xE0) * 0x1000 + (b.toNat - 0x80) * 0x40 + (c.toNat - 0x80))

@[inherit_doc join2]
def join4 (a b c d : UInt8) : Char :=
  Char.ofNat ((a.toNat - 0xF0) * 0x40000 + (b.toNat - 0x80) * 0x1000 + (c.toNat - 0x80) * 0x40
    + (d.toNat - 0x80))

/-- Cuts octets into characters and malformed runs (`none`), each run the longest start of a
character that cannot be completed, or a single octet. -/
def pieces : Octets → List (Option Char)
  | [] => []
  | a :: rest =>
    if a.toNat < 0x80 then some (Char.ofNat a.toNat) :: pieces rest
    else if a.toNat < 0xC2 then none :: pieces rest
    else if a.toNat < 0xE0 then
      match rest with
      | [] => [none]
      | b :: rest =>
        if mayFollow a b then some (join2 a b) :: pieces rest else none :: pieces (b :: rest)
    else if a.toNat < 0xF0 then
      match rest with
      | [] => [none]
      | b :: rest =>
        if mayFollow a b then
          match rest with
          | [] => [none]
          | c :: rest =>
            if isTail c then some (join3 a b c) :: pieces rest else none :: pieces (c :: rest)
        else none :: pieces (b :: rest)
    else if a.toNat < 0xF5 then
      match rest with
      | [] => [none]
      | b :: rest =>
        if mayFollow a b then
          match rest with
          | [] => [none]
          | c :: rest =>
            if isTail c then
              match rest with
              | [] => [none]
              | d :: rest =>
                if isTail d then some (join4 a b c d) :: pieces rest else none :: pieces (d :: rest)
            else none :: pieces (c :: rest)
        else none :: pieces (b :: rest)
    else none :: pieces rest

/-- The characters of well-formed octets, none when a run is malformed. -/
def decodeChars? (bs : Octets) : Option (List Char) := (pieces bs).mapM id

/-- The text of well-formed octets. -/
def decode? (bs : Octets) : Option String := (decodeChars? bs).map String.ofList

/-- The text of any octets, with U+FFFD for every malformed run. -/
def decodeLossy (bs : Octets) : String := String.ofList ((pieces bs).map (·.getD '\uFFFD'))

theorem encodeChars_append (xs ys : List Char) :
    encodeChars (xs ++ ys) = encodeChars xs ++ encodeChars ys := by
  simp [encodeChars]

theorem encode_append (s t : String) : encode (s ++ t) = encode s ++ encode t := by
  simp [encode, encodeChars_append]

theorem code_lt (c : Char) : c.toNat < 0x110000 ∧ ¬(0xD800 ≤ c.toNat ∧ c.toNat ≤ 0xDFFF) := by
  have h := c.valid
  simp only [UInt32.isValidChar, Nat.isValidChar] at h
  change c.toNat < 0xD800 ∨ 0xDFFF < c.toNat ∧ c.toNat < 0x110000 at h
  omega

theorem toNat_ofNat_lt {n : Nat} (h : n < 256) : (UInt8.ofNat n).toNat = n := by
  simp [Nat.mod_eq_of_lt h]

/-- A character's octets stand for that character, whatever follows them. -/
theorem pieces_encodeChar (c : Char) (rest : Octets) :
    pieces (encodeChar c ++ rest) = some c :: pieces rest := by
  obtain ⟨hmax, hsur⟩ := code_lt c
  by_cases h1 : c.toNat < 0x80
  · have ha : (UInt8.ofNat c.toNat).toNat = c.toNat := toNat_ofNat_lt (by omega)
    simp only [encodeChar, h1, if_true, List.cons_append, List.nil_append]
    rw [pieces.eq_def]
    simp only [ha, h1, if_true, Char.ofNat_toNat]
  by_cases h2 : c.toNat < 0x800
  · have ha : (UInt8.ofNat (0xC0 + c.toNat / 0x40)).toNat = 0xC0 + c.toNat / 0x40 :=
      toNat_ofNat_lt (by omega)
    have hb : (UInt8.ofNat (0x80 + c.toNat % 0x40)).toNat = 0x80 + c.toNat % 0x40 :=
      toNat_ofNat_lt (by omega)
    simp only [encodeChar, h1, h2, if_true, if_false, List.cons_append, List.nil_append]
    rw [pieces.eq_def]
    simp only [ha, mayFollow, isTail, hb, join2]
    have e : (0xC0 + c.toNat / 0x40 - 0xC0) * 0x40 + (0x80 + c.toNat % 0x40 - 0x80) = c.toNat := by
      omega
    rw [e, Char.ofNat_toNat]
    have t1 : ¬(0xC0 + c.toNat / 0x40 < 0x80) := by omega
    have t2 : ¬(0xC0 + c.toNat / 0x40 < 0xC2) := by omega
    have t3 : 0xC0 + c.toNat / 0x40 < 0xE0 := by omega
    simp only [t1, t2, t3, if_true, if_false]
    rw [if_pos]
    simp only [Bool.and_eq_true, decide_eq_true_eq]
    refine ⟨by omega, ?_⟩
    rw [if_neg (by omega), if_neg (by omega), if_neg (by omega), if_neg (by omega)]
  by_cases h3 : c.toNat < 0x10000
  · have ha : (UInt8.ofNat (0xE0 + c.toNat / 0x1000)).toNat = 0xE0 + c.toNat / 0x1000 :=
      toNat_ofNat_lt (by omega)
    have hb : (UInt8.ofNat (0x80 + c.toNat / 0x40 % 0x40)).toNat = 0x80 + c.toNat / 0x40 % 0x40 :=
      toNat_ofNat_lt (by omega)
    have hc : (UInt8.ofNat (0x80 + c.toNat % 0x40)).toNat = 0x80 + c.toNat % 0x40 :=
      toNat_ofNat_lt (by omega)
    simp only [encodeChar, h1, h2, h3, if_true, if_false, List.cons_append, List.nil_append]
    rw [pieces.eq_def]
    simp only [ha, mayFollow, isTail, hb, hc, join3]
    have e : (0xE0 + c.toNat / 0x1000 - 0xE0) * 0x1000
        + (0x80 + c.toNat / 0x40 % 0x40 - 0x80) * 0x40
        + (0x80 + c.toNat % 0x40 - 0x80) = c.toNat := by omega
    rw [e, Char.ofNat_toNat]
    have t2 : ¬(0xE0 + c.toNat / 0x1000 < 0x80) := by omega
    have t3 : ¬(0xE0 + c.toNat / 0x1000 < 0xC2) := by omega
    have t4 : ¬(0xE0 + c.toNat / 0x1000 < 0xE0) := by omega
    have t5 : 0xE0 + c.toNat / 0x1000 < 0xF0 := by omega
    simp only [t2, t3, t4, t5, if_true, if_false]
    rw [if_pos, if_pos]
    · simp; omega
    · simp only [Bool.and_eq_true, decide_eq_true_eq]
      refine ⟨by omega, ?_⟩
      split
      · simp; omega
      · split
        · simp; omega
        · split
          · omega
          · split
            · omega
            · rfl
  · have ha : (UInt8.ofNat (0xF0 + c.toNat / 0x40000)).toNat = 0xF0 + c.toNat / 0x40000 :=
      toNat_ofNat_lt (by omega)
    have hb : (UInt8.ofNat (0x80 + c.toNat / 0x1000 % 0x40)).toNat
        = 0x80 + c.toNat / 0x1000 % 0x40 :=
      toNat_ofNat_lt (by omega)
    have hc : (UInt8.ofNat (0x80 + c.toNat / 0x40 % 0x40)).toNat = 0x80 + c.toNat / 0x40 % 0x40 :=
      toNat_ofNat_lt (by omega)
    have hd : (UInt8.ofNat (0x80 + c.toNat % 0x40)).toNat = 0x80 + c.toNat % 0x40 :=
      toNat_ofNat_lt (by omega)
    simp only [encodeChar, h1, h2, h3, if_false, List.cons_append, List.nil_append]
    rw [pieces.eq_def]
    simp only [ha, mayFollow, isTail, hb, hc, hd, join4]
    have e : (0xF0 + c.toNat / 0x40000 - 0xF0) * 0x40000
        + (0x80 + c.toNat / 0x1000 % 0x40 - 0x80) * 0x1000
        + (0x80 + c.toNat / 0x40 % 0x40 - 0x80) * 0x40
        + (0x80 + c.toNat % 0x40 - 0x80) = c.toNat := by omega
    rw [e, Char.ofNat_toNat]
    have t2 : ¬(0xF0 + c.toNat / 0x40000 < 0x80) := by omega
    have t3 : ¬(0xF0 + c.toNat / 0x40000 < 0xC2) := by omega
    have t4 : ¬(0xF0 + c.toNat / 0x40000 < 0xE0) := by omega
    have t5 : ¬(0xF0 + c.toNat / 0x40000 < 0xF0) := by omega
    have t6 : 0xF0 + c.toNat / 0x40000 < 0xF5 := by omega
    simp only [t2, t3, t4, t5, t6, if_true, if_false]
    rw [if_pos, if_pos, if_pos]
    · simp; omega
    · simp; omega
    · simp only [Bool.and_eq_true, decide_eq_true_eq]
      refine ⟨by omega, ?_⟩
      split
      · omega
      · split
        · omega
        · split
          · simp; omega
          · split
            · simp; omega
            · rfl

theorem pieces_encodeChars (cs : List Char) (rest : Octets) :
    pieces (encodeChars cs ++ rest) = cs.map some ++ pieces rest := by
  induction cs with
  | nil => rfl
  | cons c cs ih =>
    have : encodeChars (c :: cs) = encodeChar c ++ encodeChars cs := by simp [encodeChars]
    rw [this, List.append_assoc, pieces_encodeChar, ih]
    rfl

theorem decodeChars?_encodeChars (cs : List Char) : decodeChars? (encodeChars cs) = some cs := by
  have h := pieces_encodeChars cs []
  rw [List.append_nil] at h
  simp only [decodeChars?, h, pieces, List.append_nil]
  induction cs with
  | nil => rfl
  | cons c cs ih =>
    have h' := pieces_encodeChars cs []
    rw [List.append_nil] at h'
    simp [ih h']

/-- Reading undoes writing. -/
theorem decode?_encode (s : String) : decode? (encode s) = some s := by
  simp [decode?, encode, decodeChars?_encodeChars]

end Utf8

end Courier
