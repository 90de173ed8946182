import Courier.Json.Spelling
import Courier.Proofs.Json.Value

/-!
# Reading what a string says

A string is read as the text it says, however that is spelled, and whatever is read as a text says
it (`text_iff`).
-/

namespace Courier.Json
set_option autoImplicit false

variable {b : UInt8} {c : Char} {cs : List Char} {bs content rest escape : Octets}

/-! ## Spellings are read -/

theorem plainEscape?_ascii {e b : UInt8} (known : plainEscape? e = some b) :
    b.toNat < 0x80 ∧ e ≠ octet 'u' := by
  constructor
  · unfold plainEscape? at known
    repeat' split at known
    all_goals cases known; try decide
  · rintro rfl
    cases known

theorem hex4?_isDigit {i j k l : UInt8} {n : Nat} (value : hex4? i j k l = some n) :
    ∀ d ∈ [i, j, k, l], Hex.isDigit (Char.ofNat d.toNat) = true := by
  unfold hex4? at value
  simp only [Option.bind_eq_bind, Option.bind_eq_some_iff] at value
  obtain ⟨_, first, _, second, _, third, _, fourth, _⟩ := value
  simp [Hex.isDigit, first, second, third, fourth]

/-- An escape in front of the rest of a string. -/
theorem Escapes.textOctets (h : Escapes escape c) (rest : Octets) :
    textOctets (escape ++ rest) = prepend (Utf8.encodeChar c) (textOctets rest) := by
  obtain ⟨max, surrogate⟩ := Utf8.code_lt c
  cases h with
  | @letter e b known =>
    obtain ⟨ascii, letter⟩ := plainEscape?_ascii known
    rw [Utf8.encodeChar_ofNat_ascii ascii]
    simp only [List.cons_append, List.nil_append]
    rw [textOctets.eq_def]
    dsimp only
    rw [if_neg (by decide), if_pos rfl, if_neg letter, known]
  | code value =>
    have trail : isTrail c.toNat = false := by simp [isTrail]; omega
    have lead : isLead c.toNat = false := by simp [isLead]; omega
    simp only [List.cons_append, List.nil_append]
    rw [textOctets.eq_def]
    dsimp only
    rw [if_neg (by decide), if_pos rfl]
    simp only [if_true, value, trail, lead, Bool.false_eq_true, if_false, Char.ofNat_toNat]
  | @pair i j k l i' j' k' l' lead trail _ first second bounds value =>
    have notTrail : isTrail (0xD800 + lead) = false := by simp [isTrail]; omega
    have isLead : isLead (0xD800 + lead) = true := by simp [isLead]; omega
    have isTrail : isTrail (0xDC00 + trail) = true := by simp [isTrail]; omega
    simp only [List.cons_append, List.nil_append]
    rw [textOctets.eq_def]
    dsimp only
    rw [if_neg (by decide), if_pos rfl]
    simp only [if_true, first, second, notTrail, isLead, isTrail, Bool.false_eq_true, if_false,
      ne_eq, not_true_eq_false, Nat.add_sub_cancel_left, ← value, Char.ofNat_toNat]

theorem textOctets_quote (rest : Octets) : textOctets (octet '"' :: rest) = .ok ([], rest) := by
  rw [textOctets.eq_def]
  exact if_pos rfl

/-- A string is read as the characters it says. -/
theorem Spells.textOctets (h : Spells content cs) (rest : Octets) :
    textOctets (content ++ octet '"' :: rest) = .ok (Utf8.encodeChars cs, rest) := by
  induction h with
  | nil => exact textOctets_quote rest
  | plain plain _ ih =>
    rw [List.append_assoc, textOctets_plains plain, ih]
    rfl
  | escape escapes _ ih =>
    rw [List.append_assoc, escapes.textOctets, ih]
    rfl

theorem Escapes.isContent (h : Escapes escape c) (more : IsContent bs) :
    IsContent (escape ++ bs) := by
  cases h with
  | letter known => exact .escape (by rw [known]; rfl) more
  | code value => exact .code (hex4?_isDigit value) more
  | pair first second _ _ =>
    exact .code (hex4?_isDigit first) (.code (hex4?_isDigit second) more)

theorem Spells.isContent (h : Spells content cs) : IsContent content := by
  induction h with
  | nil => exact .nil
  | plain plain _ ih => exact isContent_plains plain ih
  | escape escapes _ ih => exact escapes.isContent ih

/-! ## What is read is a spelling -/

theorem value?_lt {c : Char} {n : Nat} (value : Hex.value? c = some n) : n < 16 := by
  unfold Hex.value? at value
  dsimp only at value
  split at value
  · cases value
    omega
  split at value
  · cases value
    omega
  split at value <;> cases value
  omega

theorem hex4?_lt {i j k l : UInt8} {n : Nat} (value : hex4? i j k l = some n) : n < 0x10000 := by
  unfold hex4? at value
  simp only [Option.bind_eq_bind, Option.bind_eq_some_iff] at value
  obtain ⟨a, first, b, second, c, third, d, fourth, sum⟩ := value
  cases sum
  have := value?_lt first
  have := value?_lt second
  have := value?_lt third
  have := value?_lt fourth
  omega

/-- The code of an escape that is not a surrogate. -/
theorem Escapes.ofCode {i j k l : UInt8} {n : Nat} (value : hex4? i j k l = some n)
    (trail : ¬ isTrail n = true) (lead : ¬ isLead n = true) :
    Escapes [octet '\\', octet 'u', i, j, k, l] (Char.ofNat n) := by
  have bound := hex4?_lt value
  simp only [isTrail, isLead, Bool.and_eq_true, decide_eq_true_eq] at trail lead
  exact .code (by rw [value, Utf8.toNat_ofNat_char (by omega)])

/-- The codes of an escape that are two surrogates. -/
theorem Escapes.ofPair {i j k l i' j' k' l' : UInt8} {n m : Nat}
    (first : hex4? i j k l = some n) (lead : isLead n = true)
    (second : hex4? i' j' k' l' = some m) (trail : isTrail m = true) :
    Escapes [octet '\\', octet 'u', i, j, k, l, octet '\\', octet 'u', i', j', k', l']
      (Char.ofNat ((n - 0xD800) * 0x400 + (m - 0xDC00) + 0x10000)) := by
  simp only [isTrail, isLead, Bool.and_eq_true, decide_eq_true_eq] at trail lead
  rw [← Nat.add_sub_cancel' lead.1] at first
  rw [← Nat.add_sub_cancel' trail.1] at second
  exact .pair first second (by omega) (Utf8.toNat_ofNat_char (by omega))

theorem prepend_eq_ok {bs content rest : Octets} {r : Except Error (Octets × Octets)}
    (h : prepend bs r = .ok (content, rest)) :
    ∃ content', content = bs ++ content' ∧ r = .ok (content', rest) := by
  cases r with
  | error e => cases h
  | ok p =>
    cases h
    exact ⟨_, rfl, rfl⟩

/-- A backslash and a `u` that are read begin an escape by the digits of a code, or of two. -/
theorem textOctets_code (h : textOctets (octet '\\' :: octet 'u' :: bs) = .ok (content, rest)) :
    ∃ escape c bs', Escapes escape c ∧ octet '\\' :: octet 'u' :: bs = escape ++ bs' ∧
      prepend (Utf8.encodeChar c) (textOctets bs') = .ok (content, rest) := by
  rw [textOctets.eq_def] at h
  dsimp only at h
  rw [if_neg (by decide), if_pos rfl, if_pos rfl] at h
  split at h
  · next i j k l bs =>
    split at h
    · cases h
    next n value =>
    split at h
    · cases h
    next trail =>
    split at h
    · -- a leading surrogate, behind which only an escape of a trailing one is read
      next lead =>
      split at h
      · cases h
      next s bs =>
      split at h
      · cases h
      next slash =>
      obtain rfl := Decidable.not_not.1 slash
      split at h
      · cases h
      next u bs =>
      split at h
      · cases h
      next letter =>
      obtain rfl := Decidable.not_not.1 letter
      split at h
      · next i' j' k' l' bs =>
        split at h
        · cases h
        next m second =>
        split at h
        · next trail => exact ⟨_, _, bs, .ofPair value lead second trail, rfl, h⟩
        · cases h
      · cases h
    · next lead => exact ⟨_, _, bs, .ofCode value trail lead, rfl, h⟩
  · cases h

/-- A backslash that is read begins an escape. -/
theorem textOctets_backslash (h : textOctets (octet '\\' :: bs) = .ok (content, rest)) :
    ∃ escape c bs', Escapes escape c ∧ octet '\\' :: bs = escape ++ bs' ∧
      prepend (Utf8.encodeChar c) (textOctets bs') = .ok (content, rest) := by
  cases bs with
  | nil => cases h
  | cons e bs =>
    by_cases code : e = octet 'u'
    · subst code
      exact textOctets_code h
    · rw [textOctets.eq_def] at h
      dsimp only at h
      rw [if_neg (by decide), if_pos rfl, if_neg code] at h
      split at h
      · next x known =>
        rw [← Utf8.encodeChar_ofNat_ascii (plainEscape?_ascii known).1] at h
        exact ⟨_, _, bs, .letter known, rfl, h⟩
      · cases h

/-- How the reading of a string can go on: it is over, or the next octet stands for itself, or an
escape comes. -/
theorem textOctets_cases (h : textOctets bs = .ok (content, rest)) :
    bs = octet '"' :: rest ∧ content = [] ∨
    (∃ b bs' content', IsPlain b ∧ bs = b :: bs' ∧ content = b :: content' ∧
      textOctets bs' = .ok (content', rest)) ∨
    ∃ escape c bs' content', Escapes escape c ∧ bs = escape ++ bs' ∧
      content = Utf8.encodeChar c ++ content' ∧ textOctets bs' = .ok (content', rest) := by
  cases bs with
  | nil => cases h
  | cons b bs =>
    by_cases slash : b = octet '\\'
    · subst slash
      obtain ⟨escape, c, bs', escapes, same, h⟩ := textOctets_backslash h
      obtain ⟨content', rfl, more⟩ := prepend_eq_ok h
      exact .inr (.inr ⟨escape, c, bs', content', escapes, same, rfl, more⟩)
    · rw [textOctets.eq_def] at h
      dsimp only at h
      split at h
      · next quote =>
        cases h
        exact .inl ⟨by rw [quote], rfl⟩
      next quote =>
      split at h
      · cases h
      · next graphic =>
        obtain ⟨content', rfl, more⟩ := prepend_eq_ok h
        exact .inr (.inl ⟨b, bs, content', ⟨quote, slash, by omega⟩, rfl, rfl, more⟩)

/-- A character is a first octet and octets that continue it. -/
theorem encodeChar_split (c : Char) :
    ∃ a tail, Utf8.encodeChar c = a :: tail ∧ Utf8.isTail a = false ∧
      ∀ b ∈ tail, Utf8.isTail b = true := by
  obtain ⟨max, surrogate⟩ := Utf8.code_lt c
  have lead {n : Nat} (h : n < 256) (lead : n < 0x80 ∨ 0xC0 ≤ n) :
      Utf8.isTail (UInt8.ofNat n) = false := by
    rw [← Bool.not_eq_true, Utf8.isTail_iff, Utf8.toNat_ofNat_lt h]
    omega
  have tail (n : Nat) : Utf8.isTail (UInt8.ofNat (0x80 + n % 0x40)) = true := by
    rw [Utf8.isTail_iff, Utf8.toNat_ofNat_lt (by omega)]
    omega
  unfold Utf8.encodeChar
  dsimp only
  split
  · exact ⟨_, [], rfl, lead (by omega) (by omega), nofun⟩
  split
  · exact ⟨_, _, rfl, lead (by omega) (by omega), by simp only [List.forall_mem_cons, tail]; simp⟩
  split
  · exact ⟨_, _, rfl, lead (by omega) (by omega), by simp only [List.forall_mem_cons, tail]; simp⟩
  · exact ⟨_, _, rfl, lead (by omega) (by omega), by simp only [List.forall_mem_cons, tail]; simp⟩

/-- Octets that continue a character stand for themselves. -/
theorem textOctets_tails {tail : Octets} (tails : ∀ b ∈ tail, Utf8.isTail b = true)
    (h : textOctets bs = .ok (tail ++ content, rest)) :
    ∃ bs', bs = tail ++ bs' ∧ textOctets bs' = .ok (content, rest) := by
  induction tail generalizing bs with
  | nil => exact ⟨bs, rfl, h⟩
  | cons a tail ih =>
    obtain ⟨first, others⟩ := List.forall_mem_cons.1 tails
    obtain ⟨_, none⟩ | ⟨b, bs', content', _, rfl, same, more⟩ |
      ⟨escape, c, bs', content', _, _, same, _⟩ := textOctets_cases h
    · cases none
    · obtain ⟨rfl, rfl⟩ := List.cons.inj same
      obtain ⟨bs'', rfl, left⟩ := ih others more
      exact ⟨bs'', rfl, left⟩
    · obtain ⟨lead, more, octets, notTail, _⟩ := encodeChar_split c
      rw [octets] at same
      obtain ⟨rfl, _⟩ := List.cons.inj same
      rw [first] at notTail
      cases notTail

theorem encodeChar_append_inj {c c' : Char} {more more' : Octets}
    (h : Utf8.encodeChar c ++ more = Utf8.encodeChar c' ++ more') : c = c' ∧ more = more' := by
  have pieces := congrArg Utf8.pieces h
  rw [Utf8.pieces_encodeChar, Utf8.pieces_encodeChar] at pieces
  obtain rfl : c = c' := Option.some.inj (List.cons.inj pieces).1
  exact ⟨rfl, List.append_cancel_left h⟩

/-- What is read as characters says them. -/
theorem spells_of_textOctets (h : textOctets bs = .ok (Utf8.encodeChars cs, rest)) :
    ∃ content, bs = content ++ octet '"' :: rest ∧ Spells content cs := by
  induction cs generalizing bs with
  | nil =>
    obtain ⟨rfl, _⟩ | ⟨b, bs', content', _, _, same, _⟩ |
      ⟨escape, c, bs', content', _, _, same, _⟩ := textOctets_cases h
    · exact ⟨[], rfl, .nil⟩
    · cases same
    · obtain ⟨lead, more, octets, _⟩ := encodeChar_split c
      rw [octets] at same
      cases same
  | cons c cs ih =>
    rw [Utf8.encodeChars_cons] at h
    obtain ⟨lead, tail, octets, _, tails⟩ := encodeChar_split c
    obtain ⟨_, none⟩ | ⟨b, bs', content', plain, rfl, same, more⟩ |
      ⟨escape, c', bs', content', escapes, rfl, same, more⟩ := textOctets_cases h
    · rw [octets] at none
      cases none
    · -- the first octet of the character, and with it the others
      rw [octets] at same
      obtain ⟨rfl, rfl⟩ := List.cons.inj same
      obtain ⟨bs'', rfl, left⟩ := textOctets_tails tails more
      obtain ⟨content, rfl, spells⟩ := ih left
      have plains : ∀ x ∈ Utf8.encodeChar c, IsPlain x := by
        rw [octets]
        exact List.forall_mem_cons.2
          ⟨plain, fun x mem => isPlain_of_high (Utf8.isTail_iff.1 (tails x mem)).1⟩
      refine ⟨Utf8.encodeChar c ++ content, ?_, .plain plains spells⟩
      rw [octets]
      simp
    · obtain ⟨rfl, rfl⟩ := encodeChar_append_inj same
      obtain ⟨content, rfl, spells⟩ := ih more
      exact ⟨escape ++ content, by simp, .escape escapes spells⟩

/-- A text is read, after the opening quote, exactly where it is said. -/
theorem text_iff {s : String} : text bs = .ok (s, rest) ↔
    ∃ content, bs = content ++ octet '"' :: rest ∧ Spells content s.toList := by
  unfold text
  constructor
  · intro h
    split at h
    · cases h
    next content left octets =>
    split at h
    · next decoded =>
      cases h
      rw [← Utf8.encode_eq_of_decode? decoded] at octets
      exact spells_of_textOctets octets
    · cases h
  · rintro ⟨content, rfl, spells⟩
    have decoded := Utf8.decode?_encode s
    unfold Utf8.encode at decoded
    rw [spells.textOctets]
    simp only [decoded]

end Courier.Json
