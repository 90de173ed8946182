import Courier.Envelope
import Courier.Proofs.Json.Recognition
import Courier.Proofs.Json.Record
import Courier.Proofs.Json.Spelling

/-!
# Readers of single values

The readers of an envelope's members take one value each, the very octets that are passed over where
nobody reads them (`Lexical`). What they make of it is known from these octets alone: neither the
white space before them nor what comes after them matters (`Reads`).
-/

namespace Courier.Json
set_option autoImplicit false
open Reading

variable {α β : Type} {read : Reader α} {x : α} {b : UInt8} {s : String}
  {bs blank value token rest mid : Octets}

/-- A reader takes octets for a value, whatever white space stands before them and whatever comes
after them and ends a value. -/
def Reads (read : Reader α) (value : Octets) (x : α) : Prop :=
  ∀ blank rest, IsBlank blank → Ends rest → read (blank ++ (value ++ rest)) = .ok (x, rest)

/-- A reader takes one value and no octet of what comes after it, and reads it the same wherever it
stands. -/
def Lexical (read : Reader α) : Prop :=
  ∀ bs x rest, read bs = .ok (x, rest) → skip bs = .ok rest ∧
    ∃ blank value, IsBlank blank ∧ IsValue value ∧ bs = blank ++ (value ++ rest) ∧
      Reads read value x

/-! ## White space in front -/

theorem dropWhile_blank (isBlank : IsBlank blank) (space : isSpace b = false) (rest : Octets) :
    (blank ++ b :: rest).dropWhile isSpace = b :: rest := by
  rw [List.dropWhile_append_of_pos isBlank, List.dropWhile_cons_of_neg (by simp [space])]

/-- Looking past white space. -/
theorem peek_blank (isBlank : IsBlank blank) (space : isSpace b = false) (rest : Octets) :
    peek (blank ++ b :: rest) = .ok (some b, b :: rest) := by
  show Except.ok (((blank ++ b :: rest).dropWhile isSpace).head?,
    (blank ++ b :: rest).dropWhile isSpace) = _
  rw [dropWhile_blank isBlank space]
  rfl

/-- What was looked at is what stands behind white space. -/
theorem peek_eq_ok {found : Option UInt8} (h : peek bs = .ok (found, mid)) :
    ∃ blank, IsBlank blank ∧ bs = blank ++ mid ∧ found = mid.head? ∧
      ∀ b ∈ mid.head?, isSpace b = false := by
  change Except.ok ((bs.dropWhile isSpace).head?, bs.dropWhile isSpace) = _ at h
  obtain ⟨rfl, rfl⟩ := Prod.mk.inj (Except.ok.inj h)
  refine ⟨bs.takeWhile isSpace, List.all_eq_true.1 List.all_takeWhile,
    List.takeWhile_append_dropWhile.symm, rfl, fun b head => ?_⟩
  obtain ⟨rest, start⟩ := List.head?_eq_some_iff.1 head
  exact dropWhile_cons_of_dropWhile start

theorem peek_eq_some (h : peek bs = .ok (some b, mid)) :
    ∃ blank rest, IsBlank blank ∧ isSpace b = false ∧ bs = blank ++ b :: rest ∧
      mid = b :: rest := by
  obtain ⟨blank, isBlank, rfl, head, space⟩ := peek_eq_ok h
  obtain ⟨rest, rfl⟩ := List.head?_eq_some_iff.1 head.symm
  exact ⟨blank, rest, isBlank, space b rfl, rfl, rfl⟩

theorem IsBlank.append {blank' : Octets} (isBlank : IsBlank blank) (isBlank' : IsBlank blank') :
    IsBlank (blank ++ blank') :=
  List.forall_mem_append.2 ⟨isBlank, isBlank'⟩

/-- Where a value starts. -/
theorem IsValue.split (h : IsValue value) :
    ∃ b more, value = b :: more ∧ isSpace b = false := by
  obtain ⟨b, more, start, space, _⟩ := h.starts
  exact ⟨b, more, start, space⟩

theorem skip_blank (isBlank : IsBlank blank) (rest : Octets) : skip (blank ++ rest) = skip rest :=
  skipFrom_blank (.inl rfl) isBlank [] rest

theorem skipFrom_done (rest : Octets) : skipFrom .complete [] rest = .ok rest := by
  cases rest <;> rfl

theorem skip_value (isBlank : IsBlank blank) (isValue : IsValue value) (ends : Ends rest) :
    skip (blank ++ (value ++ rest)) = .ok rest := by
  rw [skip_blank isBlank]
  exact (isValue.passes [] rest ends).trans (skipFrom_done rest)

/-! ## Texts -/

theorem Quotes.isText (quotes : Quotes token s) : IsText token := by
  obtain ⟨content, rfl, spells⟩ := quotes
  exact .quoted spells.isContent

/-- A text is read from every string that says it. -/
theorem Quotes.reads (quotes : Quotes token s) (expected : String) (isBlank : IsBlank blank)
    (rest : Octets) : textAs expected (blank ++ (token ++ rest)) = .ok (s, rest) := by
  obtain ⟨content, rfl, spells⟩ := quotes
  have read : text (content ++ octet '"' :: rest) = .ok (s, rest) :=
    text_iff.2 ⟨content, rfl, spells⟩
  unfold textAs
  rw [List.cons_append, List.append_assoc, List.singleton_append,
    bind_ok (peek_blank isBlank (by decide) _)]
  dsimp only
  rw [if_pos rfl, bind_ok (advance_cons _ _), read]

theorem quotes_of_textAs {expected : String} (h : textAs expected bs = .ok (s, rest)) :
    ∃ blank token, IsBlank blank ∧ Quotes token s ∧ bs = blank ++ (token ++ rest) := by
  unfold textAs at h
  obtain ⟨found, mid, peeked, h⟩ := bind_eq_ok h
  cases found with
  | none => cases h
  | some b =>
    dsimp only at h
    split at h
    · next quote =>
      subst quote
      obtain ⟨blank, more, isBlank, _, rfl, rfl⟩ := peek_eq_some peeked
      rw [bind_ok (advance_cons _ _)] at h
      obtain ⟨content, rfl, spells⟩ := text_iff.1 h
      exact ⟨blank, _, isBlank, ⟨content, rfl, spells⟩, by simp⟩
    · exact absurd h (fails_refuse _ _ _)

theorem lexical_textAs (expected : String) : Lexical (textAs expected) := by
  intro bs s rest h
  obtain ⟨blank, token, isBlank, quotes, rfl⟩ := quotes_of_textAs h
  refine ⟨?_, blank, token, isBlank, .text quotes.isText, rfl,
    fun _ _ isBlank _ => quotes.reads expected isBlank _⟩
  rw [skip_blank isBlank]
  exact (skipFrom_text quotes.isText [] rest).trans (skipFrom_done rest)

/-! ## Values made of others -/

/-- What is done with a value that was read, whatever comes after it. -/
def Settles (next : α → Reader β) : Prop :=
  ∀ x bs y rest, next x bs = .ok (y, rest) → rest = bs ∧ ∀ bs', next x bs' = .ok (y, bs')

theorem Lexical.bind {next : α → Reader β} (lexical : Lexical read) (settles : Settles next) :
    Lexical (read >>= next) := by
  intro bs y rest h
  obtain ⟨x, mid, first, h⟩ := bind_eq_ok h
  obtain ⟨rfl, same⟩ := settles x mid y rest h
  obtain ⟨passes, blank, value, isBlank, isValue, rfl, reads⟩ := lexical bs x rest first
  refine ⟨passes, blank, value, isBlank, isValue, rfl, fun blank rest isBlank ends => ?_⟩
  rw [bind_ok (reads blank rest isBlank ends), same]

theorem lexical_uuid : Lexical readUuid := by
  refine (lexical_textAs _).bind fun s bs u rest h => ?_
  cases parsed : Uuid.parse s with
  | error e => rw [parsed] at h; cases h
  | ok u => rw [parsed] at h; cases h; exact ⟨rfl, fun _ => rfl⟩

theorem lexical_instant : Lexical readInstant := by
  refine (lexical_textAs _).bind fun s bs t rest h => ?_
  cases parsed : Instant.parse s with
  | error e => rw [parsed] at h; cases h
  | ok t => rw [parsed] at h; cases h; exact ⟨rfl, fun _ => rfl⟩

theorem word_append (letters rest : Octets) : word letters (letters ++ rest) = .ok ((), rest) := by
  induction letters with
  | nil => rfl
  | cons b letters ih =>
    show (if b = b then word letters else throw .expectedWord) (letters ++ rest) = _
    rw [if_pos rfl, ih]

theorem word_eq_ok {letters : Octets} (h : word letters bs = .ok ((), rest)) :
    bs = letters ++ rest := by
  induction letters generalizing bs with
  | nil =>
    cases h
    rfl
  | cons b letters ih =>
    cases bs with
    | nil => cases h
    | cons c bs =>
      change (if c = b then word letters else throw .expectedWord) bs = _ at h
      split at h
      · next same => rw [ih h, same, List.cons_append]
      · cases h

theorem skip_null (isBlank : IsBlank blank) (rest : Octets) :
    skip (blank ++ (octet 'n' :: afterN ++ rest)) = .ok rest := by
  rw [skip_blank isBlank]
  exact skipFrom_done rest

theorem Lexical.option (lexical : Lexical read) : Lexical (readOption read) := by
  intro bs x rest h
  unfold readOption at h
  obtain ⟨found, mid, peeked, h⟩ := bind_eq_ok h
  split at h
  · next null =>
    subst null
    obtain ⟨blank, more, isBlank, _, rfl, rfl⟩ := peek_eq_some peeked
    rw [bind_ok (advance_cons _ _)] at h
    obtain ⟨_, _, letters, h⟩ := bind_eq_ok h
    cases h
    obtain rfl := word_eq_ok letters
    refine ⟨skip_null isBlank rest, blank, octet 'n' :: afterN, isBlank, .nullWord, rfl,
      fun blank rest isBlank _ => ?_⟩
    unfold readOption
    rw [List.cons_append, bind_ok (peek_blank isBlank (by decide) _), if_pos rfl,
      bind_ok (advance_cons _ _), bind_ok (word_append _ _)]
    rfl
  · next null =>
    obtain ⟨y, _, first, h⟩ := bind_eq_ok h
    cases h
    obtain ⟨passes, blank, value, isBlank, isValue, split, reads⟩ := lexical mid y rest first
    obtain ⟨before, isBefore, rfl, _, _⟩ := peek_eq_ok peeked
    have isBlank' : IsBlank (before ++ blank) := isBefore.append isBlank
    obtain ⟨b, more, start, space⟩ := isValue.split
    have other : b ≠ octet 'n' := by
      have looked := peek_blank isBlank' space (more ++ rest)
      rw [List.append_assoc, ← List.cons_append, ← start, ← split, peeked] at looked
      cases looked
      exact fun same => null (congrArg some same)
    rw [split, ← List.append_assoc]
    refine ⟨?_, before ++ blank, value, isBlank', isValue, rfl, fun blank rest isBlank ends => ?_⟩
    · rw [List.append_assoc, ← split, skip_blank isBefore]
      exact passes
    · have again := reads [] rest isBlank_nil ends
      unfold readOption
      rw [start, List.cons_append, bind_ok (peek_blank isBlank space _),
        if_neg fun same => other (Option.some.inj same), ← List.cons_append, ← start]
      rw [List.nil_append] at again
      rw [bind_ok again]
      rfl

/-! ## Values kept as they are written -/

theorem raw_value (isBlank : IsBlank blank) (isValue : IsValue value) (ends : Ends rest) :
    raw (blank ++ (value ++ rest)) = .ok (value, rest) := by
  obtain ⟨b, more, start, space⟩ := isValue.split
  have dropped : (blank ++ (value ++ rest)).dropWhile isSpace = value ++ rest := by
    rw [start, List.cons_append, dropWhile_blank isBlank space]
  have skipped := skip_value isBlank_nil isValue ends
  unfold raw
  rw [dropped]
  rw [List.nil_append] at skipped
  simp only [skipped]
  rw [List.length_append, Nat.add_sub_cancel, List.take_left' rfl]

theorem raw_eq_ok (h : raw bs = .ok (value, rest)) :
    skip bs = .ok rest ∧
      ∃ blank, IsBlank blank ∧ IsValue value ∧ bs = blank ++ (value ++ rest) := by
  unfold raw at h
  dsimp only at h
  split at h
  · next left skipped =>
    obtain ⟨taken, rfl⟩ := Prod.mk.inj (Except.ok.inj h)
    have isBlank : IsBlank (bs.takeWhile isSpace) := List.all_eq_true.1 List.all_takeWhile
    have split : bs = bs.takeWhile isSpace ++ bs.dropWhile isSpace :=
      List.takeWhile_append_dropWhile.symm
    have passes : skip bs = .ok left := by
      rw [split, skip_blank isBlank]
      exact skipped
    obtain ⟨blank, value', isBlank, isValue, same⟩ := value_of_skip passes
    obtain ⟨b, more, start, space⟩ := isValue.split
    have dropped : bs.dropWhile isSpace = value' ++ left := by
      rw [same, start, List.cons_append, dropWhile_blank isBlank space]
    rw [dropped, List.length_append, Nat.add_sub_cancel, List.take_left' rfl] at taken
    subst taken
    exact ⟨passes, blank, isBlank, isValue, same⟩
  · cases h

theorem lexical_raw : Lexical readRaw := by
  intro bs s rest h
  obtain ⟨passes, blank, isBlank, isValue, rfl⟩ := raw_eq_ok (raw_of_readRaw h)
  refine ⟨passes, blank, Utf8.encode s, isBlank, isValue, rfl, fun blank rest isBlank ends => ?_⟩
  exact readRaw_of_raw (raw_value isBlank isValue ends)

end Courier.Json
