import Courier.Proofs.Json.Raw

/-!
# Values are passed over

The machine of `skip` passes over the octets of a value as over one value, whichever brackets are
open around them, as long as what follows them ends a value (`IsValue.passes`). So a text whose
octets are a value may be kept raw (`IsValue.isRaw`).
-/

namespace Courier.Json
set_option autoImplicit false

/-- What ends a value: white space, a comma, a closing bracket, or the end of the document. -/
def Ends (rest : Octets) : Prop :=
  ∀ b ∈ rest.head?, isSpace b = true ∨ b = octet ',' ∨ b = octet ']' ∨ b = octet '\x7d'

theorem ends_cons {b : UInt8} (rest : Octets)
    (h : isSpace b = true ∨ b = octet ',' ∨ b = octet ']' ∨ b = octet '\x7d') :
    Ends (b :: rest) := by
  intro c hc
  cases hc
  exact h

theorem Follows.ends {rest : Octets} (h : Follows rest) : Ends rest := fun b hb => .inr (h b hb)

theorem IsBlank.ends {blank rest : Octets} (h : IsBlank blank) (ends : Ends rest) :
    Ends (blank ++ rest) := by
  cases blank with
  | nil => exact ends
  | cons b blank => exact ends_cons _ (.inl (h b List.mem_cons_self))

theorem isBlank_nil : IsBlank [] := by
  intro b hb
  cases hb

theorem following_cons (part : Octets) (parts : List Octets) (rest : Octets) :
    following (part :: parts) ++ rest = octet ',' :: (part ++ (following parts ++ rest)) := by
  simp [following]

/-- Further parts end what stands before them, if what comes after them does. -/
theorem ends_following {rest : Octets} (ends : Ends rest) (parts : List Octets) :
    Ends (following parts ++ rest) := by
  cases parts with
  | nil => exact ends
  | cons part parts =>
    rw [following_cons]
    exact ends_cons _ (.inr (.inl rfl))

/-! How values start. -/

theorem IsDigit.starts {b : UInt8} (h : IsDigit b) : isSpace b = false ∧ b ≠ octet ']' := by
  obtain ⟨low, high⟩ := h
  constructor
  · unfold isSpace
    simp only [Bool.or_eq_false_iff, decide_eq_false_iff_not]
    refine ⟨⟨⟨?_, ?_⟩, ?_⟩, ?_⟩
    all_goals
      rintro rfl
      exact absurd low (by decide)
  · rintro rfl
    exact absurd high (by decide)

theorem IsUnsigned.starts {bs : Octets} (h : IsUnsigned bs) : ∃ b rest, bs = b :: rest ∧ IsDigit b := by
  obtain ⟨whole, _, _⟩ := h
  cases whole with
  | zero => exact ⟨_, _, rfl, by decide, by decide⟩
  | digits lead _ => exact ⟨_, _, rfl, by omega, lead.2⟩

theorem IsText.starts {bs : Octets} (h : IsText bs) : ∃ rest, bs = octet '"' :: rest := by
  obtain ⟨_⟩ := h
  exact ⟨_, rfl⟩

/-- Values start with an octet that neither is white space nor closes a list. -/
theorem IsValue.starts {bs : Octets} (h : IsValue bs) :
    ∃ b rest, bs = b :: rest ∧ isSpace b = false ∧ b ≠ octet ']' := by
  cases h with
  | number isNumber =>
    cases isNumber with
    | positive isUnsigned =>
      obtain ⟨b, rest, rfl, digit⟩ := isUnsigned.starts
      exact ⟨b, rest, rfl, digit.starts⟩
    | negative isUnsigned => exact ⟨_, _, rfl, by decide, by decide⟩
  | text isText =>
    obtain ⟨rest, rfl⟩ := isText.starts
    exact ⟨_, _, rfl, by decide, by decide⟩
  | _ => exact ⟨_, _, rfl, by decide, by decide⟩

/-! The machine, step by step. -/

theorem skipFrom_step {p p' : Place} {stack stack' : List Bracket} {b : UInt8} {rest : Octets}
    (goes : stopsBefore p stack b = false) (h : step p stack b rest = .ok (p', stack')) :
    skipFrom p stack (b :: rest) = skipFrom p' stack' rest := by
  rw [skipFrom, goes, if_neg Bool.false_ne_true, h]

/-- Octets at which the machine stays where it is. -/
theorem skipFrom_stays {p : Place} {stack : List Bracket} {P : UInt8 → Prop}
    (stays : ∀ b ahead, P b → stopsBefore p stack b = false ∧ step p stack b ahead = .ok (p, stack))
    {bs : Octets} (all : ∀ b ∈ bs, P b) (rest : Octets) :
    skipFrom p stack (bs ++ rest) = skipFrom p stack rest := by
  induction bs with
  | nil => rfl
  | cons b bs ih =>
    obtain ⟨here, others⟩ := List.forall_mem_cons.1 all
    obtain ⟨goes, step⟩ := stays b (bs ++ rest) here
    rw [List.cons_append, skipFrom_step goes step, ih others]

/-! Strings. -/

theorem skipFrom_hex {b : UInt8} (digit : Hex.isDigit (Char.ofNat b.toNat) = true) (isName : Bool)
    (owed : Nat) (stack : List Bracket) (rest : Octets) :
    skipFrom (.hex isName owed) stack (b :: rest)
      = skipFrom (if owed ≤ 1 then .text isName else .hex isName (owed - 1)) stack rest := by
  apply skipFrom_step rfl
  rw [step, if_pos digit]

/-- What stands between quotes, and the closing quote. -/
theorem skipFrom_content {content : Octets} (h : IsContent content) (isName : Bool)
    (stack : List Bracket) (rest : Octets) :
    skipFrom (.text isName) stack (content ++ octet '"' :: rest)
      = skipFrom (if isName then .colon else .complete) stack rest := by
  have slash (ahead : Octets) : skipFrom (.text isName) stack (octet '\\' :: ahead)
      = skipFrom (.escape isName) stack ahead := skipFrom_step rfl rfl
  induction h with
  | nil => exact skipFrom_step rfl rfl
  | @plain b bs plain _ ih =>
    obtain ⟨quote, backslash, graphic⟩ := plain
    have same : step (.text isName) stack b (bs ++ octet '"' :: rest) = .ok (.text isName, stack) := by
      rw [step, if_neg quote, if_neg backslash, if_neg (by omega)]
    rw [List.cons_append, skipFrom_step rfl same, ih]
  | @escape e bs known _ ih =>
    have letter : e ≠ octet 'u' := by
      rintro rfl
      cases known
    have back : step (.escape isName) stack e (bs ++ octet '"' :: rest)
        = .ok (.text isName, stack) := by
      rw [step, if_neg letter, if_pos known]
    rw [List.cons_append, List.cons_append, slash, skipFrom_step rfl back, ih]
  | @code i j k l bs digits _ ih =>
    simp only [List.forall_mem_cons] at digits
    obtain ⟨first, second, third, fourth, _⟩ := digits
    -- the four digits are there, so the machine goes on from the `u`
    have letter (ahead : Octets) :
        skipFrom (.escape isName) stack (octet 'u' :: i :: j :: k :: l :: ahead)
          = skipFrom (.hex isName 4) stack (i :: j :: k :: l :: ahead) := skipFrom_step rfl rfl
    simp only [List.cons_append]
    rw [slash, letter, skipFrom_hex first, if_neg (by decide), skipFrom_hex second,
      if_neg (by decide), skipFrom_hex third, if_neg (by decide), skipFrom_hex fourth,
      if_pos (by decide), ih]

theorem skipFrom_text {bs : Octets} (h : IsText bs) (stack : List Bracket) (rest : Octets) :
    skipFrom .value stack (bs ++ rest) = skipFrom .complete stack rest := by
  obtain ⟨content⟩ := h
  have quote (ahead : Octets) : skipFrom .value stack (octet '"' :: ahead)
      = skipFrom (.text false) stack ahead := skipFrom_step rfl rfl
  rw [List.cons_append, quote, List.append_assoc]
  exact skipFrom_content content false stack rest

theorem skipFrom_name {bs : Octets} (h : IsText bs) (stack : List Bracket) (rest : Octets) :
    skipFrom .name stack (bs ++ rest) = skipFrom .colon stack rest := by
  obtain ⟨content⟩ := h
  have quote (ahead : Octets) : skipFrom .name stack (octet '"' :: ahead)
      = skipFrom (.text true) stack ahead := skipFrom_step rfl rfl
  rw [List.cons_append, quote, List.append_assoc]
  exact skipFrom_content content true stack rest

/-! Numbers. -/

theorem Place.eq_of_endsNumber {p : Place} (h : p.endsNumber = true) :
    p = .zero ∨ p = .whole ∨ p = .fraction ∨ p = .powerDigits := by
  cases p <;> simp [endsNumber] at h ⊢

/-- A number that may end is complete where something ends it. -/
theorem skipFrom_endsNumber {p : Place} (h : p.endsNumber = true) (stack : List Bracket)
    {rest : Octets} (ends : Ends rest) : skipFrom p stack rest = skipFrom .complete stack rest := by
  have places := Place.eq_of_endsNumber h
  cases rest with
  | nil => rcases places with rfl | rfl | rfl | rfl <;> rfl
  | cons b rest =>
    have known : b ∈ [octet ' ', octet '\n', octet '\t', octet '\r', octet ',', octet ']',
        octet '\x7d'] := by
      have last := ends b rfl
      unfold isSpace at last
      simpa [or_assoc] using last
    simp only [List.mem_cons, List.not_mem_nil, or_false] at known
    have stops : stopsBefore p stack b = stopsBefore .complete stack b := by
      cases stack with
      | nil =>
        rcases known with rfl | rfl | rfl | rfl | rfl | rfl | rfl <;>
          rcases places with rfl | rfl | rfl | rfl <;> rfl
      | cons top stack => rcases places with rfl | rfl | rfl | rfl <;> rfl
    have same : step p stack b rest = step .complete stack b rest := by
      rcases known with rfl | rfl | rfl | rfl | rfl | rfl | rfl <;>
        rcases places with rfl | rfl | rfl | rfl <;> rfl
    rw [skipFrom, skipFrom, stops, same]

theorem IsDigit.ne {b c : UInt8} (digit : IsDigit b) (other : ¬ IsDigit c) : b ≠ c := by
  rintro rfl
  exact other digit

instance (b : UInt8) : Decidable (IsDigit b) := inferInstanceAs (Decidable (_ ∧ _))

/-- The machine does not stop before a digit. -/
theorem goes_digit {p : Place} {b : UInt8} (digit : IsDigit b) (unfinished : p ≠ .complete)
    (stack : List Bracket) : stopsBefore p stack b = false := by
  unfold stopsBefore
  split <;> simp [stopsBefore.isDigitOctet, digit.1, digit.2] at unfinished ⊢

/-- Digits where digits may go on. -/
theorem skipFrom_digits {p : Place} (digits : p = .whole ∨ p = .fraction ∨ p = .powerDigits)
    {ds : Octets} (all : ∀ d ∈ ds, IsDigit d) (stack : List Bracket) (rest : Octets) :
    skipFrom p stack (ds ++ rest) = skipFrom p stack rest := by
  apply skipFrom_stays _ all
  intro b ahead digit
  have unfinished : p ≠ .complete := by
    rintro rfl
    simp at digits
  refine ⟨goes_digit digit unfinished stack, ?_⟩
  rcases digits with rfl | rfl | rfl <;> simp [step, digit.1, digit.2]

/-- Digits of which one has to be there. -/
theorem skipFrom_owedDigits {p p' : Place} {stack : List Bracket} {ds : Octets}
    (owed : p ≠ .complete) (first : ∀ d ahead, IsDigit d → step p stack d ahead = .ok (p', stack))
    (more : p' = .whole ∨ p' = .fraction ∨ p' = .powerDigits) (digits : IsDigits ds)
    (rest : Octets) : skipFrom p stack (ds ++ rest) = skipFrom p' stack rest := by
  obtain ⟨some, all⟩ := digits
  cases ds with
  | nil => exact absurd rfl some
  | cons d ds =>
    obtain ⟨digit, others⟩ := List.forall_mem_cons.1 all
    rw [List.cons_append, skipFrom_step (goes_digit digit owed stack) (first d _ digit),
      skipFrom_digits more others]

/-- The power of a number, and the end of the number. -/
theorem skipFrom_power {p : Place} (may : p = .zero ∨ p = .whole ∨ p = .fraction) {power : Octets}
    (h : IsPower power) (stack : List Bracket) {rest : Octets} (ends : Ends rest) :
    skipFrom p stack (power ++ rest) = skipFrom .complete stack rest := by
  have last : skipFrom .powerDigits stack rest = skipFrom .complete stack rest :=
    skipFrom_endsNumber rfl stack ends
  cases h with
  | missing =>
    apply skipFrom_endsNumber _ stack ends
    rcases may with rfl | rfl | rfl <;> rfl
  | @letter e sign ds letter isSign digits =>
    have goes (ahead : Octets) :
        skipFrom p stack (e :: ahead) = skipFrom .power stack ahead := by
      rcases may with rfl | rfl | rfl <;> rcases letter with rfl | rfl <;>
        exact skipFrom_step (by cases stack <;> rfl) rfl
    rw [List.cons_append, goes, List.append_assoc]
    obtain rfl | signed := isSign
    · have first (d : UInt8) (ahead : Octets) (digit : IsDigit d) :
          step .power stack d ahead = .ok (.powerDigits, stack) := by
        have plus := digit.ne (c := octet '+') (by decide)
        have minus := digit.ne (c := octet '-') (by decide)
        simp [step, plus, minus, digit.1, digit.2]
      rw [List.nil_append, skipFrom_owedDigits (by simp) first (by simp) digits, last]
    · have sign (ahead : Octets) :
          skipFrom .power stack (sign ++ ahead) = skipFrom .powerSign stack ahead := by
        obtain rfl | rfl := signed <;> exact skipFrom_step rfl rfl
      have first (d : UInt8) (ahead : Octets) (digit : IsDigit d) :
          step .powerSign stack d ahead = .ok (.powerDigits, stack) := by
        simp [step, digit.1, digit.2]
      rw [sign, skipFrom_owedDigits (by simp) first (by simp) digits, last]

/-- What a number has behind its whole part. -/
theorem skipFrom_fraction {p : Place} (may : p = .zero ∨ p = .whole) {fraction power : Octets}
    (isFraction : IsFraction fraction) (isPower : IsPower power) (stack : List Bracket)
    {rest : Octets} (ends : Ends rest) :
    skipFrom p stack (fraction ++ (power ++ rest)) = skipFrom .complete stack rest := by
  cases isFraction with
  | missing => exact skipFrom_power (may.imp_right .inl) isPower stack ends
  | point digits =>
    have point (ahead : Octets) :
        skipFrom p stack (octet '.' :: ahead) = skipFrom .point stack ahead := by
      rcases may with rfl | rfl <;> exact skipFrom_step (by cases stack <;> rfl) rfl
    have first (d : UInt8) (ahead : Octets) (digit : IsDigit d) :
        step .point stack d ahead = .ok (.fraction, stack) := by
      simp [step, digit.1, digit.2]
    rw [List.cons_append, point, skipFrom_owedDigits (by simp) first (by simp) digits,
      skipFrom_power (.inr (.inr rfl)) isPower stack ends]

/-- A number, with or without the minus sign passed. -/
theorem skipFrom_unsigned {p : Place} (may : p = .value ∨ p = .minus) {bs : Octets}
    (h : IsUnsigned bs) (stack : List Bracket) {rest : Octets} (ends : Ends rest) :
    skipFrom p stack (bs ++ rest) = skipFrom .complete stack rest := by
  obtain ⟨isWhole, isFraction, isPower⟩ := h
  rw [List.append_assoc, List.append_assoc]
  cases isWhole with
  | zero =>
    have zero (ahead : Octets) :
        skipFrom p stack (octet '0' :: ahead) = skipFrom .zero stack ahead := by
      rcases may with rfl | rfl <;> exact skipFrom_step rfl rfl
    rw [List.singleton_append, zero, skipFrom_fraction (.inl rfl) isFraction isPower stack ends]
  | @digits b ds lead digits =>
    have other {c : UInt8} (h : ¬ (49 ≤ c.toNat ∧ c.toNat ≤ 57)) : b ≠ c := by
      rintro rfl
      exact h lead
    have digit : IsDigit b := ⟨by omega, lead.2⟩
    have whole (ahead : Octets) : step p stack b ahead = .ok (.whole, stack) := by
      rcases may with rfl | rfl
      · show startValue stack b = _
        rw [startValue, if_neg (by simp [digit.starts]), if_neg (other (by decide)),
          if_neg (other (by decide)), if_neg (other (by decide)), if_neg (other (by decide)),
          if_neg (other (by decide)), if_pos lead]
      · rw [step, if_neg (other (by decide))]
        simp [digit.1, digit.2]
    have unfinished : p ≠ .complete := by
      rintro rfl
      simp at may
    rw [List.cons_append, skipFrom_step (goes_digit digit unfinished stack) (whole _),
      skipFrom_digits (.inl rfl) digits, skipFrom_fraction (.inr rfl) isFraction isPower stack ends]

theorem skipFrom_number {bs : Octets} (h : IsNumber bs) (stack : List Bracket) {rest : Octets}
    (ends : Ends rest) : skipFrom .value stack (bs ++ rest) = skipFrom .complete stack rest := by
  cases h with
  | positive isUnsigned => exact skipFrom_unsigned (.inl rfl) isUnsigned stack ends
  | negative isUnsigned =>
    have minus (ahead : Octets) : skipFrom .value stack (octet '-' :: ahead)
        = skipFrom .minus stack ahead := skipFrom_step rfl rfl
    rw [List.cons_append, minus, skipFrom_unsigned (.inr rfl) isUnsigned stack ends]

/-! Lists and objects. -/

/-- Octets that are passed over as a value wherever they stand. -/
def Passes (bs : Octets) : Prop :=
  ∀ (stack : List Bracket) (rest : Octets), Ends rest →
    skipFrom .value stack (bs ++ rest) = skipFrom .complete stack rest

variable {stack : List Bracket} {rest : Octets}

/-- White space where the machine waits for something. -/
theorem skipFrom_blank {p : Place} (waits : p = .value ∨ p = .name ∨ p = .colon ∨ p = .opened)
    {blank : Octets} (isBlank : IsBlank blank) (stack : List Bracket) (rest : Octets) :
    skipFrom p stack (blank ++ rest) = skipFrom p stack rest := by
  apply skipFrom_stays _ isBlank
  intro b ahead space
  rcases waits with rfl | rfl | rfl | rfl <;> exact ⟨rfl, if_pos space⟩

/-- White space behind a value within brackets. -/
theorem skipFrom_blank_complete {blank : Octets} (isBlank : IsBlank blank) (top : Bracket)
    (stack : List Bracket) (rest : Octets) :
    skipFrom .complete (top :: stack) (blank ++ rest) = skipFrom .complete (top :: stack) rest := by
  apply skipFrom_stays _ isBlank
  intro b ahead space
  exact ⟨rfl, if_pos space⟩

theorem skipFrom_element {e : Element} (padded : e.Padded) (passes : Passes e.value)
    (top : Bracket) (ends : Ends rest) :
    skipFrom .value (top :: stack) (e.octets ++ rest) = skipFrom .complete (top :: stack) rest := by
  unfold Element.octets
  rw [List.append_assoc, List.append_assoc, skipFrom_blank (.inl rfl) padded.1,
    passes _ _ (padded.2.ends ends), skipFrom_blank_complete padded.2]

/-- After the bracket of a list, the first element is passed over as any other. -/
theorem skipFrom_opened_list {e : Element} (padded : e.Padded) (isValue : IsValue e.value)
    (rest : Octets) : skipFrom .opened (.list :: stack) (e.octets ++ rest)
      = skipFrom .value (.list :: stack) (e.octets ++ rest) := by
  obtain ⟨b, more, start, space, bracket⟩ := isValue.starts
  have same (ahead : Octets) :
      step .opened (.list :: stack) b ahead = step .value (.list :: stack) b ahead := by
    show afterOpened _ _ = startValue _ _
    rw [afterOpened, if_neg (by simp [space])]
    exact if_neg bracket
  unfold Element.octets
  rw [List.append_assoc, skipFrom_blank (by simp) padded.1, skipFrom_blank (.inl rfl) padded.1,
    start, List.cons_append, List.cons_append, skipFrom, skipFrom, same]
  rfl

/-- The elements of a list after its first one. -/
theorem skipFrom_elements {es : List Element} (padded : ∀ e ∈ es, e.Padded)
    (passes : ∀ e ∈ es, Passes e.value) (ends : Ends rest) :
    skipFrom .complete (.list :: stack) (following (es.map Element.octets) ++ rest)
      = skipFrom .complete (.list :: stack) rest := by
  induction es with
  | nil => rfl
  | cons e es ih =>
    obtain ⟨first, others⟩ := List.forall_mem_cons.1 padded
    obtain ⟨firstPasses, othersPass⟩ := List.forall_mem_cons.1 passes
    have comma (ahead : Octets) : skipFrom .complete (.list :: stack) (octet ',' :: ahead)
        = skipFrom .value (.list :: stack) ahead := skipFrom_step rfl rfl
    rw [List.map_cons, following_cons, comma,
      skipFrom_element first firstPasses .list (ends_following ends _), ih others othersPass]

/-- A member, where its name is waited for. -/
theorem skipFrom_member {m : Member} (padded : m.Padded) (passes : Passes m.element.value)
    (ends : Ends rest) : skipFrom .name (.object :: stack) (m.octets ++ rest)
      = skipFrom .complete (.object :: stack) rest := by
  obtain ⟨before, name, after, element⟩ := padded
  have colon (ahead : Octets) : skipFrom .colon (.object :: stack) (octet ':' :: ahead)
      = skipFrom .value (.object :: stack) ahead := skipFrom_step rfl rfl
  unfold Member.octets
  simp only [List.append_assoc, List.cons_append]
  rw [skipFrom_blank (by simp) before, skipFrom_name name, skipFrom_blank (by simp) after, colon,
    skipFrom_element element passes .object ends]

/-- After the brace of an object, the first member is passed over as any other. -/
theorem skipFrom_opened_object {m : Member} (padded : m.Padded) (rest : Octets) :
    skipFrom .opened (.object :: stack) (m.octets ++ rest)
      = skipFrom .name (.object :: stack) (m.octets ++ rest) := by
  obtain ⟨before, name, -, -⟩ := padded
  unfold Member.octets
  simp only [List.append_assoc, List.cons_append]
  obtain ⟨more, start⟩ := name.starts
  rw [skipFrom_blank (by simp) before, skipFrom_blank (by simp) before, start]
  rfl

/-- The members of an object after its first one. -/
theorem skipFrom_members {ms : List Member} (padded : ∀ m ∈ ms, m.Padded)
    (passes : ∀ m ∈ ms, Passes m.element.value) (ends : Ends rest) :
    skipFrom .complete (.object :: stack) (following (ms.map Member.octets) ++ rest)
      = skipFrom .complete (.object :: stack) rest := by
  induction ms with
  | nil => rfl
  | cons m ms ih =>
    obtain ⟨first, others⟩ := List.forall_mem_cons.1 padded
    obtain ⟨firstPasses, othersPass⟩ := List.forall_mem_cons.1 passes
    have comma (ahead : Octets) : skipFrom .complete (.object :: stack) (octet ',' :: ahead)
        = skipFrom .name (.object :: stack) ahead := skipFrom_step rfl rfl
    rw [List.map_cons, following_cons, comma,
      skipFrom_member first firstPasses (ends_following ends _), ih others othersPass]

/-- The machine passes over every value. -/
theorem IsValue.passes {bs : Octets} (h : IsValue bs) : Passes bs := by
  induction h with
  | nullWord | trueWord | falseWord =>
    intro stack rest _
    rfl
  | number isNumber =>
    intro stack rest ends
    exact skipFrom_number isNumber stack ends
  | text isText =>
    intro stack rest _
    exact skipFrom_text isText stack rest
  | @emptyList blank isBlank =>
    intro stack rest _
    have opening (ahead : Octets) : skipFrom .value stack (octet '[' :: ahead)
        = skipFrom .opened (.list :: stack) ahead := skipFrom_step rfl rfl
    have closing : skipFrom .opened (.list :: stack) (octet ']' :: rest)
        = skipFrom .complete stack rest := skipFrom_step rfl rfl
    rw [List.cons_append, opening, List.append_assoc, skipFrom_blank (by simp) isBlank]
    exact closing
  | @list e es padded values ih =>
    intro stack rest _
    obtain ⟨first, others⟩ := List.forall_mem_cons.1 padded
    obtain ⟨firstPasses, othersPass⟩ := List.forall_mem_cons.1 ih
    have opening (ahead : Octets) : skipFrom .value stack (octet '[' :: ahead)
        = skipFrom .opened (.list :: stack) ahead := skipFrom_step rfl rfl
    have closing : skipFrom .complete (.list :: stack) (octet ']' :: rest)
        = skipFrom .complete stack rest := skipFrom_step rfl rfl
    have ends : Ends (octet ']' :: rest) := ends_cons _ (by simp)
    rw [List.cons_append, opening, List.append_assoc, List.append_assoc,
      skipFrom_opened_list first (values e List.mem_cons_self), List.singleton_append,
      skipFrom_element first firstPasses .list (ends_following ends _),
      skipFrom_elements others othersPass ends, closing]
  | @emptyObject blank isBlank =>
    intro stack rest _
    have opening (ahead : Octets) : skipFrom .value stack (octet '\x7b' :: ahead)
        = skipFrom .opened (.object :: stack) ahead := skipFrom_step rfl rfl
    have closing : skipFrom .opened (.object :: stack) (octet '\x7d' :: rest)
        = skipFrom .complete stack rest := skipFrom_step rfl rfl
    rw [List.cons_append, opening, List.append_assoc, skipFrom_blank (by simp) isBlank]
    exact closing
  | @object m ms padded values ih =>
    intro stack rest _
    obtain ⟨first, others⟩ := List.forall_mem_cons.1 padded
    obtain ⟨firstPasses, othersPass⟩ := List.forall_mem_cons.1 ih
    have opening (ahead : Octets) : skipFrom .value stack (octet '\x7b' :: ahead)
        = skipFrom .opened (.object :: stack) ahead := skipFrom_step rfl rfl
    have closing : skipFrom .complete (.object :: stack) (octet '\x7d' :: rest)
        = skipFrom .complete stack rest := skipFrom_step rfl rfl
    have ends : Ends (octet '\x7d' :: rest) := ends_cons _ (by simp)
    rw [List.cons_append, opening, List.append_assoc, List.append_assoc,
      skipFrom_opened_object first, List.singleton_append,
      skipFrom_member first firstPasses (ends_following ends _),
      skipFrom_members others othersPass ends, closing]

/-- A text whose octets are a value may be kept raw. -/
theorem IsValue.isRaw {s : String} (h : IsValue (Utf8.encode s)) : IsRaw s := by
  apply readRaw_of_raw
  obtain ⟨b, rest, start, space, -⟩ := h.starts
  have still : (Utf8.encode s).dropWhile isSpace = Utf8.encode s := by
    rw [start, List.dropWhile_cons_of_neg (by simp [space])]
  have passed : skip (Utf8.encode s) = .ok [] := by
    have whole := h.passes [] [] follows_nil.ends
    rw [List.append_nil] at whole
    rw [skip, whole, skipFrom_complete rfl follows_nil]
  unfold raw
  dsimp only
  rw [still, passed]
  simp

end Courier.Json
