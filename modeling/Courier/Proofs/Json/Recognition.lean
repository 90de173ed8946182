import Courier.Proofs.Json.Grammar

/-!
# Nothing but values is passed over

Wherever the machine of `skip` stands, `Awaits` says which octets complete the outermost value from
there. Every step takes the first of them (`Awaits.step`), so what the machine has passed over once
it stops is a value (`value_of_skip`), and the texts that are kept raw are those whose octets are a
value (`isRaw_iff`).
-/

namespace Courier.Json
set_option autoImplicit false

/-- Octets of one kind and then octets of another. -/
def Then (P Q : Octets → Prop) (bs : Octets) : Prop :=
  ∃ front rest, P front ∧ Q rest ∧ bs = front ++ rest

/-- Elements of a list after the first one. -/
def MoreElements (bs : Octets) : Prop :=
  ∃ es : List Element, (∀ e ∈ es, e.Padded ∧ IsValue e.value) ∧
    bs = following (es.map Element.octets)

/-- Members of an object after the first one. -/
def MoreMembers (bs : Octets) : Prop :=
  ∃ ms : List Member, (∀ m ∈ ms, m.Padded ∧ IsValue m.element.value) ∧
    bs = following (ms.map Member.octets)

/-- What closes the open brackets after a value. -/
def Closes : List Bracket → Octets → Prop
  | [] => (· = [])
  | .list :: outer =>
    Then IsBlank (Then MoreElements (Then (· = [octet ']']) (Closes outer)))
  | .object :: outer =>
    Then IsBlank (Then MoreMembers (Then (· = [octet '\x7d']) (Closes outer)))

/-- A value and what closes the brackets around it. -/
def AwaitsValue (stack : List Bracket) : Octets → Prop :=
  Then IsBlank (Then IsValue (Closes stack))

/-- A colon, a value and what closes the brackets around it. -/
def AwaitsColon (stack : List Bracket) : Octets → Prop :=
  Then IsBlank (Then (· = [octet ':']) (AwaitsValue stack))

/-- A member and what closes the brackets around it. -/
def AwaitsName (stack : List Bracket) : Octets → Prop :=
  Then IsBlank (Then IsText (AwaitsColon stack))

/-- The end of a string and what is awaited after it. -/
def AwaitsQuote (isName : Bool) (stack : List Bracket) : Octets → Prop :=
  Then IsContent (Then (· = [octet '"']) (if isName then AwaitsColon stack else Closes stack))

/-- No octets but digits. -/
def AllDigits (bs : Octets) : Prop := ∀ d ∈ bs, IsDigit d

/-- The octets that complete the outermost value from a place on. -/
def Awaits : Place → List Bracket → Octets → Prop
  | .value, stack, bs => AwaitsValue stack bs
  | .opened, [], _ => False
  | .opened, .list :: outer, bs =>
    Then IsBlank (Then (· = [octet ']']) (Closes outer)) bs ∨ AwaitsValue (.list :: outer) bs
  | .opened, .object :: outer, bs =>
    Then IsBlank (Then (· = [octet '\x7d']) (Closes outer)) bs ∨ AwaitsName (.object :: outer) bs
  | .name, stack, bs => AwaitsName stack bs
  | .colon, stack, bs => AwaitsColon stack bs
  | .complete, stack, bs => Closes stack bs
  | .text isName, stack, bs => AwaitsQuote isName stack bs
  | .escape isName, stack, bs => AwaitsQuote isName stack (octet '\\' :: bs)
  | .hex isName owed, stack, bs =>
    Then (fun ds => ds.length = max owed 1 ∧ ∀ d ∈ ds, Hex.isDigit (Char.ofNat d.toNat) = true)
      (AwaitsQuote isName stack) bs
  -- the machine does not come to a word that is over
  | .word [], _, _ => True
  | .word owed, stack, bs => Then (· = owed) (Closes stack) bs
  | .minus, stack, bs => Then IsUnsigned (Closes stack) bs
  | .zero, stack, bs => Then IsFraction (Then IsPower (Closes stack)) bs
  | .whole, stack, bs => Then AllDigits (Then IsFraction (Then IsPower (Closes stack))) bs
  | .point, stack, bs => Then IsDigits (Then IsPower (Closes stack)) bs
  | .fraction, stack, bs => Then AllDigits (Then IsPower (Closes stack)) bs
  | .power, stack, bs => Then IsPowerSign (Then IsDigits (Closes stack)) bs
  | .powerSign, stack, bs => Then IsDigits (Closes stack) bs
  | .powerDigits, stack, bs => Then AllDigits (Closes stack) bs

variable {P P' Q : Octets → Prop} {b : UInt8} {bs : Octets} {stack stack' : List Bracket}
  {p p' : Place}

theorem Then.nil (empty : P []) (h : Q bs) : Then P Q bs := ⟨[], bs, empty, h, rfl⟩

/-- One more octet in front of the first part. -/
theorem Then.cons (more : ∀ front, P front → P' (b :: front)) (h : Then P Q bs) :
    Then P' Q (b :: bs) := by
  obtain ⟨front, rest, first, second, rfl⟩ := h
  exact ⟨b :: front, rest, more front first, second, rfl⟩

theorem Then.imp (weaker : ∀ front, P front → P' front) (h : Then P Q bs) : Then P' Q bs := by
  obtain ⟨front, rest, first, second, rfl⟩ := h
  exact ⟨front, rest, weaker front first, second, rfl⟩

/-- The first part is the one octet in front. -/
theorem Then.single (h : Q bs) : Then (· = [b]) Q (b :: bs) := ⟨[b], bs, rfl, h, rfl⟩

theorem IsBlank.cons (space : isSpace b = true) (front : Octets) (h : IsBlank front) :
    IsBlank (b :: front) :=
  List.forall_mem_cons.2 ⟨space, h⟩

theorem AllDigits.cons (digit : IsDigit b) (front : Octets) (h : AllDigits front) :
    AllDigits (b :: front) :=
  List.forall_mem_cons.2 ⟨digit, h⟩

theorem AllDigits.isDigits (digit : IsDigit b) (front : Octets) (h : AllDigits front) :
    IsDigits (b :: front) :=
  ⟨List.cons_ne_nil b front, h.cons digit⟩

theorem allDigits_nil : AllDigits [] := by
  intro d mem
  cases mem

theorem isDigit_iff : (decide (48 ≤ b.toNat) && decide (b.toNat ≤ 57)) = true ↔ IsDigit b := by
  simp [IsDigit]

/-! Brackets. -/

theorem Closes.blank {top : Bracket} (h : Closes (top :: stack) bs) (space : isSpace b = true) :
    Closes (top :: stack) (b :: bs) := by
  cases top with
  | list => exact Then.cons (IsBlank.cons space) h
  | object => exact Then.cons (IsBlank.cons space) h

theorem Closes.bracket (h : Closes stack bs) : Closes (.list :: stack) (octet ']' :: bs) :=
  .nil isBlank_nil (.nil ⟨[], by simp, rfl⟩ (.single h))

theorem Closes.brace (h : Closes stack bs) : Closes (.object :: stack) (octet '\x7d' :: bs) :=
  .nil isBlank_nil (.nil ⟨[], by simp, rfl⟩ (.single h))

/-- An element and what closes the list behind it. -/
theorem AwaitsValue.split (h : AwaitsValue (.list :: stack) bs) :
    ∃ (e : Element) (more rest : Octets), (e.Padded ∧ IsValue e.value) ∧ MoreElements more ∧
      Closes stack rest ∧ bs = e.octets ++ (more ++ octet ']' :: rest) := by
  obtain ⟨before, _, isBefore, ⟨value, _, isValue, closes, rfl⟩, rfl⟩ := h
  obtain ⟨after, _, isAfter, ⟨more, _, isMore, ⟨_, rest, rfl, closes, rfl⟩, rfl⟩, rfl⟩ := closes
  refine ⟨⟨before, value, after⟩, more, rest, ⟨⟨isBefore, isAfter⟩, isValue⟩, isMore, closes, ?_⟩
  simp [Element.octets]

/-- A member and what closes the object behind it. -/
theorem AwaitsName.split (h : AwaitsName (.object :: stack) bs) :
    ∃ (m : Member) (more rest : Octets), (m.Padded ∧ IsValue m.element.value) ∧
      MoreMembers more ∧ Closes stack rest ∧ bs = m.octets ++ (more ++ octet '\x7d' :: rest) := by
  obtain ⟨before, _, isBefore, ⟨name, _, isName, colon, rfl⟩, rfl⟩ := h
  obtain ⟨after, _, isAfter, ⟨_, _, rfl, value, rfl⟩, rfl⟩ := colon
  obtain ⟨padding, _, isPadding, ⟨value, _, isValue, closes, rfl⟩, rfl⟩ := value
  obtain ⟨last, _, isLast, ⟨more, _, isMore, ⟨_, rest, rfl, closes, rfl⟩, rfl⟩, rfl⟩ := closes
  refine ⟨⟨before, name, after, ⟨padding, value, last⟩⟩, more, rest,
    ⟨⟨isBefore, isName, isAfter, isPadding, isLast⟩, isValue⟩, isMore, closes, ?_⟩
  simp [Member.octets, Element.octets]

theorem Closes.element (h : AwaitsValue (.list :: stack) bs) :
    Closes (.list :: stack) (octet ',' :: bs) := by
  obtain ⟨e, _, rest, first, ⟨es, others, rfl⟩, closes, rfl⟩ := h.split
  refine .nil isBlank_nil ⟨following ((e :: es).map Element.octets), octet ']' :: rest,
    ⟨e :: es, List.forall_mem_cons.2 ⟨first, others⟩, rfl⟩, .single closes, ?_⟩
  rw [List.map_cons, following_cons]

theorem Closes.member (h : AwaitsName (.object :: stack) bs) :
    Closes (.object :: stack) (octet ',' :: bs) := by
  obtain ⟨m, _, rest, first, ⟨ms, others, rfl⟩, closes, rfl⟩ := h.split
  refine .nil isBlank_nil ⟨following ((m :: ms).map Member.octets), octet '\x7d' :: rest,
    ⟨m :: ms, List.forall_mem_cons.2 ⟨first, others⟩, rfl⟩, .single closes, ?_⟩
  rw [List.map_cons, following_cons]

/-- After an opening bracket, the rest of a list. -/
theorem AwaitsValue.list (h : Awaits .opened (.list :: stack) bs) :
    AwaitsValue stack (octet '[' :: bs) := by
  refine .nil isBlank_nil ?_
  obtain ⟨blank, _, isBlank, ⟨_, rest, rfl, closes, rfl⟩, rfl⟩ | h := h
  · exact ⟨octet '[' :: (blank ++ [octet ']']), rest, .emptyList isBlank, closes, by simp⟩
  · obtain ⟨e, _, rest, first, ⟨es, others, rfl⟩, closes, rfl⟩ := h.split
    have all : ∀ x ∈ e :: es, x.Padded ∧ IsValue x.value :=
      List.forall_mem_cons.2 ⟨first, others⟩
    refine ⟨_, rest, .list (fun x mem => (all x mem).1) (fun x mem => (all x mem).2), closes, ?_⟩
    simp

/-- After an opening brace, the rest of an object. -/
theorem AwaitsValue.object (h : Awaits .opened (.object :: stack) bs) :
    AwaitsValue stack (octet '\x7b' :: bs) := by
  refine .nil isBlank_nil ?_
  obtain ⟨blank, _, isBlank, ⟨_, rest, rfl, closes, rfl⟩, rfl⟩ | h := h
  · exact ⟨octet '\x7b' :: (blank ++ [octet '\x7d']), rest, .emptyObject isBlank, closes, by simp⟩
  · obtain ⟨m, _, rest, first, ⟨ms, others, rfl⟩, closes, rfl⟩ := h.split
    have all : ∀ x ∈ m :: ms, x.Padded ∧ IsValue x.element.value :=
      List.forall_mem_cons.2 ⟨first, others⟩
    refine ⟨_, rest, .object (fun x mem => (all x mem).1) (fun x mem => (all x mem).2), closes, ?_⟩
    simp

/-! Parts of values. -/

/-- After an opening quote, the rest of a string. -/
theorem AwaitsQuote.text {isName : Bool} (h : AwaitsQuote isName stack bs) :
    Then IsText (if isName then AwaitsColon stack else Closes stack) (octet '"' :: bs) := by
  obtain ⟨content, _, isContent, ⟨_, rest, rfl, after, rfl⟩, rfl⟩ := h
  exact ⟨octet '"' :: (content ++ [octet '"']), rest, .quoted isContent, after, by simp⟩

theorem Then.zero (h : Then IsFraction (Then IsPower Q) bs) :
    Then IsUnsigned Q (octet '0' :: bs) := by
  obtain ⟨fraction, _, isFraction, ⟨power, rest, isPower, after, rfl⟩, rfl⟩ := h
  exact ⟨[octet '0'] ++ (fraction ++ power), rest, .parts .zero isFraction isPower, after, by simp⟩

theorem Then.whole (lead : 49 ≤ b.toNat ∧ b.toNat ≤ 57)
    (h : Then AllDigits (Then IsFraction (Then IsPower Q)) bs) : Then IsUnsigned Q (b :: bs) := by
  obtain ⟨ds, _, digits, ⟨fraction, _, isFraction, ⟨power, rest, isPower, after, rfl⟩, rfl⟩, rfl⟩ := h
  exact ⟨(b :: ds) ++ (fraction ++ power), rest, .parts (.digits lead digits) isFraction isPower,
    after, by simp⟩

/-- The rest of a word, after its first letter. -/
theorem AwaitsValue.word {owed : Octets} (isValue : IsValue (b :: owed))
    (h : Then (· = owed) (Closes stack) bs) : AwaitsValue stack (b :: bs) := by
  obtain ⟨_, rest, rfl, closes, rfl⟩ := h
  exact .nil isBlank_nil ⟨_, rest, isValue, closes, rfl⟩

/-! One step. -/

theorem awaits_startValue (h : startValue stack b = .ok (p', stack'))
    (more : Awaits p' stack' bs) : AwaitsValue stack (b :: bs) := by
  unfold startValue at h
  by_cases space : isSpace b = true
  · rw [if_pos space] at h
    cases h
    exact Then.cons (IsBlank.cons space) more
  rw [if_neg space] at h
  by_cases null : b = octet 'n'
  · rw [if_pos null] at h
    cases h
    subst null
    exact .word .nullWord more
  rw [if_neg null] at h
  by_cases true_ : b = octet 't'
  · rw [if_pos true_] at h
    cases h
    subst true_
    exact .word .trueWord more
  rw [if_neg true_] at h
  by_cases false_ : b = octet 'f'
  · rw [if_pos false_] at h
    cases h
    subst false_
    exact .word .falseWord more
  rw [if_neg false_] at h
  by_cases sign : b = octet '-'
  · rw [if_pos sign] at h
    cases h
    subst sign
    exact .nil isBlank_nil (Then.cons (fun _ isUnsigned => .number (.negative isUnsigned)) more)
  rw [if_neg sign] at h
  by_cases zero : b = octet '0'
  · rw [if_pos zero] at h
    cases h
    subst zero
    exact .nil isBlank_nil (Then.zero more |>.imp fun _ isUnsigned => .number (.positive isUnsigned))
  rw [if_neg zero] at h
  by_cases lead : 49 ≤ b.toNat ∧ b.toNat ≤ 57
  · rw [if_pos lead] at h
    cases h
    exact .nil isBlank_nil
      (Then.whole lead more |>.imp fun _ isUnsigned => .number (.positive isUnsigned))
  rw [if_neg lead] at h
  by_cases quote : b = octet '"'
  · rw [if_pos quote] at h
    cases h
    subst quote
    exact .nil isBlank_nil (AwaitsQuote.text more |>.imp fun _ isText => .text isText)
  rw [if_neg quote] at h
  by_cases bracket : b = octet '['
  · rw [if_pos bracket] at h
    cases h
    subst bracket
    exact .list more
  rw [if_neg bracket] at h
  by_cases brace : b = octet '\x7b'
  · rw [if_pos brace] at h
    cases h
    subst brace
    exact .object more
  · rw [if_neg brace] at h
    cases h

theorem awaits_startName (h : startName stack b = .ok (p', stack')) (more : Awaits p' stack' bs) :
    AwaitsName stack (b :: bs) := by
  unfold startName at h
  split at h
  · next space =>
    cases h
    exact Then.cons (IsBlank.cons space) more
  split at h
  · next quote =>
    cases h
    subst quote
    exact .nil isBlank_nil (AwaitsQuote.text more)
  · cases h

theorem awaits_afterValue {top : Bracket} (h : afterValue (top :: stack) b = .ok (p', stack'))
    (more : Awaits p' stack' bs) : Closes (top :: stack) (b :: bs) := by
  unfold afterValue at h
  split at h
  · next space =>
    cases h
    exact Closes.blank more space
  cases top with
  | list =>
    dsimp only at h
    split at h
    · next comma =>
      cases h
      subst comma
      exact .element more
    split at h
    · next bracket =>
      cases h
      subst bracket
      exact .bracket more
    · cases h
  | object =>
    dsimp only at h
    split at h
    · next comma =>
      cases h
      subst comma
      exact .member more
    split at h
    · next brace =>
      cases h
      subst brace
      exact .brace more
    · cases h

theorem awaits_afterOpened (h : afterOpened stack b = .ok (p', stack')) (more : Awaits p' stack' bs) :
    Awaits .opened stack (b :: bs) := by
  unfold afterOpened at h
  split at h
  · next space =>
    cases h
    cases stack with
    | nil => exact more
    | cons top stack =>
      cases top <;> exact more.imp (Then.cons (IsBlank.cons space)) (Then.cons (IsBlank.cons space))
  cases stack with
  | nil => cases h
  | cons top stack =>
    cases top with
    | list =>
      dsimp only at h
      split at h
      · next bracket =>
        cases h
        subst bracket
        exact .inl (.nil isBlank_nil (.single more))
      · exact .inr (awaits_startValue h more)
    | object =>
      dsimp only at h
      split at h
      · next brace =>
        cases h
        subst brace
        exact .inl (.nil isBlank_nil (.single more))
      · exact .inr (awaits_startName h more)

/-- Where the machine goes on with a number though no bracket is open, a point or a power follows. -/
theorem continues_of_goes {here : Place} (number : here.endsNumber = true)
    (goes : stopsBefore here [] b = false) (digit : ¬ IsDigit b) :
    b = octet '.' ∧ (here = .zero ∨ here = .whole) ∨
      (b = octet 'e' ∨ b = octet 'E') ∧ here ≠ .powerDigits := by
  have octet : stopsBefore.isDigitOctet b = false := by
    unfold stopsBefore.isDigitOctet
    simpa [IsDigit] using digit
  rcases Place.eq_of_endsNumber number with rfl | rfl | rfl | rfl <;>
    simp [stopsBefore, octet] at goes ⊢ <;> grind

/-- After digits a number goes on with a point or a power, or is over. -/
theorem awaits_afterDigits {here : Place} {mayPoint : Bool} (number : here.endsNumber = true)
    (may : here = .zero ∨ here = .whole → mayPoint = true) (goes : stopsBefore here stack b = false)
    (digit : ¬ IsDigit b) (h : afterDigits here mayPoint stack b = .ok (p', stack'))
    (more : Awaits p' stack' bs) :
    mayPoint = true ∧ b = octet '.' ∧ Then IsDigits (Then IsPower (Closes stack)) bs ∨
      here ≠ .powerDigits ∧ Then IsPower (Closes stack) (b :: bs) ∨ Closes stack (b :: bs) := by
  unfold afterDigits at h
  -- with no bracket open the machine would have stopped but for a point or a power
  have bracket (point : ¬ (mayPoint = true ∧ b = octet '.'))
      (power : ¬ (here ≠ .powerDigits ∧ (b = octet 'e' ∨ b = octet 'E'))) :
      ∃ top outer, stack = top :: outer := by
    cases stack with
    | cons top outer => exact ⟨top, outer, rfl⟩
    | nil =>
      obtain ⟨isPoint, place⟩ | ⟨letter, place⟩ := continues_of_goes number goes digit
      · exact absurd ⟨may place, isPoint⟩ point
      · exact absurd ⟨place, letter⟩ power
  split at h
  · next space =>
    cases h
    have point : ¬ (mayPoint = true ∧ b = octet '.') := by
      rintro ⟨_, rfl⟩
      cases space
    have power : ¬ (here ≠ .powerDigits ∧ (b = octet 'e' ∨ b = octet 'E')) := by
      rintro ⟨_, rfl | rfl⟩ <;> cases space
    obtain ⟨top, outer, rfl⟩ := bracket point power
    exact .inr (.inr (Closes.blank more space))
  split at h
  · next point =>
    cases h
    exact .inl ⟨point.1, point.2, more⟩
  split at h
  · next power =>
    cases h
    obtain ⟨sign, _, isSign, ⟨ds, rest, digits, closes, rfl⟩, rfl⟩ := more
    exact .inr (.inl ⟨power.1, b :: (sign ++ ds), rest, .letter power.2 isSign digits, closes, by simp⟩)
  · next point power =>
    obtain ⟨top, outer, rfl⟩ := bracket point power
    exact .inr (.inr (awaits_afterValue h more))

/-- A fraction and a power that are there or not, from what stands after the digits. -/
theorem Then.fraction (h : b = octet '.' ∧ Then IsDigits (Then IsPower Q) bs ∨
      Then IsPower Q (b :: bs) ∨ Q (b :: bs)) :
    Then IsFraction (Then IsPower Q) (b :: bs) := by
  obtain ⟨rfl, digits⟩ | power | ended := h
  · exact digits.cons fun _ isDigits => .point isDigits
  · exact .nil .missing power
  · exact .nil .missing (.nil .missing ended)

theorem AwaitsQuote.code {isName : Bool}
    (h : Then (fun ds => ds.length = 4 ∧ ∀ d ∈ ds, Hex.isDigit (Char.ofNat d.toNat) = true)
      (AwaitsQuote isName stack) bs) :
    AwaitsQuote isName stack (octet '\\' :: octet 'u' :: bs) := by
  obtain ⟨ds, _, ⟨four, digits⟩, ⟨content, rest, isContent, after, rfl⟩, rfl⟩ := h
  match ds, four with
  | [i, j, k, l], _ => exact ⟨_, rest, .code digits isContent, after, rfl⟩

/-- Every step takes the first of the octets that are awaited. -/
theorem Awaits.step {ahead : Octets} (goes : stopsBefore p stack b = false)
    (h : Json.step p stack b ahead = .ok (p', stack')) (more : Awaits p' stack' bs) :
    Awaits p stack (b :: bs) := by
  cases p with
  | value => exact awaits_startValue h more
  | opened => exact awaits_afterOpened h more
  | name => exact awaits_startName h more
  | colon =>
    unfold Json.step at h
    dsimp only at h
    split at h
    · next space =>
      cases h
      exact Then.cons (IsBlank.cons space) more
    split at h
    · next colon =>
      cases h
      subst colon
      exact .nil isBlank_nil (.single more)
    · cases h
  | complete =>
    cases stack with
    | nil => cases goes
    | cons top stack => exact awaits_afterValue h more
  | text isName =>
    unfold Json.step at h
    dsimp only at h
    split at h
    · next quote =>
      cases h
      subst quote
      refine .nil .nil (.single ?_)
      cases isName <;> exact more
    split at h
    · next slash =>
      cases h
      subst slash
      exact more
    split at h
    · cases h
    · next quote slash graphic =>
      cases h
      exact Then.cons (fun _ isContent => .plain ⟨quote, slash, by omega⟩ isContent) more
  | escape isName =>
    unfold Json.step at h
    dsimp only at h
    split at h
    · next letter =>
      subst letter
      split at h
      · cases h
      · cases h
        exact AwaitsQuote.code more
    split at h
    · next known =>
      cases h
      obtain ⟨content, rest, isContent, after, rfl⟩ := more
      exact ⟨_, rest, .escape known isContent, after, rfl⟩
    · cases h
  | hex isName owed =>
    unfold Json.step at h
    dsimp only at h
    split at h
    · next digit =>
      cases h
      by_cases last : owed ≤ 1
      · rw [if_pos last] at more
        have length : [b].length = max owed 1 := by
          rw [List.length_singleton]
          omega
        exact ⟨[b], bs, ⟨length, List.forall_mem_singleton.2 digit⟩, more, rfl⟩
      · rw [if_neg last] at more
        refine Then.cons (fun ds front => ⟨?_, List.forall_mem_cons.2 ⟨digit, front.2⟩⟩) more
        rw [List.length_cons, front.1]
        omega
    · cases h
  | word owed =>
    cases owed with
    | nil => trivial
    | cons c owed =>
      unfold Json.step at h
      dsimp only at h
      split at h
      · next same =>
        cases h
        subst same
        cases owed with
        | nil => exact .single more
        | cons d owed => exact Then.cons (fun _ same => congrArg (b :: ·) same) more
      · cases h
  | minus =>
    unfold Json.step at h
    dsimp only at h
    split at h
    · next zero =>
      cases h
      subst zero
      exact .zero more
    split at h
    · next other digit =>
      cases h
      have lead : b.toNat ≠ 48 := fun same => other (UInt8.toNat_inj.1 same)
      obtain ⟨low, high⟩ := isDigit_iff.1 digit
      exact .whole ⟨by omega, high⟩ more
    · cases h
  | zero =>
    unfold Json.step at h
    dsimp only at h
    split at h
    · cases h
    · next digit =>
      obtain ⟨_, point⟩ | ⟨_, power⟩ | ended :=
        awaits_afterDigits rfl (fun _ => rfl) goes (mt isDigit_iff.2 digit) h more
      · exact .fraction (.inl point)
      · exact .fraction (.inr (.inl power))
      · exact .fraction (.inr (.inr ended))
  | whole =>
    unfold Json.step at h
    dsimp only at h
    split at h
    · next digit =>
      cases h
      exact Then.cons (AllDigits.cons (isDigit_iff.1 digit)) more
    · next digit =>
      obtain ⟨_, point⟩ | ⟨_, power⟩ | ended :=
        awaits_afterDigits rfl (fun _ => rfl) goes (mt isDigit_iff.2 digit) h more
      · exact .nil allDigits_nil (.fraction (.inl point))
      · exact .nil allDigits_nil (.fraction (.inr (.inl power)))
      · exact .nil allDigits_nil (.fraction (.inr (.inr ended)))
  | point =>
    unfold Json.step at h
    dsimp only at h
    split at h
    · next digit =>
      cases h
      exact Then.cons (AllDigits.isDigits (isDigit_iff.1 digit)) more
    · cases h
  | fraction =>
    unfold Json.step at h
    dsimp only at h
    split at h
    · next digit =>
      cases h
      exact Then.cons (AllDigits.cons (isDigit_iff.1 digit)) more
    · next digit =>
      obtain ⟨point, _⟩ | ⟨_, power⟩ | ended :=
        awaits_afterDigits rfl (by simp) goes (mt isDigit_iff.2 digit) h more
      · cases point
      · exact .nil allDigits_nil power
      · exact .nil allDigits_nil (.nil .missing ended)
  | power =>
    unfold Json.step at h
    dsimp only at h
    split at h
    · next sign =>
      cases h
      refine ⟨[b], bs, .inr ?_, more, rfl⟩
      exact sign.imp (congrArg fun c => [c]) (congrArg fun c => [c])
    split at h
    · next digit =>
      cases h
      exact .nil (.inl rfl) (Then.cons (AllDigits.isDigits (isDigit_iff.1 digit)) more)
    · cases h
  | powerSign =>
    unfold Json.step at h
    dsimp only at h
    split at h
    · next digit =>
      cases h
      exact Then.cons (AllDigits.isDigits (isDigit_iff.1 digit)) more
    · cases h
  | powerDigits =>
    unfold Json.step at h
    dsimp only at h
    split at h
    · next digit =>
      cases h
      exact Then.cons (AllDigits.cons (isDigit_iff.1 digit)) more
    · next digit =>
      obtain ⟨point, _⟩ | ⟨unfinished, _⟩ | ended :=
        awaits_afterDigits rfl (by simp) goes (mt isDigit_iff.2 digit) h more
      · cases point
      · exact absurd rfl unfinished
      · exact .nil allDigits_nil ended

/-- Where a value is complete and no bracket is open, nothing is awaited. -/
theorem awaits_nil (complete : p.isComplete = true) : Awaits p [] [] := by
  have ended : Closes [] [] := rfl
  cases p with
  | complete => exact ended
  | zero => exact .nil .missing (.nil .missing ended)
  | whole => exact .nil allDigits_nil (.nil .missing (.nil .missing ended))
  | fraction => exact .nil allDigits_nil (.nil .missing ended)
  | powerDigits => exact .nil allDigits_nil ended
  | _ => cases complete

/-- What the machine has passed over is what it awaited. -/
theorem awaits_of_skipFrom {rest : Octets} (h : skipFrom p stack bs = .ok rest) :
    ∃ passed, bs = passed ++ rest ∧ Awaits p stack passed := by
  induction bs generalizing p stack with
  | nil =>
    rw [skipFrom] at h
    split at h
    · next done =>
      cases h
      obtain ⟨rfl, complete⟩ := done
      exact ⟨[], rfl, awaits_nil complete⟩
    · cases h
  | cons b bs ih =>
    rw [skipFrom] at h
    split at h
    · next stops =>
      cases h
      obtain ⟨rfl, complete⟩ := complete_of_stopsBefore stops
      exact ⟨[], rfl, awaits_nil complete⟩
    · next goes =>
      cases stepped : step p stack b bs with
      | error e =>
        rw [stepped] at h
        cases h
      | ok next =>
        obtain ⟨p', stack'⟩ := next
        rw [stepped] at h
        obtain ⟨passed, rfl, more⟩ := ih h
        exact ⟨b :: passed, rfl, more.step (Bool.eq_false_iff.2 goes) stepped⟩

/-- What is passed over is white space and a value. -/
theorem value_of_skip {rest : Octets} (h : skip bs = .ok rest) :
    ∃ blank value, IsBlank blank ∧ IsValue value ∧ bs = blank ++ (value ++ rest) := by
  obtain ⟨_, rfl, awaits⟩ := awaits_of_skipFrom h
  obtain ⟨blank, _, isBlank, ⟨value, _, isValue, rfl, rfl⟩, rfl⟩ := awaits
  exact ⟨blank, value, isBlank, isValue, by simp⟩

/-- What is kept raw is a value. -/
theorem value_of_raw {value rest : Octets} (h : raw bs = .ok (value, rest)) : IsValue value := by
  unfold raw at h
  dsimp only at h
  cases skipped : skip (bs.dropWhile isSpace) with
  | error e =>
    rw [skipped] at h
    cases h
  | ok left =>
    rw [skipped] at h
    simp only [Except.ok.injEq, Prod.mk.injEq] at h
    obtain ⟨taken, rfl⟩ := h
    obtain ⟨blank, passed, isBlank, isValue, start⟩ := value_of_skip skipped
    have none : blank = [] := by
      cases blank with
      | nil => rfl
      | cons b blank =>
        have space := isBlank b List.mem_cons_self
        rw [dropWhile_cons_of_dropWhile start] at space
        cases space
    rw [start, none, List.nil_append, List.length_append, Nat.add_sub_cancel, List.take_left' rfl]
      at taken
    rwa [← taken]

/-- Kept raw are the texts whose octets are a value, and no others. -/
theorem isRaw_iff {s : String} : IsRaw s ↔ IsValue (Utf8.encode s) :=
  ⟨fun h => value_of_raw (raw_of_readRaw h), IsValue.isRaw⟩

end Courier.Json
