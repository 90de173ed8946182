import Courier.Json.Object
import Courier.Proofs.Json.Lexical

/-!
# Reading the members of an object

A member fills the slot of its name with what the codec reads from its value, or leaves the slots
alone where its name is unknown (`Slots.Takes`). So members are read exactly where their values are
taken one after the other, whatever white space there is and however their names are spelled
(`members_listing_iff`), and whatever is read as members is members (`entries_of_members`).
-/

namespace Courier.Json
set_option autoImplicit false
open Reading

variable {α : Type} {read : Reader α} {fs : List Field} {name : String}
  {bs blank blank' value mid rest tail : Octets}

/-! ## Colons and commas -/

theorem colon_blank (isBlank : IsBlank blank) (rest : Octets) :
    colon (blank ++ octet ':' :: rest) = .ok ((), rest) := by
  unfold colon
  rw [bind_ok (peek_blank isBlank (by decide) _)]
  rfl

theorem colon_eq_ok (h : colon bs = .ok ((), mid)) :
    ∃ blank, IsBlank blank ∧ bs = blank ++ octet ':' :: mid := by
  unfold colon at h
  obtain ⟨found, _, peeked, h⟩ := bind_eq_ok h
  cases found with
  | none => cases h
  | some b =>
    dsimp only at h
    split at h
    · next same =>
      subst same
      obtain ⟨blank, rest, isBlank, _, rfl, rfl⟩ := peek_eq_some peeked
      cases h
      exact ⟨blank, isBlank, rfl⟩
    · cases h

/-! ## A member after its name -/

/-- Reads a member after its name: into its slot, or past it where no member has the name. -/
def Slots.readMember (fs : List Field) (slots : Slots fs) (name : String) : Reader (Slots fs) :=
  match slots.readNamed fs name with
  | some read => read
  | none => do
    colon
    skipValue
    pure slots

theorem members_succ (fs : List Field) (fuel : Nat) (first : Bool) (slots : Slots fs) :
    members fs (fuel + 1) first slots = (do
      if ← anotherMember first then
        advance
        let name ← text
        members fs fuel false (← Slots.readMember fs slots name)
      else pure slots) := by
  refine congrArg (anotherMember first >>= ·) (funext fun another => ?_)
  cases another with
  | false => rfl
  | true =>
    refine congrArg (advance >>= ·) (funext fun _ => ?_)
    refine congrArg (text >>= ·) (funext fun name => ?_)
    unfold Slots.readMember
    cases slots.readNamed fs name with
    | some read => rfl
    | none => simp [bind_assoc]

theorem Slots.readMember_of_named {slots : Slots fs} {read : Reader (Slots fs)}
    (named : slots.readNamed fs name = some read) : readMember fs slots name = read := by
  unfold readMember
  rw [named]

theorem Slots.readMember_self (f : Field) (fs : List Field) (slot : Option f.Value)
    (slots : Slots fs) : readMember (f :: fs) (slot, slots) f.name =
      match slot with
      | some _ => throw (.repeatedField f.name)
      | none => colon >>= fun _ => f.codec.read >>= fun value => pure (some value, slots) := by
  have named : readNamed (f :: fs) (slot, slots) f.name = some _ := if_pos rfl
  have same := readMember_of_named named
  cases slot <;> exact same

theorem Slots.readMember_of_ne {f : Field} (other : f.name ≠ name) (slot : Option f.Value)
    (slots : Slots fs) : readMember (f :: fs) (slot, slots) name =
      readMember fs slots name >>= fun slots => pure (slot, slots) := by
  have named : readNamed (f :: fs) (slot, slots) name
      = (readNamed fs slots name).map fun read => do return (slot, ← read) := if_neg other
  unfold readMember
  rw [named]
  cases slots.readNamed fs name with
  | some read => rfl
  | none =>
    show (colon >>= fun _ => skipValue >>= fun _ => pure (slot, slots) : Reader _)
      = (colon >>= fun _ => skipValue >>= fun _ => pure slots) >>= fun slots => pure (slot, slots)
    simp only [bind_assoc, pure_bind]

/-- The slots after a member that tells a name and a value: the slot of the name was empty and holds
what the codec reads from the value, and the others are as they were. -/
def Slots.Takes : (fs : List Field) → Slots fs → String × Octets → Slots fs → Prop
  | [], _, _, _ => True
  | f :: fs, (slot, slots), p, (slot', slots') =>
    f.name = p.1 ∧ slot = none ∧ (∃ x, slot' = some x ∧ Reads f.codec.read p.2 x) ∧
        slots' = slots ∨
      f.name ≠ p.1 ∧ slot' = slot ∧ Takes fs slots p slots'

/-- The codecs of a record's members take single values. -/
def Field.Lexical (fs : List Field) : Prop := ∀ f ∈ fs, Json.Lexical f.codec.read

theorem skipValue_value (isBlank : IsBlank blank) (isValue : IsValue value) (ends : Ends rest) :
    skipValue (blank ++ (value ++ rest)) = .ok ((), rest) := by
  unfold skipValue
  rw [skip_value isBlank isValue ends]

/-- A member whose value is taken is read, whatever white space there is. -/
theorem Slots.readMember_of_takes {slots slots' : Slots fs}
    (takes : Takes fs slots (name, value) slots') (isBlank : IsBlank blank)
    (isBlank' : IsBlank blank') (isValue : IsValue value) (ends : Ends rest) :
    readMember fs slots name (blank ++ octet ':' :: (blank' ++ (value ++ rest)))
      = .ok (slots', rest) := by
  induction fs with
  | nil =>
    show (do colon; skipValue; pure slots : Reader Unit) _ = _
    rw [bind_ok (colon_blank isBlank _), bind_ok (skipValue_value isBlank' isValue ends)]
    rfl
  | cons f fs ih =>
    obtain ⟨slot, slots⟩ := slots
    obtain ⟨slot', slots'⟩ := slots'
    obtain ⟨rfl, rfl, ⟨x, rfl, reads⟩, rfl⟩ | ⟨other, rfl, takes⟩ := takes
    · rw [readMember_self]
      dsimp only
      rw [bind_ok (colon_blank isBlank _), bind_ok (reads _ _ isBlank' ends)]
      rfl
    · rw [readMember_of_ne other, bind_ok (ih takes)]
      rfl

/-- A member that was read stands behind a colon, and its value was taken. -/
theorem Slots.takes_of_readMember (lexical : Field.Lexical fs) {slots slots' : Slots fs}
    (h : readMember fs slots name bs = .ok (slots', mid)) :
    ∃ blank blank' value, IsBlank blank ∧ IsBlank blank' ∧ IsValue value ∧
      bs = blank ++ octet ':' :: (blank' ++ (value ++ mid)) ∧
      skip (blank' ++ (value ++ mid)) = .ok mid ∧ Takes fs slots (name, value) slots' := by
  induction fs with
  | nil =>
    change (do colon; skipValue; pure slots : Reader Unit) _ = _ at h
    obtain ⟨_, behind, read, h⟩ := bind_eq_ok h
    obtain ⟨_, _, skipped, h⟩ := bind_eq_ok h
    cases h
    obtain ⟨blank, isBlank, rfl⟩ := colon_eq_ok read
    unfold skipValue at skipped
    split at skipped
    · next left passes =>
      cases skipped
      obtain ⟨blank', value, isBlank', isValue, rfl⟩ := value_of_skip passes
      exact ⟨blank, blank', value, isBlank, isBlank', isValue, rfl, passes, trivial⟩
    · cases skipped
  | cons f fs ih =>
    obtain ⟨slot, slots⟩ := slots
    obtain ⟨first, others⟩ := List.forall_mem_cons.1 lexical
    by_cases same : f.name = name
    · subst same
      rw [readMember_self] at h
      cases slot with
      | some _ => cases h
      | none =>
        dsimp only at h
        obtain ⟨_, behind, read, h⟩ := bind_eq_ok h
        obtain ⟨x, _, content, h⟩ := bind_eq_ok h
        cases h
        obtain ⟨blank, isBlank, rfl⟩ := colon_eq_ok read
        obtain ⟨passes, blank', value, isBlank', isValue, rfl, reads⟩ := first _ _ _ content
        exact ⟨blank, blank', value, isBlank, isBlank', isValue, rfl, passes,
          .inl ⟨rfl, rfl, ⟨x, rfl, reads⟩, rfl⟩⟩
    · rw [readMember_of_ne same] at h
      obtain ⟨slots'', _, read, h⟩ := bind_eq_ok h
      cases h
      obtain ⟨blank, blank', value, isBlank, isBlank', isValue, split, passes, takes⟩ :=
        ih others read
      exact ⟨blank, blank', value, isBlank, isBlank', isValue, split, passes,
        .inr ⟨same, rfl, takes⟩⟩

theorem blank_cancel {b b' : UInt8} {rest' : Octets} (isBlank : IsBlank blank)
    (isBlank' : IsBlank blank') (space : isSpace b = false) (space' : isSpace b' = false)
    (h : blank ++ b :: rest = blank' ++ b' :: rest') : b :: rest = b' :: rest' := by
  have dropped := congrArg (List.dropWhile isSpace) h
  rwa [dropWhile_blank isBlank space, dropWhile_blank isBlank' space'] at dropped

/-- A member that stands behind a colon is read exactly where its value is taken. -/
theorem Slots.readMember_iff (lexical : Field.Lexical fs) {slots slots' : Slots fs}
    (isBlank : IsBlank blank) (isBlank' : IsBlank blank') (isValue : IsValue value)
    (ends : Ends rest) :
    readMember fs slots name (blank ++ octet ':' :: (blank' ++ (value ++ rest)))
        = .ok (slots', mid) ↔
      Takes fs slots (name, value) slots' ∧ mid = rest := by
  constructor
  · intro h
    obtain ⟨before, before', taken, isBefore, isBefore', isTaken, split, passes, takes⟩ :=
      takes_of_readMember lexical h
    have behind := (List.cons.inj (blank_cancel isBlank isBefore (by decide) (by decide) split)).2
    rw [← behind, skip_value isBlank' isValue ends] at passes
    cases passes
    obtain ⟨b, more, start, space⟩ := isValue.split
    obtain ⟨b', more', start', space'⟩ := isTaken.split
    rw [start, start', List.cons_append, List.cons_append] at behind
    have same := blank_cancel isBlank' isBefore' space space' behind
    rw [← List.cons_append, ← List.cons_append, ← start, ← start'] at same
    obtain rfl := List.append_cancel_right same
    exact ⟨takes, rfl⟩
  · rintro ⟨takes, rfl⟩
    exact readMember_of_takes takes isBlank isBlank' isValue ends

/-! ## All members -/

/-- The slots after some members. -/
def Slots.TakesAll (fs : List Field) : Slots fs → List (String × Octets) → Slots fs → Prop
  | slots, [], final => final = slots
  | slots, p :: ps, final => ∃ slots', Takes fs slots p slots' ∧ TakesAll fs slots' ps final

theorem anotherMember_text {token : Octets} (isBlank : IsBlank blank) (isText : IsText token)
    (rest : Octets) :
    anotherMember true (blank ++ (token ++ rest)) = .ok (true, token ++ rest) := by
  obtain ⟨content, rfl⟩ := isText.starts
  unfold anotherMember
  rw [List.cons_append, bind_ok (peek_blank isBlank (by decide) _)]
  rfl

theorem anotherMember_next {token : Octets} (isBlank : IsBlank blank) (isBlank' : IsBlank blank')
    (isText : IsText token) (rest : Octets) :
    anotherMember false (blank ++ octet ',' :: (blank' ++ (token ++ rest)))
      = .ok (true, token ++ rest) := by
  obtain ⟨content, rfl⟩ := isText.starts
  unfold anotherMember
  rw [bind_ok (peek_blank isBlank (by decide) _)]
  dsimp only
  rw [if_neg (by decide), if_neg Bool.false_ne_true, if_pos rfl, bind_ok (advance_cons _ _),
    List.cons_append, bind_ok (peek_blank isBlank' (by decide) _)]
  rfl

theorem anotherMember_brace (first : Bool) (isBlank : IsBlank blank) (rest : Octets) :
    anotherMember first (blank ++ octet '\x7d' :: rest) = .ok (false, octet '\x7d' :: rest) := by
  unfold anotherMember
  rw [bind_ok (peek_blank isBlank (by decide) _)]
  rfl

/-- What stands before the next member, or before the end of the object. -/
theorem anotherMember_eq_ok {first more : Bool} (h : anotherMember first bs = .ok (more, mid)) :
    ∃ blank, IsBlank blank ∧
      (more = false ∧ (∃ rest, mid = octet '\x7d' :: rest) ∧ bs = blank ++ mid ∨
      more = true ∧ (∃ rest, mid = octet '"' :: rest) ∧
        (first = true ∧ bs = blank ++ mid ∨ first = false ∧
          ∃ blank', IsBlank blank' ∧ bs = blank ++ octet ',' :: (blank' ++ mid))) := by
  unfold anotherMember at h
  obtain ⟨found, _, peeked, h⟩ := bind_eq_ok h
  cases found with
  | none => cases h
  | some b =>
    obtain ⟨blank, rest, isBlank, _, rfl, rfl⟩ := peek_eq_some peeked
    refine ⟨blank, isBlank, ?_⟩
    dsimp only at h
    split at h
    · next same =>
      cases h
      exact .inl ⟨rfl, ⟨rest, by rw [same]⟩, rfl⟩
    split at h
    · next isFirst =>
      split at h
      · next same =>
        cases h
        exact .inr ⟨rfl, ⟨rest, by rw [same]⟩, .inl ⟨isFirst, rfl⟩⟩
      · cases h
    next isFirst =>
    split at h
    · next same =>
      subst same
      rw [bind_ok (advance_cons _ _)] at h
      obtain ⟨found, _, peeked, h⟩ := bind_eq_ok h
      cases found with
      | none => cases h
      | some b =>
        obtain ⟨blank', rest, isBlank', _, rfl, rfl⟩ := peek_eq_some peeked
        dsimp only at h
        split at h
        · next same =>
          cases h
          exact .inr ⟨rfl, ⟨rest, by rw [same]⟩,
            .inr ⟨Bool.eq_false_iff.2 isFirst, blank', isBlank', rfl⟩⟩
        · split at h <;> cases h
    · cases h

section Members
variable {first : Bool} {fuel : Nat} {slots final : Slots fs} {left : Octets} {e : Entry}
  {entries : List Entry}

theorem members_brace (fs : List Field) (fuel : Nat) (first : Bool) (slots : Slots fs)
    (isBlank : IsBlank blank) (rest : Octets) :
    members fs (fuel + 1) first slots (blank ++ octet '\x7d' :: rest)
      = .ok (slots, octet '\x7d' :: rest) := by
  rw [members_succ, bind_ok (anotherMember_brace first isBlank rest)]
  rfl

/-- A member up to its name. -/
theorem members_named {token : Octets} (quotes : Quotes token name)
    (another : anotherMember first bs = .ok (true, token ++ rest)) :
    members fs (fuel + 1) first slots bs
      = (Slots.readMember fs slots name >>= members fs fuel false) rest := by
  obtain ⟨content, rfl, spells⟩ := quotes
  have read : text (content ++ octet '"' :: rest) = .ok (name, rest) :=
    text_iff.2 ⟨content, rfl, spells⟩
  rw [List.cons_append, List.append_assoc, List.singleton_append] at another
  rw [members_succ, bind_ok another, if_pos rfl, bind_ok (advance_cons _ _), bind_ok read]

/-- The octets of a member, in front of others. -/
theorem Entry.octets_append (e : Entry) (rest : Octets) :
    e.member.octets ++ rest = e.member.before ++ (e.member.name ++ (e.member.after ++ octet ':' ::
      (e.member.element.before ++ (e.value ++ (e.member.element.after ++ rest))))) := by
  simp [Member.octets, Element.octets, Entry.value]

/-- A member in front of others is read exactly where its value is taken and the others are read. -/
theorem members_entry_iff (lexical : Field.Lexical fs) (wellFormed : e.WellFormed)
    (ends : Ends rest) (another : anotherMember first bs = .ok (true, e.member.name ++
      (e.member.after ++ octet ':' :: (e.member.element.before ++ (e.value ++ rest))))) :
    members fs (fuel + 1) first slots bs = .ok (final, left) ↔
      ∃ slots', Slots.Takes fs slots e.told slots' ∧
        members fs fuel false slots' rest = .ok (final, left) := by
  obtain ⟨_, _, after, before, _⟩ := wellFormed.padded
  rw [members_named wellFormed.quotes another]
  constructor
  · intro h
    obtain ⟨slots', mid, read, others⟩ := bind_eq_ok h
    obtain ⟨takes, rfl⟩ :=
      (Slots.readMember_iff lexical after before wellFormed.isValue ends).1 read
    exact ⟨slots', takes, others⟩
  · rintro ⟨slots', takes, others⟩
    rw [bind_ok (Slots.readMember_of_takes takes after before wellFormed.isValue ends), others]

theorem ends_members (isBlank : IsBlank blank) (entries : List Entry) (rest : Octets) :
    Ends (blank ++ (following (entries.map (·.member.octets)) ++ octet '\x7d' :: rest)) :=
  isBlank.ends (ends_following (ends_cons _ (by simp)) _)

/-- Members after the first one are read exactly where their values are taken in turn. -/
theorem members_following_iff (lexical : Field.Lexical fs) (slots : Slots fs)
    (wellFormed : ∀ e ∈ entries, e.WellFormed) (enough : entries.length < fuel)
    (isBlank : IsBlank blank) (rest : Octets) :
    members fs fuel false slots
        (blank ++ (following (entries.map (·.member.octets)) ++ octet '\x7d' :: rest))
        = .ok (final, left) ↔
      Slots.TakesAll fs slots (entries.map Entry.told) final ∧ left = octet '\x7d' :: rest := by
  induction entries generalizing fuel slots blank with
  | nil =>
    obtain ⟨fuel, rfl⟩ := Nat.exists_eq_add_one.2 enough
    show members fs (fuel + 1) false slots (blank ++ octet '\x7d' :: rest) = _ ↔ _
    rw [members_brace fs fuel false slots isBlank]
    exact ⟨fun h => by cases h; exact ⟨rfl, rfl⟩, fun ⟨same, end'⟩ => by rw [same, end']⟩
  | cons e entries ih =>
    obtain ⟨fuel, rfl⟩ := Nat.exists_eq_add_one.2 (Nat.zero_lt_of_lt enough)
    obtain ⟨one, others⟩ := List.forall_mem_cons.1 wellFormed
    obtain ⟨before, isText, _, _, after⟩ := one.padded
    rw [List.map_cons, following_cons, Entry.octets_append,
      members_entry_iff lexical one (ends_members after entries rest)
        (anotherMember_next isBlank before isText _)]
    have more (slots' : Slots fs) :=
      ih slots' others (Nat.lt_of_succ_lt_succ enough) after
    simp only [more, ← and_assoc, exists_and_right]
    rfl

/-- So are all members of an object. -/
theorem members_listing_iff (lexical : Field.Lexical fs) (slots : Slots fs)
    (wellFormed : ∀ e ∈ entries, e.WellFormed) (enough : entries.length < fuel)
    (isBlank : IsBlank blank) (rest : Octets) :
    members fs fuel true slots
        (blank ++ (listing (entries.map (·.member.octets)) ++ octet '\x7d' :: rest))
        = .ok (final, left) ↔
      Slots.TakesAll fs slots (entries.map Entry.told) final ∧ left = octet '\x7d' :: rest := by
  obtain ⟨fuel, rfl⟩ := Nat.exists_eq_add_one.2 (Nat.zero_lt_of_lt enough)
  cases entries with
  | nil =>
    show members fs (fuel + 1) true slots (blank ++ octet '\x7d' :: rest) = _ ↔ _
    rw [members_brace fs fuel true slots isBlank]
    exact ⟨fun h => by cases h; exact ⟨rfl, rfl⟩, fun ⟨same, end'⟩ => by rw [same, end']⟩
  | cons e entries =>
    obtain ⟨one, others⟩ := List.forall_mem_cons.1 wellFormed
    obtain ⟨before, isText, _, _, after⟩ := one.padded
    have another := anotherMember_text (isBlank.append before) isText
    rw [List.map_cons, listing, List.append_assoc, Entry.octets_append, ← List.append_assoc,
      members_entry_iff lexical one (ends_members after entries rest) (another _)]
    have more (slots' : Slots fs) : _ ↔ Slots.TakesAll fs slots' _ final ∧ left = _ :=
      members_following_iff lexical slots' others (Nat.lt_of_succ_lt_succ enough) after rest
    simp only [more, ← and_assoc, exists_and_right]
    rfl

/-- What was read as members is members. -/
theorem entries_of_members (lexical : Field.Lexical fs) (enough : bs.length < fuel)
    (h : members fs fuel first slots bs = .ok (final, left)) :
    ∃ blank, ∃ entries : List Entry, ∃ rest, IsBlank blank ∧ (∀ e ∈ entries, e.WellFormed) ∧
      left = octet '\x7d' :: rest ∧
      bs = blank ++ ((if first then listing else following) (entries.map (·.member.octets))
        ++ left) := by
  induction fuel generalizing first slots bs with
  | zero => cases enough
  | succ fuel ih =>
    rw [members_succ] at h
    obtain ⟨more, mid, another, continued⟩ := bind_eq_ok h
    obtain ⟨blank, isBlank, ⟨rfl, ⟨rest, rfl⟩, rfl⟩ | ⟨rfl, ⟨content, rfl⟩, place⟩⟩ :=
      anotherMember_eq_ok another
    · obtain ⟨rfl, rfl⟩ := Prod.mk.inj (Except.ok.inj continued)
      refine ⟨blank, [], rest, isBlank, nofun, rfl, ?_⟩
      cases first <;> rfl
    · rw [if_pos rfl, bind_ok (advance_cons _ _)] at continued
      obtain ⟨name, behind, named, member⟩ := bind_eq_ok continued
      obtain ⟨slots', mid, read, others⟩ := bind_eq_ok member
      obtain ⟨spelling, rfl, spells⟩ := text_iff.1 named
      obtain ⟨after, before, value, isAfter, isBefore, isValue, rfl, _, _⟩ :=
        Slots.takes_of_readMember lexical read
      have shorter : mid.length < fuel := by
        obtain ⟨_, rfl⟩ | ⟨_, _, _, rfl⟩ := place <;> simp at enough <;> omega
      obtain ⟨trail, entries, rest, isTrail, wellFormed, rfl, rfl⟩ := ih shorter others
      let e (lead : Octets) : Entry :=
        ⟨name, lead, octet '"' :: (spelling ++ [octet '"']), after, before, value, trail⟩
      have one {lead : Octets} (isLead : IsBlank lead) : (e lead).WellFormed :=
        ⟨⟨isLead, .quoted spells.isContent, isAfter, isBefore, isTrail⟩, ⟨spelling, rfl, spells⟩,
          isValue⟩
      obtain ⟨rfl, rfl⟩ | ⟨rfl, lead, isLead, rfl⟩ := place
      · refine ⟨blank, e [] :: entries, rest, isBlank,
          List.forall_mem_cons.2 ⟨one isBlank_nil, wellFormed⟩, rfl, ?_⟩
        simp [e, listing, Member.octets, Element.octets]
      · refine ⟨blank, e lead :: entries, rest, isBlank,
          List.forall_mem_cons.2 ⟨one isLead, wellFormed⟩, rfl, ?_⟩
        simp [e, following_cons, Member.octets, Element.octets]

end Members

end Courier.Json
