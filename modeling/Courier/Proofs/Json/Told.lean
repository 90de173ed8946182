import Courier.Proofs.Json.Object
import Mathlib.Data.List.Forall2

/-!
# What an object tells

A record is told by the values of its members' names alone (`Record.Told`): an object is read as a
record exactly where its members tell it (`Schema.read_object_iff`). This does not change when the
members change places, are written otherwise, or others of unknown names come and go
(`Object.Edit.keeps`). A list of the same values tells the same record
(`Schema.read_list_of_listed`).
-/

namespace Courier.Json
set_option autoImplicit false
open Reading

variable {fs : List Field} {bs blank rest left : Octets}

/-! ## What an object tells -/

/-- The values that are told of a name. -/
def valuesOf (name : String) (told : List (String × Octets)) : List Octets :=
  (told.filter (·.1 = name)).map (·.2)

section ValuesOf
variable {told : List (String × Octets)} {p : String × Octets} {name : String}

theorem valuesOf_append (name : String) (told told' : List (String × Octets)) :
    valuesOf name (told ++ told') = valuesOf name told ++ valuesOf name told' := by
  simp [valuesOf]

theorem valuesOf_cons_self (p : String × Octets) (told : List (String × Octets)) :
    valuesOf p.1 (p :: told) = p.2 :: valuesOf p.1 told := by
  simp [valuesOf]

theorem valuesOf_cons_of_ne (other : p.1 ≠ name) (told : List (String × Octets)) :
    valuesOf name (p :: told) = valuesOf name told := by
  simp [valuesOf, other]

theorem mem_valuesOf {value : Octets} : value ∈ valuesOf name told ↔ (name, value) ∈ told := by
  simp [valuesOf]

end ValuesOf

/-- A member of a record is told by one value, or by none where it may be missing. -/
def Field.Told (f : Field) (x : f.Value) (values : List Octets) : Prop :=
  values = [] ∧ f.absent = some x ∨ ∃ value, values = [value] ∧ Reads f.codec.read value x

/-- A record is told by a value for each of its members, whatever else is told. -/
def Record.Told : (fs : List Field) → Record fs → List (String × Octets) → Prop
  | [], _, _ => True
  | f :: fs, (x, r), told => f.Told x (valuesOf f.name told) ∧ Record.Told fs r told

/-- What becomes of a slot where some values are told of its name. -/
def Field.Fills (f : Field) (slot : Option f.Value) (values : List Octets)
    (slot' : Option f.Value) : Prop :=
  values = [] ∧ slot' = slot ∨
    slot = none ∧ ∃ value x, values = [value] ∧ Reads f.codec.read value x ∧ slot' = some x

theorem Slots.takes_unknown {p : String × Octets} (unknown : p.1 ∉ fs.map Field.name)
    {slots slots' : Slots fs} : Takes fs slots p slots' ↔ slots' = slots := by
  induction fs with
  | nil => exact ⟨fun _ => rfl, fun _ => trivial⟩
  | cons f fs ih =>
    obtain ⟨slot, slots⟩ := slots
    obtain ⟨slot', slots'⟩ := slots'
    rw [List.map_cons, List.mem_cons, not_or] at unknown
    obtain ⟨other, unknown⟩ := unknown
    constructor
    · rintro (⟨same, _⟩ | ⟨_, rfl, takes⟩)
      · exact absurd same.symm other
      · rw [(ih unknown).1 takes]
    · intro same
      cases same
      exact .inr ⟨Ne.symm other, rfl, (ih unknown).2 rfl⟩

/-- Every slot is filled by the values of its own name. -/
theorem Slots.takesAll_cons_iff {f : Field} (new : f.name ∉ fs.map Field.name)
    {slot slot' : Option f.Value} {slots slots' : Slots fs} {told : List (String × Octets)} :
    TakesAll (f :: fs) (slot, slots) told (slot', slots') ↔
      f.Fills slot (valuesOf f.name told) slot' ∧ TakesAll fs slots told slots' := by
  induction told generalizing slot slots with
  | nil =>
    show (slot', slots') = (slot, slots) ↔ _ ∧ slots' = slots
    simp [valuesOf, Field.Fills]
  | cons p told ih =>
    by_cases same : f.name = p.1
    · have values : valuesOf f.name (p :: told) = p.2 :: valuesOf f.name told := by
        rw [same, valuesOf_cons_self]
      have unknown {slots' : Slots fs} : Slots.Takes fs slots p slots' ↔ slots' = slots :=
        Slots.takes_unknown (same ▸ new)
      rw [values]
      constructor
      · rintro ⟨⟨_, slots⟩, ⟨_, rfl, ⟨x, rfl, reads⟩, rfl⟩ | ⟨other, _⟩, all⟩
        · obtain ⟨⟨none, rfl⟩ | ⟨full, _⟩, others⟩ := ih.1 all
          · rw [none]
            exact ⟨.inr ⟨rfl, p.2, x, rfl, reads, rfl⟩, slots, unknown.2 rfl, others⟩
          · cases full
        · exact absurd same other
      · rintro ⟨⟨some, _⟩ | ⟨rfl, value, x, one, reads, rfl⟩, slots', takes, all⟩
        · cases some
        · obtain ⟨rfl, none⟩ := List.cons.inj one
          obtain rfl := unknown.1 takes
          exact ⟨(some x, slots'), .inl ⟨same, rfl, ⟨x, rfl, reads⟩, rfl⟩,
            ih.2 ⟨.inl ⟨none, rfl⟩, all⟩⟩
    · rw [valuesOf_cons_of_ne (Ne.symm same)]
      constructor
      · rintro ⟨⟨slot, slots'⟩, ⟨same', _⟩ | ⟨_, rfl, takes⟩, all⟩
        · exact absurd same' same
        · obtain ⟨fills, all⟩ := ih.1 all
          exact ⟨fills, slots', takes, all⟩
      · rintro ⟨fills, slots', takes, all⟩
        exact ⟨(slot, slots'), .inr ⟨same, rfl, takes⟩, ih.2 ⟨fills, all⟩⟩

theorem Slots.complete_eq_ok {f : Field} {slot : Option f.Value} {slots : Slots fs} {x : f.Value}
    {r : Record fs} : complete (f :: fs) (slot, slots) = .ok (x, r) ↔
      (slot = some x ∨ slot = none ∧ f.absent = some x) ∧ complete fs slots = .ok r := by
  constructor
  · intro h
    have rest {y : f.Value} (here : slot = some y ∨ slot = none ∧ f.absent = some y) :
        y = x ∧ complete fs slots = .ok r := by
      rw [complete_cons here] at h
      cases completed : complete fs slots with
      | error e => rw [completed] at h; cases h
      | ok q => rw [completed] at h; cases h; exact ⟨rfl, rfl⟩
    cases slot with
    | some y =>
      obtain ⟨rfl, completed⟩ := rest (.inl rfl)
      exact ⟨.inl rfl, completed⟩
    | none =>
      cases absent : f.absent with
      | some y =>
        obtain ⟨rfl, completed⟩ := rest (.inr ⟨rfl, absent⟩)
        exact ⟨.inr ⟨rfl, rfl⟩, completed⟩
      | none => cases (complete.eq_4 f fs slots absent).symm.trans h
  · rintro ⟨here, completed⟩
    rw [complete_cons here, completed]
    rfl

theorem Slots.takesAll_nil (told : List (String × Octets)) : TakesAll [] () told () := by
  induction told with
  | nil => rfl
  | cons p told ih => exact ⟨(), trivial, ih⟩

/-- The slots that members fill are a record exactly where the members tell it. -/
theorem Record.told_iff (names : (fs.map Field.name).Nodup) {r : Record fs}
    {told : List (String × Octets)} :
    (∃ final, Slots.TakesAll fs (Slots.empty fs) told final ∧ final.complete fs = .ok r) ↔
      Record.Told fs r told := by
  induction fs with
  | nil => exact ⟨fun _ => trivial, fun _ => ⟨(), Slots.takesAll_nil told, rfl⟩⟩
  | cons f fs ih =>
    obtain ⟨new, names⟩ := List.nodup_cons.1 names
    obtain ⟨x, r⟩ := r
    constructor
    · rintro ⟨⟨slot, slots⟩, all, completed⟩
      obtain ⟨fills, others⟩ := (Slots.takesAll_cons_iff new).1 all
      obtain ⟨here, rest⟩ := Slots.complete_eq_ok.1 completed
      refine ⟨?_, (ih names).1 ⟨slots, others, rest⟩⟩
      obtain ⟨none, rfl⟩ | ⟨_, value, y, one, reads, rfl⟩ := fills
      · obtain full | ⟨_, absent⟩ := here
        · cases full
        · exact .inl ⟨none, absent⟩
      · obtain full | ⟨empty, _⟩ := here
        · cases full
          exact .inr ⟨value, one, reads⟩
        · cases empty
    · rintro ⟨here, others⟩
      obtain ⟨slots, all, completed⟩ := (ih names).2 others
      obtain ⟨none, absent⟩ | ⟨value, one, reads⟩ := here
      · exact ⟨(Option.none, slots), (Slots.takesAll_cons_iff new).2 ⟨.inl ⟨none, rfl⟩, all⟩,
          Slots.complete_eq_ok.2 ⟨.inr ⟨rfl, absent⟩, completed⟩⟩
      · exact ⟨(some x, slots),
          (Slots.takesAll_cons_iff new).2 ⟨.inr ⟨rfl, value, x, one, reads, rfl⟩, all⟩,
          Slots.complete_eq_ok.2 ⟨.inl rfl, completed⟩⟩

/-! ## Objects -/

theorem document_eq_ok {α : Type} {read : Reader α} {x : α} :
    document read bs = .ok x ↔ ∃ rest, read bs = .ok (x, rest) ∧ IsBlank rest := by
  unfold document
  cases read bs with
  | error e => simp [bind, Except.bind]
  | ok p =>
    obtain ⟨y, rest⟩ := p
    show (if rest.all isSpace = true then Except.ok y else _) = _ ↔ _
    split
    · next space =>
      refine ⟨fun h => ?_, ?_⟩
      · cases h
        exact ⟨rest, rfl, List.all_eq_true.1 space⟩
      · rintro ⟨_, same, _⟩
        cases same
        rfl
    · next space =>
      refine ⟨nofun, ?_⟩
      rintro ⟨_, same, isBlank⟩
      cases same
      exact absurd (List.all_eq_true.2 isBlank) space

theorem lift_eq_ok {α : Type} {result : Except Error α} {x : α} {mid : Octets} :
    (liftM result : Reader α) bs = .ok (x, mid) ↔ result = .ok x ∧ mid = bs := by
  cases result with
  | error e => exact ⟨nofun, nofun⟩
  | ok y =>
    constructor
    · intro h
      cases h
      exact ⟨rfl, rfl⟩
    · rintro ⟨same, rfl⟩
      cases same
      rfl

/-- What is read behind an opening brace. -/
theorem Schema.read_brace (s : Schema) (isBlank : IsBlank blank) (rest : Octets) :
    s.read (blank ++ octet '\x7b' :: rest)
      = (members s.fields (rest.length + 1) true (Slots.empty s.fields) >>= fun slots =>
          liftM (slots.complete s.fields) >>= fun record =>
          endOfObject >>= fun _ => pure record) rest := by
  unfold Schema.read
  rw [bind_ok (peek_blank isBlank (by decide) _)]
  rfl

theorem length_le_listing (entries : List Entry) :
    entries.length ≤ (listing (entries.map (·.member.octets))).length := by
  cases entries with
  | nil => exact Nat.zero_le _
  | cons e entries =>
    have others := length_following (entries.map (·.member.octets))
    have one : 0 < e.member.octets.length := by
      simp only [Member.octets, List.length_append, List.length_cons]
      omega
    rw [List.length_map] at others
    rw [List.map_cons, listing, List.length_append, List.length_cons]
    omega

section Object
variable {s : Schema} {o : Object} {r : Record s.fields}

/-- An object is read as a record exactly where its members tell the record. -/
theorem Schema.read_object_iff (names : (s.fields.map Field.name).Nodup)
    (lexical : Field.Lexical s.fields) (before : IsBlank o.before) (gap : IsBlank o.gap)
    (entries : ∀ e ∈ o.entries, e.WellFormed) :
    s.read o.octets = .ok (r, left) ↔ Record.Told s.fields r o.told ∧ left = o.after := by
  unfold Object.octets
  rw [s.read_brace before]
  have enough : o.entries.length < (o.gap ++ (listing (o.entries.map (·.member.octets))
      ++ octet '\x7d' :: o.after)).length + 1 := by
    have := length_le_listing o.entries
    simp only [List.length_append, List.length_cons]
    omega
  rw [← Record.told_iff names]
  constructor
  · intro h
    obtain ⟨slots, mid, filled, behind⟩ := bind_eq_ok h
    obtain ⟨all, rfl⟩ := (members_listing_iff lexical _ entries enough gap o.after).1 filled
    obtain ⟨record, mid, lifted, ended⟩ := bind_eq_ok behind
    obtain ⟨completed, rfl⟩ := lift_eq_ok.1 lifted
    rw [bind_ok (endOfObject_brace _)] at ended
    cases ended
    exact ⟨⟨slots, all, completed⟩, rfl⟩
  · rintro ⟨⟨slots, all, completed⟩, rfl⟩
    rw [bind_ok ((members_listing_iff lexical _ entries enough gap o.after).2 ⟨all, rfl⟩),
      bind_ok (lift_eq_ok.2 ⟨completed, rfl⟩), bind_ok (endOfObject_brace _)]
    rfl

/-- What was read as an object is one. -/
theorem Schema.object_of_read (lexical : Field.Lexical s.fields)
    (brace : (bs.dropWhile isSpace).head? = some (octet '\x7b')) (h : s.read bs = .ok (r, left)) :
    ∃ o : Object, IsBlank o.before ∧ IsBlank o.gap ∧ (∀ e ∈ o.entries, e.WellFormed) ∧
      o.after = left ∧ o.octets = bs := by
  have looked : peek bs = .ok (some (octet '\x7b'), bs.dropWhile isSpace) := by
    rw [← brace]
    rfl
  obtain ⟨before, rest, isBefore, _, rfl, _⟩ := peek_eq_some looked
  rw [s.read_brace isBefore] at h
  obtain ⟨slots, mid, filled, behind⟩ := bind_eq_ok h
  obtain ⟨gap, entries, after, isGap, wellFormed, rfl, rfl⟩ :=
    entries_of_members lexical (Nat.lt_succ_self _) filled
  obtain ⟨record, _, lifted, ended⟩ := bind_eq_ok behind
  obtain ⟨_, rfl⟩ := lift_eq_ok.1 lifted
  rw [bind_ok (endOfObject_brace _)] at ended
  cases ended
  exact ⟨⟨before, gap, entries, left⟩, isBefore, isGap, wellFormed, rfl, rfl⟩

end Object

/-! ## Edits -/

section Edits
variable {r : Record fs} {told told' front back : List (String × Octets)} {p : String × Octets}
  {name : String}

/-- What is told of a name that no member has is nothing to a record. -/
theorem Record.told_insert (unknown : p.1 ∉ fs.map Field.name) :
    Record.Told fs r (front ++ p :: back) ↔ Record.Told fs r (front ++ back) := by
  induction fs with
  | nil => rfl
  | cons f fs ih =>
    rw [List.map_cons, List.mem_cons, not_or] at unknown
    obtain ⟨other, unknown⟩ := unknown
    obtain ⟨x, r⟩ := r
    have values : valuesOf f.name (front ++ p :: back) = valuesOf f.name (front ++ back) := by
      rw [valuesOf_append, valuesOf_append, valuesOf_cons_of_ne other]
    show _ ∧ Record.Told fs r _ ↔ _ ∧ Record.Told fs r _
    rw [ih unknown, values]

/-- The order in which members are told is nothing to a record. -/
theorem Record.told_perm (order : told.Perm told') (h : Record.Told fs r told) :
    Record.Told fs r told' := by
  induction fs with
  | nil => trivial
  | cons f fs ih =>
    obtain ⟨here, others⟩ := h
    have values : (valuesOf f.name told).Perm (valuesOf f.name told') :=
      (order.filter _).map _
    refine ⟨?_, ih others⟩
    obtain ⟨none, absent⟩ | ⟨value, one, reads⟩ := here
    · rw [none] at values
      exact .inl ⟨values.symm.eq_nil, absent⟩
    · rw [one] at values
      exact .inr ⟨value, values.symm.eq_singleton, reads⟩

/-- An edit tells a record that was told before. -/
theorem Object.Edit.keeps {o o' : Object} (edit : o.Edit (fs.map Field.name) o')
    (h : Record.Told fs r o.told) : Record.Told fs r o'.told := by
  cases edit with
  | permuted order => exact Record.told_perm (order.map Entry.told) h
  | rewritten same => rwa [same]
  | @inserted front back e place unknown =>
    unfold Object.told at h ⊢
    rw [place, List.map_append] at h
    rw [List.map_append, List.map_cons]
    exact (Record.told_insert unknown).2 h
  | @removed front back e place unknown =>
    unfold Object.told at h ⊢
    rw [place, List.map_append, List.map_cons] at h
    rw [List.map_append]
    exact (Record.told_insert unknown).1 h

/-- What is told of each member of a record. -/
theorem Record.Told.field (h : Record.Told fs r told) {f : Field} (mem : f ∈ fs) :
    ∃ x, f.Told x (valuesOf f.name told) := by
  induction fs with
  | nil => cases mem
  | cons g fs ih =>
    obtain ⟨x, r⟩ := r
    obtain ⟨here, others⟩ := h
    obtain rfl | mem := List.mem_cons.1 mem
    · exact ⟨x, here⟩
    · exact ih others mem

/-- One value at most is told of a member. -/
theorem Field.Told.length_le {f : Field} {x : f.Value} {values : List Octets}
    (h : f.Told x values) : values.length ≤ 1 := by
  obtain ⟨rfl, _⟩ | ⟨value, rfl, _⟩ := h
  · exact Nat.zero_le 1
  · exact Nat.le_refl 1

theorem valuesOf_between (same : p.1 = name) (front back : List (String × Octets)) :
    valuesOf name (front ++ p :: back) = valuesOf name front ++ p.2 :: valuesOf name back := by
  subst same
  rw [valuesOf_append, valuesOf_cons_self]

/-- No record is told once the only value of a member that has to be there is gone. -/
theorem Record.Told.not_removed {r' : Record fs} (h : Record.Told fs r (front ++ p :: back))
    {f : Field} (mem : f ∈ fs) (required : f.absent = none) (same : p.1 = f.name) :
    ¬ Record.Told fs r' (front ++ back) := by
  intro removed
  obtain ⟨x, before⟩ := h.field mem
  obtain ⟨y, ⟨_, absent⟩ | ⟨value, one, _⟩⟩ := removed.field mem
  · rw [required] at absent
    cases absent
  · have once := before.length_le
    have still := congrArg List.length one
    rw [valuesOf_between same, List.length_append, List.length_cons] at once
    rw [valuesOf_append, List.length_append, List.length_singleton] at still
    omega

/-- No record is told where a member that has to be there is told once more. -/
theorem Record.Told.not_repeated {r' : Record fs} (h : Record.Told fs r (front ++ back))
    {f : Field} (mem : f ∈ fs) (required : f.absent = none) (same : p.1 = f.name) :
    ¬ Record.Told fs r' (front ++ p :: back) := by
  intro repeated
  obtain ⟨y, after⟩ := repeated.field mem
  obtain ⟨x, ⟨_, absent⟩ | ⟨value, one, _⟩⟩ := h.field mem
  · rw [required] at absent
    cases absent
  · have once := after.length_le
    have already := congrArg List.length one
    rw [valuesOf_between same, List.length_append, List.length_cons] at once
    rw [valuesOf_append, List.length_append, List.length_singleton] at already
    omega

end Edits

/-! ## Lists -/

/-- A record is listed by a value for each of its members, in the order of declaration. -/
def Record.Listed : (fs : List Field) → Record fs → List Octets → Prop
  | [], _, [] => True
  | f :: fs, (x, r), value :: values => Reads f.codec.read value x ∧ Record.Listed fs r values
  | _, _, _ => False

section List
variable {s : Schema} {value : Octets} {elements : List Element} {blank' : Octets}

theorem anotherElement_value (isBlank : IsBlank blank) (isValue : IsValue value) (rest : Octets) :
    anotherElement true (blank ++ (value ++ rest)) = .ok (true, value ++ rest) := by
  obtain ⟨b, more, start, space, bracket⟩ := isValue.starts
  unfold anotherElement
  rw [start, List.cons_append, bind_ok (peek_blank isBlank space _)]
  dsimp only
  rw [if_neg bracket]
  rfl

theorem anotherElement_next (isBlank : IsBlank blank) (isBlank' : IsBlank blank')
    (isValue : IsValue value) (rest : Octets) :
    anotherElement false (blank ++ octet ',' :: (blank' ++ (value ++ rest)))
      = .ok (true, value ++ rest) := by
  obtain ⟨b, more, start, space, bracket⟩ := isValue.starts
  unfold anotherElement
  rw [bind_ok (peek_blank isBlank (by decide) _)]
  dsimp only
  rw [if_neg (by decide), if_neg Bool.false_ne_true, if_pos rfl, bind_ok (advance_cons _ _), start,
    List.cons_append, bind_ok (peek_blank isBlank' space _)]
  dsimp only
  rw [if_neg bracket]
  rfl

theorem endOfList_blank (isBlank : IsBlank blank) (rest : Octets) :
    endOfList (blank ++ octet ']' :: rest) = .ok ((), rest) := by
  unfold endOfList
  rw [bind_ok (peek_blank isBlank (by decide) _)]
  rfl

/-- One more element, then the others. -/
theorem Schema.readElements_cons {f : Field} {index : Nat} {first : Bool} {x : f.Value}
    {r : Record fs} {mid after : Octets} (another : anotherElement first bs = .ok (true, mid))
    (head : f.codec.read mid = .ok (x, after))
    (tail : s.readElements fs (index + 1) false after = .ok (r, left)) :
    s.readElements (f :: fs) index first bs = .ok ((x, r), left) := by
  unfold Schema.readElements
  rw [bind_ok another, if_pos rfl, bind_ok head, bind_ok tail]
  rfl

theorem ends_elements (isBlank : IsBlank blank) (elements : List Element) (rest : Octets) :
    Ends (blank ++ (following (elements.map Element.octets) ++ octet ']' :: rest)) :=
  isBlank.ends (ends_following (ends_cons _ (by simp)) _)

theorem Element.octets_append (e : Element) (rest : Octets) :
    e.octets ++ rest = e.before ++ (e.value ++ (e.after ++ rest)) := by
  simp [Element.octets]

/-- Elements after the first one. -/
theorem Schema.readElements_of_listed {r : Record fs} (padded : ∀ e ∈ elements, e.Padded)
    (isValue : ∀ e ∈ elements, IsValue e.value)
    (listed : Record.Listed fs r (elements.map (·.value))) (index : Nat) (isBlank : IsBlank blank)
    (rest : Octets) :
    ∃ trail, IsBlank trail ∧ s.readElements fs index false
        (blank ++ (following (elements.map Element.octets) ++ octet ']' :: rest))
      = .ok (r, trail ++ octet ']' :: rest) := by
  induction fs generalizing elements index blank with
  | nil =>
    cases elements with
    | nil => exact ⟨blank, isBlank, rfl⟩
    | cons e elements => cases listed
  | cons f fs ih =>
    obtain ⟨x, r⟩ := r
    cases elements with
    | nil => cases listed
    | cons e elements =>
      obtain ⟨here, others⟩ := listed
      obtain ⟨⟨before, after⟩, padded⟩ := List.forall_mem_cons.1 padded
      obtain ⟨one, isValue⟩ := List.forall_mem_cons.1 isValue
      obtain ⟨trail, isTrail, tail⟩ := ih padded isValue others (index + 1) after
      have another := anotherElement_next isBlank before one
      rw [List.map_cons, following_cons, Element.octets_append]
      refine ⟨trail, isTrail, readElements_cons (another _) ?_ tail⟩
      exact here [] _ isBlank_nil (ends_elements after elements rest)

/-- All elements of a list. -/
theorem Schema.readElements_first (s : Schema) {r : Record fs} {e : Element}
    (padded : ∀ x ∈ e :: elements, x.Padded) (isValue : ∀ x ∈ e :: elements, IsValue x.value)
    (listed : Record.Listed fs r ((e :: elements).map (·.value))) (rest : Octets) :
    ∃ trail, IsBlank trail ∧ s.readElements fs 0 true
        (listing ((e :: elements).map Element.octets) ++ octet ']' :: rest)
      = .ok (r, trail ++ octet ']' :: rest) := by
  cases fs with
  | nil => cases listed
  | cons f fs =>
    obtain ⟨x, r⟩ := r
    obtain ⟨here, others⟩ := listed
    obtain ⟨⟨before, after⟩, padded⟩ := List.forall_mem_cons.1 padded
    obtain ⟨one, isValue⟩ := List.forall_mem_cons.1 isValue
    obtain ⟨trail, isTrail, tail⟩ := readElements_of_listed padded isValue others 1 after rest
    have another := anotherElement_value before one
    rw [List.map_cons, listing, List.append_assoc, Element.octets_append]
    refine ⟨trail, isTrail, readElements_cons (another _) ?_ tail⟩
    exact here [] _ isBlank_nil (ends_elements after elements rest)

/-- A list of values that list a record is read as that record. -/
theorem Schema.read_of_listed {r : Record s.fields} {e : Element}
    (padded : ∀ x ∈ e :: elements, x.Padded) (isValue : ∀ x ∈ e :: elements, IsValue x.value)
    (listed : Record.Listed s.fields r ((e :: elements).map (·.value))) (isBlank : IsBlank blank)
    (rest : Octets) :
    s.read (blank ++ octet '[' ::
        (listing ((e :: elements).map Element.octets) ++ octet ']' :: rest)) = .ok (r, rest) := by
  obtain ⟨trail, isTrail, read⟩ := readElements_first s padded isValue listed rest
  unfold Schema.read
  rw [bind_ok (peek_blank isBlank (by decide) _)]
  dsimp only
  rw [if_neg (by decide), if_pos rfl, bind_ok (advance_cons _ _), bind_ok read,
    bind_ok (endOfList_blank isTrail rest)]
  rfl

/-- The values that an object tells of the members of a record, in the order of declaration, list
the record. -/
theorem Record.Told.listed {r : Record fs} {told : List (String × Octets)} {values : List Octets}
    (h : Record.Told fs r told)
    (each : List.Forall₂ (fun name value => (name, value) ∈ told) (fs.map Field.name) values) :
    Record.Listed fs r values := by
  induction fs generalizing values with
  | nil =>
    cases each
    trivial
  | cons f fs ih =>
    obtain ⟨x, r⟩ := r
    obtain ⟨here, others⟩ := h
    cases each with
    | cons first each =>
      refine ⟨?_, ih others each⟩
      have mem := mem_valuesOf.2 first
      obtain ⟨none, _⟩ | ⟨value, one, reads⟩ := here
      · rw [none] at mem
        cases mem
      · rw [one, List.mem_singleton] at mem
        rwa [mem]

end List

end Courier.Json
