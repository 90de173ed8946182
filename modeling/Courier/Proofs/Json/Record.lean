import Courier.Proofs.Json.Codec

/-!
# Records that come back

A record written as an object is read back member by member (`Schema.read_write`): the slots that
the reader fills are, after the first members, those of the first members (`Slots.filled`). The
codec of a structure over such a record is faithful when its members' codecs are
(`Shape.faithful`). Conversely, whatever a schema reads was read by the members' codecs
(`Schema.read_obtained`).
-/

namespace Courier.Json
set_option autoImplicit false
open Reading

/-- What is read back of each member. -/
def Record.Carries : (fs : List Field) → Record fs → Record fs → Prop
  | [], _, _ => True
  | f :: fs, (x, r), (y, q) => f.codec.Carries x y ∧ Record.Carries fs r q

/-- The slots once the first members have been read. -/
def Slots.filled : (fs : List Field) → Nat → Record fs → Slots fs
  | [], _, _ => ()
  | _ :: fs, 0, (_, r) => (none, Slots.filled fs 0 r)
  | _ :: fs, n + 1, (x, r) => (some x, Slots.filled fs n r)

theorem Slots.filled_zero (fs : List Field) (r : Record fs) :
    Slots.filled fs 0 r = Slots.empty fs := by
  induction fs with
  | nil => rfl
  | cons f fs ih =>
    obtain ⟨x, r⟩ := r
    exact congrArg (Prod.mk none) (ih r)

theorem Slots.complete_filled (fs : List Field) (r : Record fs) :
    Slots.complete fs (Slots.filled fs fs.length r) = .ok r := by
  induction fs with
  | nil => rfl
  | cons f fs ih =>
    obtain ⟨x, r⟩ := r
    show (do return (x, ← Slots.complete fs (Slots.filled fs fs.length r))) = _
    rw [ih]
    rfl

theorem length_writeMembers (fs : List Field) (r : Record fs) :
    (writeMembers fs r).length = fs.length := by
  induction fs with
  | nil => rfl
  | cons f fs ih =>
    obtain ⟨x, r⟩ := r
    exact congrArg (· + 1) (ih r)

theorem map_fst_writeMembers (fs : List Field) (r : Record fs) :
    (writeMembers fs r).map Prod.fst = fs.map Field.name := by
  induction fs with
  | nil => rfl
  | cons f fs ih =>
    obtain ⟨x, r⟩ := r
    exact congrArg (f.name :: ·) (ih r)

theorem colon_cons (rest : Octets) : colon (octet ':' :: rest) = .ok ((), rest) := by
  unfold colon
  rw [bind_ok (peek_cons (by decide) _)]
  rfl

/-- With the first `n` members read, the next one's name finds its empty slot, and its value fills
it. -/
theorem readNamed_filled {fs : List Field} {r q : Record fs} {n : Nat} {m : String × String}
    (names : (fs.map Field.name).Nodup) (carries : Record.Carries fs r q)
    (next : (writeMembers fs r)[n]? = some m) :
    ∃ read, Slots.readNamed fs (Slots.filled fs n q) m.1 = some read ∧
      ∀ rest, Follows rest → read (octet ':' :: (Utf8.encode m.2 ++ rest))
        = .ok (Slots.filled fs (n + 1) q, rest) := by
  induction fs generalizing n with
  | nil => simp [writeMembers] at next
  | cons f fs ih =>
    obtain ⟨x, r⟩ := r
    obtain ⟨y, q⟩ := q
    obtain ⟨head, tail⟩ := carries
    rw [List.map_cons, List.nodup_cons] at names
    cases n with
    | zero =>
      simp only [writeMembers, List.getElem?_cons_zero, Option.some.injEq] at next
      subst next
      refine ⟨_, if_pos rfl, fun rest follows => ?_⟩
      show (colon >>= fun _ => f.codec.read >>= fun value =>
        (pure (some value, Slots.filled fs 0 q) : Reader (Option f.Value × Slots fs))) _ = _
      rw [bind_ok (colon_cons _), bind_ok (head rest follows)]
      rfl
    | succ n =>
      rw [writeMembers, List.getElem?_cons_succ] at next
      obtain ⟨read, found, reads⟩ := ih names.2 tail next
      have other : f.name ≠ m.1 := by
        rintro same
        apply names.1
        rw [same, ← map_fst_writeMembers fs r]
        exact List.mem_map_of_mem (List.mem_of_getElem? next)
      refine ⟨do return (some y, ← read), ?_, fun rest follows => ?_⟩
      · show (if f.name = m.1 then _ else _) = _
        rw [if_neg other]
        show (Slots.readNamed fs (Slots.filled fs n q) m.1).map _ = _
        rw [found]
        rfl
      · rw [bind_ok (reads rest follows)]
        rfl

/-! Members of an object. -/

theorem anotherMember_first (rest : Octets) :
    anotherMember true (octet '"' :: rest) = .ok (true, octet '"' :: rest) := by
  unfold anotherMember
  rw [bind_ok (peek_cons (by decide) _)]
  rfl

theorem anotherMember_comma (rest : Octets) :
    anotherMember false (octet ',' :: octet '"' :: rest) = .ok (true, octet '"' :: rest) := by
  unfold anotherMember
  rw [bind_ok (peek_cons (by decide) _)]
  dsimp only
  rw [if_neg (by decide), if_neg Bool.false_ne_true, if_pos rfl, bind_ok (advance_cons _ _),
    bind_ok (peek_cons (by decide) _)]
  rfl

theorem anotherMember_end (first : Bool) (rest : Octets) :
    anotherMember first (octet '\x7d' :: rest) = .ok (false, octet '\x7d' :: rest) := by
  unfold anotherMember
  rw [bind_ok (peek_cons (by decide) _)]
  rfl

theorem endOfObject_brace (rest : Octets) : endOfObject (octet '\x7d' :: rest) = .ok ((), rest) := by
  unfold endOfObject
  rw [bind_ok (peek_cons (by decide) _)]
  rfl

theorem members_end (fs : List Field) (fuel : Nat) (first : Bool) (slots : Slots fs)
    (rest : Octets) :
    members fs fuel first slots (octet '\x7d' :: rest) = .ok (slots, octet '\x7d' :: rest) := by
  cases fuel with
  | zero => rfl
  | succ fuel =>
    unfold members
    rw [bind_ok (anotherMember_end first rest)]
    rfl

/-- One more member that has a slot, then the others. -/
theorem members_cons {fs : List Field} {fuel : Nat} {first : Bool} {slots slots' final : Slots fs}
    {input value mid rest : Octets} {name : String} {read : Reader (Slots fs)}
    (another : anotherMember first input
      = .ok (true, octet '"' :: (Utf8.encodeChars (name.toList.flatMap escapeChar)
          ++ octet '"' :: value)))
    (found : slots.readNamed fs name = some read) (head : read value = .ok (slots', mid))
    (tail : members fs fuel false slots' mid = .ok (final, rest)) :
    members fs (fuel + 1) first slots input = .ok (final, rest) := by
  unfold members
  rw [bind_ok another, if_pos rfl, bind_ok (advance_cons _ _), bind_ok (text_escaped name value),
    found]
  dsimp only
  rw [bind_ok head, tail]

/-- Members still to come, each behind its comma. -/
def membersAfter (ms : List (String × String)) : Octets :=
  following ((ms.map writeMember).map Utf8.encode)

theorem follows_membersAfter (ms : List (String × String)) (rest : Octets) :
    Follows (membersAfter ms ++ octet '\x7d' :: rest) := by
  cases ms with
  | nil => exact follows_brace rest
  | cons m ms =>
    unfold membersAfter
    rw [List.map_cons, List.map_cons, following_cons]
    exact follows_comma _

section Written

variable {fs : List Field} {r q : Record fs}

/-- The members from the `n`-th on, read with as many rounds as there are members. -/
theorem members_after (names : (fs.map Field.name).Nodup) (carries : Record.Carries fs r q)
    (rest : Octets) :
    ∀ (k n fuel : Nat), n + k = fs.length → k ≤ fuel →
      members fs fuel false (Slots.filled fs n q)
          (membersAfter ((writeMembers fs r).drop n) ++ octet '\x7d' :: rest)
        = .ok (Slots.filled fs fs.length q, octet '\x7d' :: rest) := by
  have length := length_writeMembers fs r
  intro k
  induction k with
  | zero =>
    intro n fuel last _
    obtain rfl : n = fs.length := last
    rw [List.drop_eq_nil_of_le (by omega)]
    exact members_end fs fuel false _ rest
  | succ k ih =>
    intro n fuel count enough
    cases fuel with
    | zero => cases enough
    | succ fuel =>
      have bound : n < (writeMembers fs r).length := by omega
      obtain ⟨read, found, reads⟩ :=
        readNamed_filled names carries (List.getElem?_eq_getElem bound)
      rw [List.drop_eq_getElem_cons bound, membersAfter, List.map_cons, List.map_cons,
        following_cons, encode_writeMember]
      exact members_cons (anotherMember_comma _) found (reads _ (follows_membersAfter _ rest))
        (ih (n + 1) fuel (by omega) (Nat.le_of_succ_le_succ enough))

/-- All members, from the one after the opening bracket on. -/
theorem members_written (names : (fs.map Field.name).Nodup) (carries : Record.Carries fs r q)
    (rest : Octets) {fuel : Nat} (enough : fs.length ≤ fuel) :
    members fs fuel true (Slots.empty fs)
        (Utf8.encode (",".intercalate ((writeMembers fs r).map writeMember))
          ++ octet '\x7d' :: rest)
      = .ok (Slots.filled fs fs.length q, octet '\x7d' :: rest) := by
  have length := length_writeMembers fs r
  rw [← Slots.filled_zero fs q]
  cases written : writeMembers fs r with
  | nil =>
    rw [written] at length
    rw [← length]
    exact members_end fs fuel true _ rest
  | cons m ms =>
    rw [written, List.length_cons] at length
    cases fuel with
    | zero => omega
    | succ fuel =>
      obtain ⟨read, found, reads⟩ := readNamed_filled (n := 0) (m := m) names carries (by
        rw [written]
        rfl)
      have after := members_after names carries rest ms.length 1 fuel (by omega) (by omega)
      rw [written] at after
      rw [List.map_cons, encode_intercalate, List.append_assoc, encode_writeMember]
      exact members_cons (anotherMember_first _) found (reads _ (follows_membersAfter ms rest))
        after

end Written

/-- A member takes an octet at least. -/
theorem length_members_le (ms : List (String × String)) (rest : Octets) :
    ms.length ≤ (Utf8.encode (",".intercalate (ms.map writeMember)) ++ rest).length + 1 := by
  cases ms with
  | nil => exact Nat.zero_le _
  | cons m ms =>
    have length := length_following ((ms.map writeMember).map Utf8.encode)
    rw [List.map_cons, encode_intercalate]
    simp only [List.length_map, List.length_cons, List.length_append] at length ⊢
    omega

/-- A record written as an object is read back, whatever follows the object. -/
theorem Schema.read_write {s : Schema} (names : (s.fields.map Field.name).Nodup)
    {r q : Record s.fields} (carries : Record.Carries s.fields r q) (rest : Octets) :
    s.read (Utf8.encode (s.write r) ++ rest) = .ok (q, rest) := by
  have enough := length_members_le (writeMembers s.fields r) (octet '\x7d' :: rest)
  rw [length_writeMembers] at enough
  unfold Schema.read Schema.write
  rw [encode_writeObject, List.cons_append, bind_ok (peek_cons (by decide) _)]
  dsimp only
  rw [if_pos rfl, bind_ok (advance_cons _ _), List.append_assoc, List.singleton_append,
    bind_ok (a := _) rfl, bind_ok (members_written names carries rest enough),
    Slots.complete_filled, bind_ok (a := q) rfl, bind_ok (endOfObject_brace rest)]
  rfl

/-- The codec of a structure: what its record carries, it carries. -/
theorem Shape.carries {α : Type} {s : Shape α} (names : (s.schema.fields.map Field.name).Nodup)
    {x : α} {q : Record s.schema.fields}
    (carries : Record.Carries s.schema.fields (s.toRecord x) q) :
    s.codec.Carries x (s.ofRecord q) := by
  intro rest _
  show (s.schema.read >>= fun r => pure (s.ofRecord r)) (Utf8.encode (s.schema.write _) ++ rest) = _
  rw [bind_ok (Schema.read_write names carries rest)]
  rfl

/-- Faithful members carry every record to itself. -/
theorem Record.carries_self {fs : List Field} (h : ∀ f ∈ fs, f.codec.Faithful) (r : Record fs) :
    Record.Carries fs r r := by
  induction fs with
  | nil => trivial
  | cons f fs ih =>
    obtain ⟨x, r⟩ := r
    exact ⟨(h f List.mem_cons_self).carries x,
      ih (fun g hg => h g (List.mem_cons_of_mem f hg)) r⟩

theorem isValue_writeMembers {fs : List Field} (h : ∀ f ∈ fs, f.codec.Faithful) (r : Record fs) :
    ∀ m ∈ writeMembers fs r, IsValue (Utf8.encode m.2) := by
  induction fs with
  | nil => intro m hm; cases hm
  | cons f fs ih =>
    obtain ⟨x, r⟩ := r
    intro m hm
    rcases List.mem_cons.1 hm with rfl | hm
    · exact (h f List.mem_cons_self).value x
    · exact ih (fun g hg => h g (List.mem_cons_of_mem f hg)) r m hm

/-- A member with a faithful codec, be it required or optional. -/
theorem faithful_cons {f : Field} {fs : List Field} (head : f.codec.Faithful)
    (tail : ∀ g ∈ fs, g.codec.Faithful) : ∀ g ∈ f :: fs, g.codec.Faithful := by
  intro g hg
  obtain rfl | hg := List.mem_cons.1 hg
  · exact head
  · exact tail g hg

theorem faithful_nil : ∀ f ∈ ([] : List Field), f.codec.Faithful := by
  intro f hf
  cases hf

/-- A structure that its record determines has a faithful codec when its members have. -/
theorem Shape.faithful {α : Type} {s : Shape α} (names : (s.schema.fields.map Field.name).Nodup)
    (inverse : ∀ x, s.ofRecord (s.toRecord x) = x)
    (members : ∀ f ∈ s.schema.fields, f.codec.Faithful) : s.codec.Faithful where
  carries x := by
    have carried := Shape.carries names (Record.carries_self members (s.toRecord x))
    rwa [inverse] at carried
  value x := isValue_writeObject (isValue_writeMembers members (s.toRecord x))

/-! What a schema reads. -/

/-- A value that a member's codec reads somewhere, or the one it has where it is missing. -/
def Field.Obtained (f : Field) (x : f.Value) : Prop :=
  f.absent = some x ∨ ∃ bs rest, f.codec.read bs = .ok (x, rest)

/-- Each value of a record is one that its member obtains. -/
def Record.Obtained : (fs : List Field) → Record fs → Prop
  | [], _ => True
  | f :: fs, (x, r) => f.Obtained x ∧ Record.Obtained fs r

/-- Each filled slot holds a value that its member obtains. -/
def Slots.Obtained : (fs : List Field) → Slots fs → Prop
  | [], _ => True
  | f :: fs, (slot, slots) => (∀ x ∈ slot, f.Obtained x) ∧ Slots.Obtained fs slots

theorem Slots.obtained_empty (fs : List Field) : Slots.Obtained fs (Slots.empty fs) := by
  induction fs with
  | nil => trivial
  | cons f fs ih =>
    refine ⟨fun x h => ?_, ih⟩
    cases h

/-- Reading a named member fills its slot with what its codec reads. -/
theorem Slots.obtained_readNamed {fs : List Field} {slots slots' : Slots fs} {name : String}
    {read : Reader (Slots fs)} {bs rest : Octets} (old : Slots.Obtained fs slots)
    (found : slots.readNamed fs name = some read) (h : read bs = .ok (slots', rest)) :
    Slots.Obtained fs slots' := by
  induction fs with
  | nil => cases found
  | cons f fs ih =>
    obtain ⟨slot, slots⟩ := slots
    obtain ⟨here, others⟩ := old
    change (if f.name = name then _ else _) = _ at found
    split at found
    · cases found
      cases slot with
      | some x => cases h
      | none =>
        obtain ⟨_, mid, _, h⟩ := bind_eq_ok h
        obtain ⟨x, after, value, h⟩ := bind_eq_ok h
        cases h
        exact ⟨fun y hy => by cases hy; exact .inr ⟨mid, _, value⟩, others⟩
    · obtain ⟨inner, named, rfl⟩ := Option.map_eq_some_iff.1 found
      obtain ⟨filled, mid, value, h⟩ := bind_eq_ok h
      cases h
      exact ⟨here, ih others named value⟩

theorem Slots.obtained_members {fs : List Field} {fuel : Nat} {first : Bool}
    {slots slots' : Slots fs} {bs rest : Octets} (old : Slots.Obtained fs slots)
    (h : members fs fuel first slots bs = .ok (slots', rest)) : Slots.Obtained fs slots' := by
  induction fuel generalizing first slots bs with
  | zero => cases h; exact old
  | succ fuel ih =>
    unfold members at h
    obtain ⟨another, mid, _, h⟩ := bind_eq_ok h
    split at h
    · obtain ⟨_, afterQuote, _, h⟩ := bind_eq_ok h
      obtain ⟨name, afterName, _, h⟩ := bind_eq_ok h
      cases found : slots.readNamed fs name with
      | some read =>
        rw [found] at h
        obtain ⟨filled, afterValue, value, h⟩ := bind_eq_ok h
        exact ih (Slots.obtained_readNamed old found value) h
      | none =>
        rw [found] at h
        obtain ⟨_, afterColon, _, h⟩ := bind_eq_ok h
        obtain ⟨_, afterValue, _, h⟩ := bind_eq_ok h
        exact ih old h
    · cases h
      exact old

/-- The record of a value and of the record that the other slots complete to. -/
theorem Slots.complete_cons {f : Field} {fs : List Field} {slot : Option f.Value}
    {slots : Slots fs} {x : f.Value} (here : slot = some x ∨ slot = none ∧ f.absent = some x) :
    Slots.complete (f :: fs) (slot, slots)
      = (Slots.complete fs slots).bind fun q => .ok (x, q) := by
  obtain rfl | ⟨rfl, absent⟩ := here
  · rfl
  · exact Slots.complete.eq_3 f fs slots x absent

theorem Slots.obtained_complete {fs : List Field} {slots : Slots fs} {r : Record fs}
    (old : Slots.Obtained fs slots) (h : slots.complete fs = .ok r) : Record.Obtained fs r := by
  induction fs with
  | nil => trivial
  | cons f fs ih =>
    obtain ⟨slot, slots⟩ := slots
    obtain ⟨here, others⟩ := old
    have put {x : f.Value} (value : slot = some x ∨ slot = none ∧ f.absent = some x)
        (obtained : f.Obtained x) : Record.Obtained (f :: fs) r := by
      have h := (Slots.complete_cons value).symm.trans h
      cases rest : Slots.complete fs slots with
      | error e => rw [rest] at h; cases h
      | ok q => rw [rest] at h; cases h; exact ⟨obtained, ih others rest⟩
    cases slot with
    | some x => exact put (.inl rfl) (here x rfl)
    | none =>
      cases absent : f.absent with
      | some x => exact put (.inr ⟨rfl, absent⟩) (.inl absent)
      | none =>
        have h := (Slots.complete.eq_4 f fs slots absent).symm.trans h
        cases h

theorem Schema.obtained_readElements {s : Schema} {fs : List Field} {index : Nat} {first : Bool}
    {r : Record fs} {bs rest : Octets} (h : s.readElements fs index first bs = .ok (r, rest)) :
    Record.Obtained fs r := by
  induction fs generalizing index first bs with
  | nil => trivial
  | cons f fs ih =>
    unfold Schema.readElements at h
    obtain ⟨another, mid, _, h⟩ := bind_eq_ok h
    split at h
    · obtain ⟨x, afterValue, value, h⟩ := bind_eq_ok h
      obtain ⟨r, after, others, h⟩ := bind_eq_ok h
      cases h
      exact ⟨.inr ⟨mid, afterValue, value⟩, ih others⟩
    · cases absent : f.absent with
      | some x =>
        rw [absent] at h
        obtain ⟨r, after, others, h⟩ := bind_eq_ok h
        cases h
        exact ⟨.inl absent, ih others⟩
      | none =>
        rw [absent] at h
        cases h

/-- A reader that always fails. -/
def Fails {α : Type} (read : Reader α) : Prop := ∀ bs p, read bs ≠ .ok p

theorem fails_throw {α : Type} (e : Error) : Fails (throw e : Reader α) := by
  intro bs p h
  cases h

/-- Whatever is read first, what fails after it fails. -/
theorem Fails.after {α β : Type} {first : Reader β} {next : β → Reader α}
    (h : ∀ x, Fails (next x)) : Fails (first >>= next) := by
  intro bs p read
  obtain ⟨x, mid, _, fails⟩ := bind_eq_ok read
  exact h x mid p fails

theorem Fails.ite {α : Type} {c : Prop} [Decidable c] {yes no : Reader α} (h : Fails yes)
    (h' : Fails no) : Fails (if c then yes else no) := by
  split
  · exact h
  · exact h'

/-- What stands there is read, and then refused. -/
theorem fails_refuse {α : Type} (expected : String) : Fails (refuse expected : Reader α) := by
  unfold refuse
  apply Fails.after
  intro next
  cases next with
  | none => exact fails_throw _
  | some b =>
    apply Fails.ite
    · exact .after fun _ => .after fun _ => fails_throw _
    apply Fails.ite
    · exact .after fun _ => .after fun _ => fails_throw _
    apply Fails.ite
    · exact .after fun _ => .after fun _ => fails_throw _
    apply Fails.ite
    · exact .after fun _ => fails_throw _
    apply Fails.ite
    · exact .after fun _ => .after fun _ => fails_throw _
    apply Fails.ite
    · exact fails_throw _
    apply Fails.ite
    · exact fails_throw _
    · exact fails_throw _

/-- Whatever a schema reads, from an object or from a list, its members' codecs read. -/
theorem Schema.read_obtained {s : Schema} {r : Record s.fields} {bs rest : Octets}
    (h : s.read bs = .ok (r, rest)) : Record.Obtained s.fields r := by
  unfold Schema.read at h
  obtain ⟨next, mid, _, h⟩ := bind_eq_ok h
  cases next with
  | none => cases h
  | some b =>
    dsimp only at h
    split at h
    · obtain ⟨_, inside, _, h⟩ := bind_eq_ok h
      obtain ⟨_, _, _, h⟩ := bind_eq_ok h
      obtain ⟨slots, atEnd, filled, h⟩ := bind_eq_ok h
      obtain ⟨record, _, complete, h⟩ := bind_eq_ok h
      obtain ⟨_, _, _, h⟩ := bind_eq_ok h
      cases h
      have empty := Slots.obtained_empty s.fields
      cases completed : slots.complete s.fields with
      | error e =>
        rw [completed] at complete
        cases complete
      | ok q =>
        rw [completed] at complete
        cases complete
        exact Slots.obtained_complete (Slots.obtained_members empty filled) completed
    · split at h
      · obtain ⟨_, inside, _, h⟩ := bind_eq_ok h
        obtain ⟨record, atEnd, elements, h⟩ := bind_eq_ok h
        obtain ⟨_, _, _, h⟩ := bind_eq_ok h
        cases h
        exact Schema.obtained_readElements elements
      · exact absurd h (fails_refuse _ _ _)

/-- A member that has to be there was read by its codec. -/
theorem Field.obtained_required {α : Type} {name : String} {codec : Codec α} {x : α}
    (h : (Field.required name codec).Obtained x) : ∃ bs rest, codec.read bs = .ok (x, rest) := by
  obtain absent | read := h
  · cases absent
  · exact read

/-- A structure read as a document has a record that its members obtained. -/
theorem Shape.document_obtained {α : Type} {s : Shape α} {x : α} {bs : Octets}
    (h : document s.codec.read bs = .ok x) :
    ∃ r, Record.Obtained s.schema.fields r ∧ s.ofRecord r = x := by
  unfold document at h
  cases read : s.codec.read bs with
  | error e => rw [read] at h; cases h
  | ok p =>
    obtain ⟨y, rest⟩ := p
    rw [read] at h
    change (if rest.all isSpace = true then Except.ok y else _) = _ at h
    split at h
    · cases h
      obtain ⟨r, mid, fields, h⟩ := bind_eq_ok read
      cases h
      exact ⟨r, Schema.read_obtained fields, rfl⟩
    · cases h

end Courier.Json
