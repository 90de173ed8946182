import Courier.Json.Record
import Courier.Proofs.Instant
import Courier.Proofs.Json.Value
import Courier.Proofs.Uuid

/-!
# Values that come back

What a codec writes of a value and what it reads of that (`Codec.Carries`). A codec that carries
every value to itself and writes nothing but JSON values is `Faithful`; those of texts, truth values,
identifiers and instants are, and lists keep the property.
-/

namespace Courier.Json
set_option autoImplicit false
open Reading

variable {α : Type}

/-- What a codec writes of `x` is read as `y`, whatever follows it. -/
def Codec.Carries (c : Codec α) (x y : α) : Prop :=
  ∀ rest, Follows rest → c.read (Utf8.encode (c.write x) ++ rest) = .ok (y, rest)

/-- A codec whose every value comes back, and is written as a value of JSON. -/
structure Codec.Faithful (c : Codec α) : Prop where
  carries : ∀ x, c.Carries x x
  value : ∀ x, IsValue (Utf8.encode (c.write x))

/-- What a codec writes, read as a whole document. -/
theorem Codec.Carries.document {c : Codec α} {x y : α} (h : c.Carries x y) :
    document c.read (Utf8.encode (c.write x)) = .ok y := by
  have read := h [] follows_nil
  rw [List.append_nil] at read
  unfold Json.document
  rw [read]
  rfl

/-! Single values. -/

theorem textAs_quote (expected : String) (rest : Octets) :
    textAs expected (octet '"' :: rest) = text rest := by
  unfold textAs
  rw [bind_ok (peek_cons (by decide) rest)]
  rfl

theorem textAs_writeText (expected s : String) (rest : Octets) :
    textAs expected (Utf8.encode (writeText s) ++ rest) = .ok (s, rest) := by
  rw [encode_writeText, List.cons_append, textAs_quote, List.append_assoc]
  exact text_escaped s rest

theorem faithful_text : Codec.text.Faithful where
  carries s rest _ := textAs_writeText "a string" s rest
  value := isValue_writeText

theorem faithful_flag : Codec.flag.Faithful where
  carries b rest _ := by cases b <;> rfl
  value := isValue_writeFlag

theorem readUuid_text (u : Uuid) (rest : Octets) :
    readUuid (Utf8.encode (writeText u.text) ++ rest) = .ok (u, rest) := by
  unfold readUuid
  rw [bind_ok (textAs_writeText _ u.text rest), Uuid.parse_text]
  rfl

theorem faithful_uuid : Codec.uuid.Faithful where
  carries u rest _ := readUuid_text u rest
  value u := isValue_writeText u.text

theorem readInstant_text (t : Instant) (rest : Octets) :
    readInstant (Utf8.encode (writeText t.text) ++ rest) = .ok (t, rest) := by
  unfold readInstant
  rw [bind_ok (textAs_writeText _ t.text rest), Instant.parse_text]
  rfl

theorem faithful_instant : Codec.instant.Faithful where
  carries t rest _ := readInstant_text t rest
  value t := isValue_writeText t.text

/-- A value kept as it is written comes back if it is one. -/
theorem carries_raw {s : String} (h : IsRaw s) : Codec.raw.Carries s s :=
  fun _ follows => h.read follows

/-! Lists. -/

theorem anotherElement_first {b : UInt8} (space : isSpace b = false) (bracket : b ≠ octet ']')
    (rest : Octets) : anotherElement true (b :: rest) = .ok (true, b :: rest) := by
  unfold anotherElement
  rw [bind_ok (peek_cons space rest)]
  dsimp only
  rw [if_neg bracket]
  rfl

theorem anotherElement_comma {b : UInt8} (space : isSpace b = false) (bracket : b ≠ octet ']')
    (rest : Octets) : anotherElement false (octet ',' :: b :: rest) = .ok (true, b :: rest) := by
  unfold anotherElement
  rw [bind_ok (peek_cons (by decide) _)]
  dsimp only
  rw [if_neg (by decide), if_neg Bool.false_ne_true, if_pos rfl, bind_ok (advance_cons _ _),
    bind_ok (peek_cons space rest)]
  dsimp only
  rw [if_neg bracket]
  rfl

theorem anotherElement_end (first : Bool) (rest : Octets) :
    anotherElement first (octet ']' :: rest) = .ok (false, octet ']' :: rest) := by
  unfold anotherElement
  rw [bind_ok (peek_cons (by decide) _)]
  rfl

theorem endOfList_bracket (rest : Octets) : endOfList (octet ']' :: rest) = .ok ((), rest) := by
  unfold endOfList
  rw [bind_ok (peek_cons (by decide) _)]
  rfl

/-- What follows written values in a list. -/
theorem follows_following (ws : List Octets) (rest : Octets) :
    Follows (following ws ++ octet ']' :: rest) := by
  cases ws with
  | nil => exact follows_bracket rest
  | cons w ws =>
    rw [following_cons]
    exact follows_comma _

/-- One more element, then the others. -/
theorem elements_cons {read : Reader α} {fuel : Nat} {first : Bool} {input bs mid rest : Octets}
    {x : α} {xs : List α} (another : anotherElement first input = .ok (true, bs))
    (head : read bs = .ok (x, mid)) (tail : elements read fuel false mid = .ok (xs, rest)) :
    elements read (fuel + 1) first input = .ok (x :: xs, rest) := by
  unfold elements
  rw [bind_ok another, if_pos rfl, bind_ok head, bind_ok tail]
  rfl

/-- The elements after the first one, read with as many rounds as there are elements. -/
theorem elements_following {c : Codec α} (h : c.Faithful) (rest : Octets) (xs : List α)
    (fuel : Nat) (enough : xs.length ≤ fuel) :
    elements c.read fuel false
        (following ((xs.map c.write).map Utf8.encode) ++ octet ']' :: rest)
      = .ok (xs, octet ']' :: rest) := by
  induction xs generalizing fuel with
  | nil =>
    cases fuel with
    | zero => rfl
    | succ fuel =>
      show elements c.read (fuel + 1) false (octet ']' :: rest) = _
      unfold elements
      rw [bind_ok (anotherElement_end false rest)]
      rfl
  | cons x xs ih =>
    cases fuel with
    | zero => cases enough
    | succ fuel =>
      have tail := ih fuel (Nat.le_of_succ_le_succ enough)
      have read := h.carries x _ (follows_following ((xs.map c.write).map Utf8.encode) rest)
      obtain ⟨b, more, start, space, bracket⟩ := (h.value x).starts
      rw [List.map_cons, List.map_cons, following_cons]
      rw [start, List.cons_append] at read ⊢
      exact elements_cons (anotherElement_comma space bracket _) read tail

theorem length_following (ws : List Octets) : ws.length ≤ (following ws).length := by
  induction ws with
  | nil => exact Nat.le_refl _
  | cons w ws ih =>
    have cons := following_cons w ws []
    simp only [List.append_nil] at cons
    rw [cons, List.length_cons, List.length_cons, List.length_append]
    omega

theorem readList_writeList {c : Codec α} (h : c.Faithful) (xs : List α) (rest : Octets) :
    readList c.read (Utf8.encode (writeList (xs.map c.write)) ++ rest) = .ok (xs, rest) := by
  unfold readList
  rw [encode_writeList, List.cons_append, bind_ok (peek_cons (by decide) _)]
  dsimp only
  rw [if_pos rfl, bind_ok (advance_cons _ _), List.append_assoc, List.singleton_append,
    bind_ok (a := _) rfl]
  cases xs with
  | nil => rfl
  | cons x xs =>
    have read := h.carries x _ (follows_following ((xs.map c.write).map Utf8.encode) rest)
    have length := length_following ((xs.map c.write).map Utf8.encode)
    obtain ⟨b, more, start, space, bracket⟩ := (h.value x).starts
    rw [List.map_cons, encode_intercalate, List.append_assoc]
    rw [start, List.cons_append] at read ⊢
    rw [bind_ok (elements_cons (anotherElement_first space bracket _) read
        (elements_following h rest xs _ ?_)), bind_ok (endOfList_bracket rest)]
    · rfl
    · simp only [List.length_map, List.length_cons, List.length_append] at length ⊢
      omega

theorem Codec.Faithful.list {c : Codec α} (h : c.Faithful) : (Codec.list c).Faithful where
  carries xs rest _ := readList_writeList h xs rest
  value xs := isValue_writeList fun s hs => by
    obtain ⟨x, _, rfl⟩ := List.mem_map.1 hs
    exact h.value x

end Courier.Json
