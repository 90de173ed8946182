import Courier.Proofs.Json.Grammar

/-!
# Written values

What a document writes is one value: string tokens, the words for truth values, and lists and
objects of such values, with no white space around anything.
-/

namespace Courier.Json
set_option autoImplicit false

theorem encode_intercalate (s : String) (ss : List String) :
    Utf8.encode (",".intercalate (s :: ss)) = Utf8.encode s ++ following (ss.map Utf8.encode) := by
  induction ss generalizing s with
  | nil => simp [following]
  | cons t ss ih =>
    rw [String.intercalate_cons_cons, Utf8.encode_append, Utf8.encode_append, ih, List.append_assoc,
      List.map_cons]
    have more := following_cons (Utf8.encode t) (ss.map Utf8.encode) []
    rw [List.append_nil, List.append_nil] at more
    rw [more]
    rfl

/-! Strings and words. -/

theorem isContent_plains {bs : Octets} (h : ∀ b ∈ bs, IsPlain b) {rest : Octets}
    (isContent : IsContent rest) : IsContent (bs ++ rest) := by
  induction bs with
  | nil => exact isContent
  | cons b bs ih =>
    obtain ⟨first, others⟩ := List.forall_mem_cons.1 h
    exact .plain first (ih others)

/-- An escaped character, before whatever else the string holds. -/
theorem isContent_escapeChar (c : Char) {rest : Octets} (isContent : IsContent rest) :
    IsContent (Utf8.encodeChars (escapeChar c) ++ rest) := by
  rcases escapeChar_cases c with ⟨same, plain⟩ | ⟨e, octets, -, x, escape, -⟩ |
    ⟨h, l, octets, -, -, high, low⟩
  · rw [same, Utf8.encodeChars_cons, Utf8.encodeChars_nil, List.append_nil]
    exact isContent_plains plain isContent
  · rw [octets]
    exact .escape (by rw [escape]; rfl) isContent
  · rw [octets]
    have zero : Hex.isDigit (Char.ofNat (octet '0').toNat) = true := by decide
    exact .code (by simp [zero, high, low]) isContent

theorem isContent_escaped (cs : List Char) : IsContent (Utf8.encodeChars (cs.flatMap escapeChar)) := by
  induction cs with
  | nil => exact .nil
  | cons c cs ih =>
    rw [List.flatMap_cons, Utf8.encodeChars_append]
    exact isContent_escapeChar c ih

theorem isText_writeText (s : String) : IsText (Utf8.encode (writeText s)) := by
  rw [encode_writeText]
  exact .quoted (isContent_escaped s.toList)

theorem isValue_writeText (s : String) : IsValue (Utf8.encode (writeText s)) :=
  .text (isText_writeText s)

theorem isValue_writeFlag (b : Bool) : IsValue (Utf8.encode (writeFlag b)) := by
  cases b with
  | true => exact .trueWord
  | false => exact .falseWord

/-! Lists. -/

/-- An element with no white space around it. -/
def Element.bare (value : Octets) : Element := ⟨[], value, []⟩

theorem Element.octets_bare (value : Octets) : (bare value).octets = value := List.append_nil value

theorem Element.padded_bare (value : Octets) : (bare value).Padded := ⟨isBlank_nil, isBlank_nil⟩

theorem encode_writeList (xs : List String) :
    Utf8.encode (writeList xs)
      = octet '[' :: (Utf8.encode (",".intercalate xs) ++ [octet ']']) := by
  rw [writeList, Utf8.encode_append, Utf8.encode_append]
  rfl

theorem isValue_writeList {xs : List String} (h : ∀ x ∈ xs, IsValue (Utf8.encode x)) :
    IsValue (Utf8.encode (writeList xs)) := by
  rw [encode_writeList]
  cases xs with
  | nil => exact .emptyList isBlank_nil
  | cons x xs =>
    have octets : (xs.map fun y => Element.bare (Utf8.encode y)).map Element.octets
        = xs.map Utf8.encode := by
      rw [List.map_map]
      apply List.map_congr_left
      intro y _
      rw [Function.comp_apply, Element.octets_bare]
    have bare (e : Element) (mem : e ∈ (x :: xs).map fun y => Element.bare (Utf8.encode y)) :
        e.Padded ∧ IsValue e.value := by
      obtain ⟨y, there, rfl⟩ := List.mem_map.1 mem
      exact ⟨Element.padded_bare _, h y there⟩
    rw [encode_intercalate, List.append_assoc, ← octets, ← Element.octets_bare (Utf8.encode x)]
    exact .list (fun e mem => (bare e mem).1) fun e mem => (bare e mem).2

/-! Objects. -/

/-- A member of an object as it is written. -/
def writeMember (m : String × String) : String := writeText m.1 ++ ":" ++ m.2

theorem encode_writeMember (m : String × String) (tail : Octets) :
    Utf8.encode (writeMember m) ++ tail
      = octet '"' :: (Utf8.encodeChars (m.1.toList.flatMap escapeChar)
          ++ octet '"' :: octet ':' :: (Utf8.encode m.2 ++ tail)) := by
  rw [writeMember, Utf8.encode_append, Utf8.encode_append, encode_writeText]
  simp only [List.cons_append, List.append_assoc, List.nil_append]
  rfl

/-- A written member has no white space around its parts. -/
def Member.written (m : String × String) : Member :=
  ⟨[], Utf8.encode (writeText m.1), [], .bare (Utf8.encode m.2)⟩

theorem Member.octets_written (m : String × String) :
    (written m).octets = Utf8.encode (writeMember m) := by
  unfold octets written
  dsimp only
  rw [Element.octets_bare, List.nil_append, List.nil_append, writeMember, Utf8.encode_append,
    Utf8.encode_append, List.append_assoc]
  rfl

theorem Member.value_written (m : String × String) :
    (written m).element.value = Utf8.encode m.2 := by
  unfold written Element.bare
  rfl

theorem Member.padded_written (m : String × String) : (written m).Padded := by
  unfold Padded written
  dsimp only
  exact ⟨isBlank_nil, isText_writeText m.1, isBlank_nil, Element.padded_bare _⟩

theorem encode_writeObject (ms : List (String × String)) :
    Utf8.encode (writeObject ms)
      = octet '\x7b' :: (Utf8.encode (",".intercalate (ms.map writeMember))
          ++ [octet '\x7d']) := by
  rw [writeObject, Utf8.encode_append, Utf8.encode_append]
  rfl

theorem isValue_writeObject {ms : List (String × String)}
    (h : ∀ m ∈ ms, IsValue (Utf8.encode m.2)) : IsValue (Utf8.encode (writeObject ms)) := by
  rw [encode_writeObject]
  cases ms with
  | nil => exact .emptyObject isBlank_nil
  | cons m ms =>
    have octets : (ms.map Member.written).map Member.octets
        = (ms.map writeMember).map Utf8.encode := by
      rw [List.map_map, List.map_map]
      apply List.map_congr_left
      intro x _
      rw [Function.comp_apply, Function.comp_apply, Member.octets_written]
    have written (x : Member) (mem : x ∈ (m :: ms).map Member.written) :
        x.Padded ∧ IsValue x.element.value := by
      obtain ⟨y, there, rfl⟩ := List.mem_map.1 mem
      rw [Member.value_written]
      exact ⟨Member.padded_written y, h y there⟩
    rw [List.map_cons, encode_intercalate, List.append_assoc, ← octets, ← Member.octets_written]
    exact .object (fun x mem => (written x mem).1) fun x mem => (written x mem).2

end Courier.Json
