import Courier.Proofs.Text.Utf8
import Courier.Uuid

/-!
# The text of an identifier

Reading the text of an identifier gives the identifier back (`Uuid.parse_text`): the hyphens that
`hyphenate` puts between the digits are where `groups` cuts them, and the text has the 36 octets by
which a hyphenated form is told from the others.
-/

namespace Courier
set_option autoImplicit false

namespace Hex

theorem digit_ascii : ∀ n < 16, (digit n).toNat < 0x80 ∧ digit n ≠ '-' := by decide

theorem of_mem_digits {bs : Octets} {c : Char} (h : c ∈ digits bs) :
    c.toNat < 0x80 ∧ c ≠ '-' := by
  obtain ⟨b, -, hc⟩ := List.mem_flatMap.1 h
  have hb : b.toNat < 256 := b.toNat_lt
  simp only [List.mem_cons, List.not_mem_nil, or_false] at hc
  rcases hc with rfl | rfl
  · exact digit_ascii _ (by omega)
  · exact digit_ascii _ (by omega)

end Hex

namespace Uuid

/-- The five groups of 32 digits. -/
def cut (ds : List Char) : List (List Char) :=
  [ds.take 8, (ds.drop 8).take 4, (ds.drop 12).take 4, (ds.drop 16).take 4, ds.drop 20]

theorem hyphenate_eq (ds : List Char) : hyphenate ds = ['-'].intercalate (cut ds) := by
  simp [hyphenate, cut, List.intercalate_cons_cons]

theorem flatten_cut (ds : List Char) : (cut ds).flatten = ds := by
  have join (i j k : Nat) (h : i + j = k) :
      (ds.drop i).take j ++ ds.drop k = ds.drop i := by
    rw [← h, ← List.drop_drop, List.take_append_drop]
  simp only [cut, List.flatten_cons, List.flatten_nil, List.append_nil]
  rw [join 16 4 20 rfl, join 12 4 16 rfl, join 8 4 12 rfl, List.take_append_drop]

theorem lengths_cut {ds : List Char} (h : ds.length = 32) :
    (cut ds).map List.length = groupLengths := by
  simp [cut, groupLengths, h]

/-- Digits are cut again where hyphens were put between them. -/
theorem groups_hyphenate {ds : List Char} (h : '-' ∉ ds) : groups (hyphenate ds) = cut ds := by
  rw [groups, hyphenate_eq, List.splitOn_intercalate]
  · intro group hg
    simp only [cut, List.mem_cons, List.not_mem_nil, or_false] at hg
    intro hyphen
    apply h
    rcases hg with rfl | rfl | rfl | rfl | rfl
    · exact List.mem_of_mem_take hyphen
    · exact List.mem_of_mem_drop (List.mem_of_mem_take hyphen)
    · exact List.mem_of_mem_drop (List.mem_of_mem_take hyphen)
    · exact List.mem_of_mem_drop (List.mem_of_mem_take hyphen)
    · exact List.mem_of_mem_drop hyphen
  · simp [cut]

theorem ofDigits?_digits (u : Uuid) : ofDigits? (Hex.digits u.octets) = some u := by
  simp [ofDigits?, Hex.octets?_digits, u.length_octets]

theorem ofHyphenated?_chars (u : Uuid) : ofHyphenated? u.chars = some u := by
  have hyphen : '-' ∉ Hex.digits u.octets := fun h => (Hex.of_mem_digits h).2 rfl
  have length : (Hex.digits u.octets).length = 32 := by
    rw [Hex.length_digits, u.length_octets]
  rw [ofHyphenated?, chars, groups_hyphenate hyphen, if_pos (lengths_cut length), flatten_cut,
    ofDigits?_digits]

theorem length_hyphenate {ds : List Char} (h : ds.length = 32) : (hyphenate ds).length = 36 := by
  simp [hyphenate, h]

theorem chars_ascii (u : Uuid) : ∀ c ∈ u.chars, c.toNat < 0x80 := by
  intro c hc
  have digit {d : Char} (h : d ∈ Hex.digits u.octets) : d.toNat < 0x80 := (Hex.of_mem_digits h).1
  simp only [chars, hyphenate, List.mem_append, List.mem_cons] at hc
  rcases hc with (((hc | rfl | hc) | rfl | hc) | rfl | hc) | rfl | hc
  · exact digit (List.mem_of_mem_take hc)
  · decide
  · exact digit (List.mem_of_mem_drop (List.mem_of_mem_take hc))
  · decide
  · exact digit (List.mem_of_mem_drop (List.mem_of_mem_take hc))
  · decide
  · exact digit (List.mem_of_mem_drop (List.mem_of_mem_take hc))
  · decide
  · exact digit (List.mem_of_mem_drop hc)

theorem octetLength_chars (u : Uuid) : octetLength u.chars = 36 := by
  rw [octetLength, Utf8.encodeChars_ascii u.chars_ascii, List.length_map, chars, length_hyphenate]
  rw [Hex.length_digits, u.length_octets]

/-- Reading the text of an identifier gives it back. -/
theorem parse_text (u : Uuid) : parse u.text = .ok u := by
  simp only [parse, text, String.toList_ofList, parseChars, octetLength_chars, parseHyphenated,
    ofHyphenated?_chars]

end Uuid

end Courier
