import Courier.Route
import Mathlib.Data.List.Infix

/-!
# Simple names

A separator may overlap another (`a:::b`), so that the last one of a name is not told by what
stands behind it being free of separators: it is the one behind which none begins, not even with
its own second colon (`afterLastSeparator_cases`). What stands behind it, or the name itself where
there is none, is the simple name of a type (`isSimpleName_iff`), and messages are routed by it
(`routed_by_simple_name`). It is the name itself exactly if there is no separator in the name
(`simpleName_eq_self_iff`).
-/

namespace Courier
set_option autoImplicit false

/-- What stands between the parts of a qualified name. -/
def separator : List Char := [':', ':']

/-- A name of more than one part. -/
def Qualified (name : String) : Prop := separator <:+: name.toList

instance (name : String) : Decidable (Qualified name) :=
  inferInstanceAs (Decidable (separator <:+: name.toList))

/-! ## What is left of a text -/

/-- What is left of a text is all of it, where there is no separator, or stands behind one after
whose first colon no other begins. -/
theorem afterLastSeparator_cases (cs : List Char) :
    (afterLastSeparator cs = cs ∧ ¬separator <:+: cs) ∨
    ∃ front, cs = front ++ separator ++ afterLastSeparator cs ∧
      ¬separator <:+: ':' :: afterLastSeparator cs := by
  induction cs with
  | nil => exact .inl ⟨rfl, by simp [separator]⟩
  | cons c cs ih =>
    unfold afterLastSeparator
    dsimp only
    rcases ih with ⟨whole, none⟩ | ⟨front, parts, none⟩
    · rw [whole, if_neg (Nat.lt_irrefl _)]
      split
      · next rest => exact .inr ⟨[], rfl, none⟩
      · next other =>
        refine .inl ⟨rfl, ?_⟩
        rw [List.infix_cons_iff]
        rintro (⟨rest, begins⟩ | inside)
        · obtain ⟨rfl, rfl⟩ := List.cons.inj begins
          exact other rest rfl rfl
        · exact none inside
    · have shorter : (afterLastSeparator cs).length < cs.length := by
        have length := congrArg List.length parts
        rw [List.length_append, List.length_append] at length
        have two : separator.length = 2 := rfl
        omega
      rw [if_pos shorter]
      exact .inr ⟨c :: front, congrArg (c :: ·) parts, none⟩

/-- Nothing is left out where there is no separator. -/
theorem afterLastSeparator_eq_self_iff {cs : List Char} :
    afterLastSeparator cs = cs ↔ ¬separator <:+: cs := by
  rcases afterLastSeparator_cases cs with ⟨whole, none⟩ | ⟨front, parts, none⟩
  · exact iff_of_true whole none
  · have inside : separator <:+: cs := ⟨front, afterLastSeparator cs, parts.symm⟩
    refine iff_of_false (fun whole => ?_) fun free => free inside
    rw [whole] at none
    exact none (inside.trans (List.suffix_cons ':' cs).isInfix)

theorem afterLastSeparator_free (cs : List Char) : ¬separator <:+: afterLastSeparator cs := by
  rcases afterLastSeparator_cases cs with ⟨whole, none⟩ | ⟨front, parts, none⟩
  · rwa [whole]
  · exact fun inside => none (inside.trans (List.suffix_cons ':' _).isInfix)

/-- After whose first colon no separator begins, that is the last one. -/
theorem length_le_of_free {front back earlier later : List Char}
    (free : ¬separator <:+: ':' :: back)
    (parts : front ++ separator ++ back = earlier ++ separator ++ later) :
    earlier.length ≤ front.length := by
  by_contra longer
  have tail : separator ++ later <:+ front ++ separator ++ back := by
    rw [parts, List.append_assoc]
    exact List.suffix_append earlier _
  have half : ':' :: back <:+ front ++ separator ++ back := ⟨front ++ [':'], by simp [separator]⟩
  have length := congrArg List.length parts
  have two : separator.length = 2 := rfl
  simp only [List.length_append] at length
  -- a later separator would begin with the second colon of this one or behind it
  have ends : separator ++ later <:+ ':' :: back := by
    apply List.suffix_of_suffix_length_le tail half
    rw [List.length_append, List.length_cons]
    omega
  exact free ((List.prefix_append separator later).isInfix.trans ends.isInfix)

/-! ## The simple name -/

/-- `front` and `back` stand on the two sides of the last separator of a name. -/
structure PartedAtLast (name front back : String) : Prop where
  parts : name = front ++ "::" ++ back
  last : ∀ earlier later, name = earlier ++ "::" ++ later → earlier.length ≤ front.length

/-- A text without a separator that is the whole name or stands behind its last separator. -/
structure IsSimpleName (name key : String) : Prop where
  simple : ¬Qualified key
  ends : key = name ∨ ∃ front, PartedAtLast name front key

variable {name key front back front' back' : String}

theorem parts_iff :
    name = front ++ "::" ++ back ↔ name.toList = front.toList ++ separator ++ back.toList := by
  rw [← String.toList_inj, String.toList_append, String.toList_append]
  rfl

theorem PartedAtLast.qualified (h : PartedAtLast name front back) : Qualified name :=
  ⟨front.toList, back.toList, (parts_iff.1 h.parts).symm⟩

theorem PartedAtLast.back_eq (h : PartedAtLast name front back)
    (h' : PartedAtLast name front' back') : back = back' := by
  have same : front.length = front'.length :=
    Nat.le_antisymm (h'.last front back h.parts) (h.last front' back' h'.parts)
  have parts := (parts_iff.1 h.parts).symm.trans (parts_iff.1 h'.parts)
  rw [List.append_assoc, List.append_assoc] at parts
  have behind := (List.append_inj parts same).2
  exact String.toList_inj.1 (List.append_cancel_left behind)

theorem IsSimpleName.eq {other : String} (h : IsSimpleName name key) (h' : IsSimpleName name other) :
    key = other := by
  rcases h.ends with rfl | ⟨front, parted⟩ <;> rcases h'.ends with rfl | ⟨front', parted'⟩
  · rfl
  · exact absurd parted'.qualified h.simple
  · exact absurd parted.qualified h'.simple
  · exact parted.back_eq parted'

theorem isSimpleName_simpleName (name : String) : IsSimpleName name (simpleName name) := by
  have chars : (simpleName name).toList = afterLastSeparator name.toList := String.toList_ofList
  refine ⟨?_, ?_⟩
  · unfold Qualified
    rw [chars]
    exact afterLastSeparator_free name.toList
  · rcases afterLastSeparator_cases name.toList with ⟨whole, none⟩ | ⟨front, parts, none⟩
    · exact .inl (String.toList_inj.1 (chars.trans whole))
    · refine .inr ⟨String.ofList front, ?_, ?_⟩
      · rw [parts_iff, chars, String.toList_ofList]
        exact parts
      · intro earlier later other
        have split := parts.symm.trans (parts_iff.1 other)
        have bound := length_le_of_free none split
        rwa [String.length_ofList]

theorem isSimpleName_iff : IsSimpleName name key ↔ key = simpleName name :=
  ⟨fun h => h.eq (isSimpleName_simpleName name), fun h => h ▸ isSimpleName_simpleName name⟩

theorem simpleName_eq_self_iff : simpleName name = name ↔ ¬Qualified name := by
  unfold simpleName Qualified
  rw [← afterLastSeparator_eq_self_iff, ← String.toList_inj, String.toList_ofList]

/-- The key of a route is the one text without a separator that is the name of the type or stands
behind its last separator. So the key is routed as the type is, and on one exchange two types go
the same way exactly if what is behind the last separators of their names is the same. -/
theorem routed_by_simple_name (exchange name : String) :
    (∀ key, (Route.of exchange name).routingKey = key ↔ IsSimpleName name key) ∧
    Route.of exchange (Route.of exchange name).routingKey = Route.of exchange name ∧
    ∀ other, Route.of exchange name = Route.of exchange other ↔
      ∃ key, IsSimpleName name key ∧ IsSimpleName other key := by
  have named (n : String) : (Route.of exchange n).routingKey = simpleName n := rfl
  refine ⟨fun key => ?_, ?_, fun other => ?_⟩
  · rw [named, isSimpleName_iff, eq_comm]
  · have simple := (isSimpleName_simpleName name).simple
    unfold Route.of
    rw [simpleName_eq_self_iff.2 simple]
  · constructor
    · intro same
      refine ⟨simpleName name, isSimpleName_simpleName name, ?_⟩
      rw [isSimpleName_iff, ← named, ← named, same]
    · rintro ⟨key, own, others⟩
      unfold Route.of
      rw [← isSimpleName_iff.1 own, ← isSimpleName_iff.1 others]

/-- Of three colons the last two part a name; at its end they leave nothing. -/
example : Route.of "bus" "a:::b" = ⟨"bus", "b"⟩ ∧ Route.of "bus" "a:::" = ⟨"bus", ""⟩ := by decide

end Courier
