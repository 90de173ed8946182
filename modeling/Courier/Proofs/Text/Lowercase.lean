import Courier.Text.Lowercase
import Mathlib.Data.List.Basic

/-!
# Text in small letters

No small letter is the capital of another, neither in its own run of the table nor in any other, so
a text in small letters stays as it is when it is lowered again (`toLower_toLower`).
-/

namespace Courier.Text
set_option autoImplicit false

/-! ## Capitals -/

/-- Whether a code point is a capital of a run. -/
def CaseRun.HasCapital (r : CaseRun) (code : Nat) : Prop :=
  r.first ≤ code ∧ code ≤ r.last ∧ (code - r.first) % r.step = 0

/-- Whether the small letters of a run are no capitals of another: they stand below or above these,
or between them. -/
def CaseRun.isApart (r r' : CaseRun) : Bool :=
  Nat.blt (r.small + (r.last - r.first)) r'.first || Nat.blt r'.last r.small ||
    r'.step == 2 && (r.step == 2 || r.first == r.last) && (r.small + r'.first) % 2 == 1

/-- The dotted capital I, which is in no run of the table, and the runs that are. -/
def capitals : List CaseRun := ⟨0x130, 0x130, 1, 0x69⟩ :: caseRuns

/-- A code point that has a small letter. -/
def IsCapital (code : Nat) : Prop := ∃ r ∈ capitals, r.HasCapital code

instance (code : Nat) : Decidable (IsCapital code) :=
  inferInstanceAs (Decidable (∃ r ∈ capitals, _ ∧ _ ∧ _))

theorem CaseRun.not_hasCapital_of_isApart {r r' : CaseRun} {code : Nat}
    (apart : r.isApart r' = true) (h : r.HasCapital code) :
    ¬r'.HasCapital (r.small + (code - r.first)) := by
  obtain ⟨low, high, stepped⟩ := h
  rintro ⟨low', high', stepped'⟩
  simp only [isApart, Bool.or_eq_true, Bool.and_eq_true, Nat.blt_eq, beq_iff_eq] at apart
  rcases apart with (below | above) | ⟨⟨step', step⟩, odd⟩
  · omega
  · omega
  · rw [step'] at stepped'
    rcases step with step | single
    · rw [step] at stepped
      omega
    · omega

theorem isApart_caseRuns : (caseRuns.all fun r => capitals.all r.isApart) = true := by
  decide +kernel

/-! ## Small letters -/

theorem smallCode_cases (code : Nat) :
    (smallCode code = code ∧ ∀ r ∈ caseRuns, ¬r.HasCapital code) ∨
    ∃ r ∈ caseRuns, r.HasCapital code ∧ smallCode code = r.small + (code - r.first) := by
  unfold smallCode
  split
  · next r found =>
    have capital := List.find?_some found
    simp only [Bool.and_eq_true, decide_eq_true_eq, beq_iff_eq] at capital
    obtain ⟨⟨low, high⟩, stepped⟩ := capital
    exact .inr ⟨r, List.mem_of_find?_eq_some found, ⟨low, high, stepped⟩, rfl⟩
  · next none =>
    refine .inl ⟨rfl, fun r mem ⟨low, high, stepped⟩ => ?_⟩
    have other := List.find?_eq_none.1 none r mem
    simp [low, high, stepped] at other

theorem smallCode_eq_self {code : Nat} (small : ¬IsCapital code) : smallCode code = code := by
  rcases smallCode_cases code with ⟨same, -⟩ | ⟨r, mem, capital, -⟩
  · exact same
  · exact absurd ⟨r, List.mem_cons_of_mem _ mem, capital⟩ small

/-- All capitals but the dotted I have a small letter in the table. -/
theorem not_isCapital_smallCode {code : Nat} (other : code ≠ 0x130) :
    ¬IsCapital (smallCode code) := by
  rintro ⟨r', mem', capital'⟩
  rcases smallCode_cases code with ⟨same, none⟩ | ⟨r, mem, capital, small⟩
  · rw [same] at capital'
    rcases List.mem_cons.1 mem' with rfl | mem'
    · obtain ⟨low, high, -⟩ := capital'
      exact other (Nat.le_antisymm high low)
    · exact none r' mem' capital'
  · rw [small] at capital'
    have apart := List.all_eq_true.1 (List.all_eq_true.1 isApart_caseRuns r mem) r' mem'
    exact CaseRun.not_hasCapital_of_isApart apart capital capital'

/-- The table knows the letters of ASCII. -/
theorem toLower_eq_of_ascii {c : Char} (ascii : c.toNat < 0x80) :
    c.toLower = Char.ofNat (smallCode c.toNat) := by
  have table : ∀ n < 0x80, (Char.ofNat n).toLower = Char.ofNat (smallCode n) := by decide +kernel
  rw [← table c.toNat ascii, Char.ofNat_toNat]

theorem not_isCapital_ofNat {code : Nat} (small : ¬IsCapital code) :
    ¬IsCapital (Char.ofNat code).toNat := by
  by_cases valid : code.isValidChar
  · have same : (Char.ofNat code).toNat = code := by
      rw [Char.ofNat, dif_pos valid]
      rfl
    rwa [same]
  · rw [Char.ofNat, dif_neg valid]
    decide +kernel

/-! ## Texts -/

section Texts
variable {before after cs : List Char} {c d : Char}

theorem lowerAt_eq_self (small : ¬IsCapital c.toNat) : lowerAt before c after = [c] := by
  have same : Char.ofNat (smallCode c.toNat) = c := by
    rw [smallCode_eq_self small, Char.ofNat_toNat]
  unfold lowerAt
  split
  · next ascii => rw [toLower_eq_of_ascii ascii, same]
  · split
    · next sigma =>
      subst sigma
      exact absurd (by decide +kernel) small
    · split
      · next dotted =>
        subst dotted
        exact absurd (by decide +kernel) small
      · rw [same]

theorem not_isCapital_of_mem_lowerAt (mem : d ∈ lowerAt before c after) : ¬IsCapital d.toNat := by
  unfold lowerAt at mem
  split at mem
  · next ascii =>
    rw [List.mem_singleton.1 mem, toLower_eq_of_ascii ascii]
    exact not_isCapital_ofNat (not_isCapital_smallCode (by omega))
  · split at mem
    · rw [List.mem_singleton] at mem
      subst mem
      split <;> decide +kernel
    · split at mem
      · rcases List.mem_pair.1 mem with rfl | rfl <;> decide +kernel
      · next other =>
        rw [List.mem_singleton.1 mem]
        refine not_isCapital_ofNat (not_isCapital_smallCode fun same => other ?_)
        rw [← Char.ofNat_toNat c, same]

theorem lowerFrom_eq_self (small : ∀ c ∈ cs, ¬IsCapital c.toNat) : lowerFrom before cs = cs := by
  induction cs generalizing before with
  | nil => rfl
  | cons c cs ih =>
    rw [lowerFrom, lowerAt_eq_self (small c List.mem_cons_self),
      ih fun d mem => small d (List.mem_cons_of_mem c mem), List.singleton_append]

theorem not_isCapital_of_mem_lowerFrom (mem : d ∈ lowerFrom before cs) : ¬IsCapital d.toNat := by
  induction cs generalizing before with
  | nil => cases mem
  | cons c cs ih =>
    rcases List.mem_append.1 mem with mem | mem
    · exact not_isCapital_of_mem_lowerAt mem
    · exact ih mem

/-- A text in small letters stays as it is. -/
@[simp] theorem toLower_toLower (s : String) : toLower (toLower s) = toLower s := by
  have chars : (toLower s).toList = lowerFrom [] s.toList := String.toList_ofList
  rw [toLower, chars, lowerFrom_eq_self fun c => not_isCapital_of_mem_lowerFrom]
  rfl

end Texts

end Courier.Text
