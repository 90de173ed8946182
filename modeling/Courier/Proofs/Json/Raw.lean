import Courier.Json.Reader
import Courier.Proofs.Json.Token

/-!
# Values kept as they are written

What the machine of `skip` makes of a value does not depend on what follows the value, as long as it
is something that ends one (`skipFrom_resume`). So a text that was once kept raw is kept again
wherever it is put (`IsRaw.read`), and every text that is kept raw is one (`isRaw_of_readRaw`).
-/

namespace Courier.Json
set_option autoImplicit false
open Reading

/-- What may come after a value within brackets, or nothing: a comma or a closing bracket. -/
def Follows (rest : Octets) : Prop :=
  ∀ b ∈ rest.head?, b = octet ',' ∨ b = octet ']' ∨ b = octet '\x7d'

theorem follows_nil : Follows [] := by
  intro b hb
  cases hb

theorem follows_comma (rest : Octets) : Follows (octet ',' :: rest) := by
  intro b hb
  cases hb
  exact .inl rfl

theorem follows_bracket (rest : Octets) : Follows (octet ']' :: rest) := by
  intro b hb
  cases hb
  exact .inr (.inl rfl)

theorem follows_brace (rest : Octets) : Follows (octet '\x7d' :: rest) := by
  intro b hb
  cases hb
  exact .inr (.inr rfl)

/-- A text that is one JSON value and nothing around it. -/
def IsRaw (s : String) : Prop := readRaw (Utf8.encode s) = .ok (s, [])

/-- Where the machine may stop, the outermost value is complete. -/
theorem complete_of_stopsBefore {p : Place} {stack : List Bracket} {b : UInt8}
    (h : stopsBefore p stack b = true) : stack = [] ∧ p.isComplete = true := by
  unfold stopsBefore at h
  split at h
  · exact ⟨rfl, rfl⟩
  · exact ⟨rfl, rfl⟩
  · exact ⟨rfl, rfl⟩
  · exact ⟨rfl, rfl⟩
  · exact ⟨rfl, rfl⟩
  · cases h

/-- A complete value ends where a comma or a closing bracket comes. -/
theorem stopsBefore_of_follows {p : Place} {b : UInt8} (h : p.isComplete = true)
    (hb : b = octet ',' ∨ b = octet ']' ∨ b = octet '\x7d') : stopsBefore p [] b = true := by
  rcases hb with rfl | rfl | rfl <;> cases p <;> first | rfl | cases h

theorem skipFrom_complete {p : Place} (h : p.isComplete = true) {tail : Octets}
    (follows : Follows tail) : skipFrom p [] tail = .ok tail := by
  cases tail with
  | nil => rw [skipFrom, if_pos ⟨rfl, h⟩]
  | cons b tail => rw [skipFrom, stopsBefore_of_follows h (follows b rfl), if_pos rfl]

/-- Octets that the machine still asks for at a place: digits of an escape, or a value. -/
def Place.owed : Place → Nat
  | .hex _ n => n
  | .value => 1
  | _ => 0

theorem owed_of_isComplete {p : Place} (h : p.isComplete = true) : p.owed = 0 := by
  cases p <;> first | rfl | cases h

/-- A step pays one octet at most. -/
theorem owed_le_of_step {p p' : Place} {stack stack' : List Bracket} {b : UInt8} {ahead : Octets}
    (h : step p stack b ahead = .ok (p', stack')) : p.owed ≤ p'.owed + 1 := by
  cases p <;> try exact Nat.zero_le _
  case value => exact Nat.le_add_left _ _
  case hex isName n =>
    simp only [step] at h
    split at h
    · injection h with h
      injection h with place _
      subst place
      split <;> simp only [Place.owed] <;> omega
    · cases h

/-- Only the `u` of an escape looks ahead, and only to see four octets there. -/
theorem step_ahead {p p' : Place} {stack stack' : List Bracket} {b : UInt8} {ahead ahead' : Octets}
    (h : step p stack b ahead = .ok (p', stack')) (enough : p'.owed ≤ ahead'.length) :
    step p stack b ahead' = .ok (p', stack') := by
  cases p <;> try exact h
  case escape isName =>
    simp only [step] at h ⊢
    split at h
    · next u =>
      rw [if_pos u]
      split at h
      · cases h
      · cases h
        have four : 4 ≤ ahead'.length := enough
        rw [if_neg]
        simp only [List.isEmpty_iff, List.drop_eq_nil_iff]
        omega
    · next u =>
      rw [if_neg u]
      exact h

/-- What the machine passed over, it passes over again in front of anything else that may follow a
value. -/
theorem skipFrom_resume {p : Place} {stack : List Bracket} {bs rest : Octets}
    (h : skipFrom p stack bs = .ok rest) :
    ∃ passed, bs = passed ++ rest ∧ p.owed ≤ passed.length ∧
      ∀ tail, Follows tail → skipFrom p stack (passed ++ tail) = .ok tail := by
  induction bs generalizing p stack with
  | nil =>
    rw [skipFrom] at h
    split at h
    · next done =>
      cases h
      obtain ⟨rfl, complete⟩ := done
      exact ⟨[], rfl, Nat.le_of_eq (owed_of_isComplete complete),
        fun tail follows => skipFrom_complete complete follows⟩
    · cases h
  | cons b bs ih =>
    rw [skipFrom] at h
    split at h
    · next stops =>
      cases h
      obtain ⟨rfl, complete⟩ := complete_of_stopsBefore stops
      exact ⟨[], rfl, Nat.le_of_eq (owed_of_isComplete complete),
        fun tail follows => skipFrom_complete complete follows⟩
    · next goes =>
      cases stepped : step p stack b bs with
      | error e => rw [stepped] at h; cases h
      | ok next =>
        obtain ⟨p', stack'⟩ := next
        rw [stepped] at h
        obtain ⟨passed, rfl, owed, resume⟩ := ih h
        refine ⟨b :: passed, rfl, ?_, fun tail follows => ?_⟩
        · have := owed_le_of_step stepped
          rw [List.length_cons]
          omega
        · have ahead : p'.owed ≤ (passed ++ tail).length := by
            rw [List.length_append]
            omega
          rw [List.cons_append, skipFrom, if_neg goes, step_ahead stepped ahead]
          exact resume tail follows

theorem dropWhile_cons_of_dropWhile {bs rest : Octets} {b : UInt8}
    (h : bs.dropWhile isSpace = b :: rest) : isSpace b = false := by
  have head := List.head?_dropWhile_not isSpace bs
  rw [h] at head
  simpa using head

/-- A value kept raw is kept again in front of anything else that may follow a value. -/
theorem raw_resume {bs value rest : Octets} (h : raw bs = .ok (value, rest)) (tail : Octets)
    (follows : Follows tail) : raw (value ++ tail) = .ok (value, tail) := by
  unfold raw at h
  dsimp only at h
  cases skipped : skip (bs.dropWhile isSpace) with
  | error e => rw [skipped] at h; cases h
  | ok left =>
    rw [skipped] at h
    obtain ⟨passed, start, owed, resume⟩ := skipFrom_resume skipped
    simp only [Except.ok.injEq, Prod.mk.injEq] at h
    obtain ⟨taken, rfl⟩ := h
    have same : value = passed := by
      rw [← taken, start, List.length_append, Nat.add_sub_cancel, List.take_left' rfl]
    subst same
    cases passed : value with
    | nil => rw [passed] at owed; cases owed
    | cons b more =>
      have space : isSpace b = false := by
        rw [passed] at start
        exact dropWhile_cons_of_dropWhile start
      have still : (b :: more ++ tail).dropWhile isSpace = b :: more ++ tail := by
        rw [List.cons_append, List.dropWhile_cons_of_neg (by simp [space])]
      have again : skip (b :: more ++ tail) = .ok tail := passed ▸ resume tail follows
      unfold raw
      dsimp only
      rw [still, again]
      simp only [List.length_append, Nat.add_sub_cancel]
      rw [List.take_left' rfl]

/-- The text kept and the octets it was kept from. -/
theorem raw_of_readRaw {bs rest : Octets} {s : String} (h : readRaw bs = .ok (s, rest)) :
    raw bs = .ok (Utf8.encode s, rest) := by
  unfold readRaw at h
  cases kept : raw bs with
  | error e => rw [kept] at h; cases h
  | ok p =>
    obtain ⟨value, left⟩ := p
    rw [kept] at h
    dsimp only at h
    cases decoded : Utf8.decode? value with
    | none => rw [decoded] at h; cases h
    | some text =>
      rw [decoded] at h
      cases h
      rw [Utf8.encode_eq_of_decode? decoded]

theorem readRaw_of_raw {bs rest : Octets} {s : String} (h : raw bs = .ok (Utf8.encode s, rest)) :
    readRaw bs = .ok (s, rest) := by
  unfold readRaw
  rw [h]
  dsimp only
  rw [Utf8.decode?_encode]

/-- A value's text is kept wherever a value may stand. -/
theorem IsRaw.read {s : String} (h : IsRaw s) {rest : Octets} (follows : Follows rest) :
    readRaw (Utf8.encode s ++ rest) = .ok (s, rest) :=
  readRaw_of_raw (raw_resume (raw_of_readRaw h) rest follows)

/-- Whatever is kept raw is the text of a value. -/
theorem isRaw_of_readRaw {bs rest : Octets} {s : String} (h : readRaw bs = .ok (s, rest)) :
    IsRaw s := by
  have kept := raw_resume (raw_of_readRaw h) [] follows_nil
  rw [List.append_nil] at kept
  exact readRaw_of_raw kept

end Courier.Json
