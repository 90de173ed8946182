import Courier.Proofs.Headers
import Courier.Proofs.Text.Lowercase

/-!
# Traces read back

Pairs are set under their keys in small letters and asked for under a key as it is. So what a
propagator sets is there for one that asks in small letters, whatever headers there were before;
one that asks in capitals finds what it would have found without the pairs
(`Trace.read_back_in_small_letters`), which is nothing as a rule (`Trace.capitals_not_read_back`).
-/

namespace Courier.Trace
set_option autoImplicit false
open Amqp

variable {headers : Table} {pairs : List (String × String)} {key text : String}

/-! ## Texts -/

theorem extract_of_get? (held : headers.get? key = some (.ofText text)) :
    extract headers key = some text := by
  unfold extract
  rw [held]
  exact Utf8.decode?_encode text

theorem extract_congr {before : Table} (same : headers.get? key = before.get? key) :
    extract headers key = extract before key := by
  unfold extract
  rw [same]

theorem lastSet_of_mem {pair : String × String} (mem : pair ∈ pairs) :
    ∃ text, LastSet pairs (Text.toLower pair.1) text := by
  rcases lastSet_or_unset pairs (Text.toLower pair.1) with set | unset
  · exact set
  · exact absurd rfl (unset pair mem)

/-- What is not in small letters is not set. -/
theorem unset_of_capitals (pairs : List (String × String)) (capitals : Text.toLower key ≠ key) :
    ∀ pair ∈ pairs, Text.toLower pair.1 ≠ key := by
  rintro pair - rfl
  exact capitals (Text.toLower_toLower pair.1)

/-! ## Keys -/

theorem mem_keys_inject (headers : Table) (written text : String) :
    key ∈ keys (inject headers written text) ↔
      key ∈ keys headers ∨ Text.toLower written = key := by
  unfold keys inject
  rw [Table.names_insert]
  split
  · next known =>
    refine (or_iff_left_of_imp ?_).symm
    rintro rfl
    exact known
  · rw [List.mem_append, List.mem_singleton, eq_comm (a := key)]

theorem mem_keys_injectAll (headers : Table) (pairs : List (String × String)) :
    key ∈ keys (injectAll headers pairs) ↔
      key ∈ keys headers ∨ ∃ pair ∈ pairs, Text.toLower pair.1 = key := by
  induction pairs generalizing headers with
  | nil => simp [injectAll]
  | cons pair pairs ih =>
    rw [injectAll_cons, ih, mem_keys_inject, List.exists_mem_cons_iff, or_assoc]

/-! ## What is read back -/

/-- Every key of the pairs, in small letters, gives what the last pair under it set. The key itself
does too if it is in small letters, and otherwise gives what it did before. All other headers are
what they were, and the keys are those there were before and those of the pairs in small letters,
each once. -/
theorem read_back_in_small_letters (headers : Table) (pairs : List (String × String)) :
    (∀ pair ∈ pairs, ∃ text, LastSet pairs (Text.toLower pair.1) text ∧
      extract (injectAll headers pairs) (Text.toLower pair.1) = some text ∧
      extract (injectAll headers pairs) pair.1 =
        if Text.toLower pair.1 = pair.1 then some text else extract headers pair.1) ∧
    (∀ key, (∀ pair ∈ pairs, Text.toLower pair.1 ≠ key) →
      (injectAll headers pairs).get? key = headers.get? key) ∧
    (∀ key, key ∈ keys (injectAll headers pairs) ↔
      key ∈ keys headers ∨ ∃ pair ∈ pairs, Text.toLower pair.1 = key) ∧
    ((keys headers).Nodup → (keys (injectAll headers pairs)).Nodup) := by
  refine ⟨fun pair mem => ?_, fun key unset => get?_injectAll_of_unset unset,
    fun key => mem_keys_injectAll headers pairs, fun once => nodup_injectAll once pairs⟩
  obtain ⟨text, set⟩ := lastSet_of_mem mem
  have held : extract (injectAll headers pairs) (Text.toLower pair.1) = some text :=
    extract_of_get? (get?_injectAll_of_lastSet set)
  refine ⟨text, set, held, ?_⟩
  split
  · next small => rwa [small] at held
  · next capitals =>
    exact extract_congr (get?_injectAll_of_unset (unset_of_capitals pairs capitals))

/-- A propagator that asks for the key it set, capitals and all, does not get its text back. -/
theorem capitals_not_read_back :
    let pairs := [("TraceParent", "00-abc-def-01")]
    LastSet pairs (Text.toLower "TraceParent") "00-abc-def-01" ∧
    extract (injectAll [] pairs) "TraceParent" = none ∧
    extract (injectAll [] pairs) "traceparent" = some "00-abc-def-01" := by
  intro pairs
  exact ⟨⟨[], "TraceParent", [], rfl, rfl, nofun⟩, by decide +kernel, by decide +kernel⟩

end Courier.Trace
