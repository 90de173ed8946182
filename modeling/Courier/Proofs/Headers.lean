import Courier.Proofs.Text.Utf8
import Courier.Publication

/-!
# What travels in the headers

Three things are put among the headers of a message: the pairs of a trace, the type of the message
and the number of its publish. A trace goes first, so none of its pairs stands under the name of the
other two (`Envelope.properties_read_back`). Beside that, what a table holds after it was written to
(`Amqp.Table.get?_insert`), and what a key of a trace holds after pairs were set
(`Trace.get?_injectAll_iff`).
-/

namespace Courier
set_option autoImplicit false
open Amqp

/-! ## Tables -/

namespace Amqp.Table

theorem get?_insert (t : Table) (name other : String) (value : Value) :
    (insert t name value).get? other = if name = other then some value else t.get? other := by
  split
  · next same =>
    subst same
    exact get?_insert_self t name value
  · next different => exact get?_insert_of_ne value different

/-- A new name comes last. -/
theorem names_insert (t : Table) (name : String) (value : Value) :
    (insert t name value).names = if name ∈ t.names then t.names else t.names ++ [name] := by
  induction t with
  | nil => simp [insert, names]
  | cons m t ih =>
    obtain ⟨key, old⟩ := m
    by_cases same : key = name
    · simp [insert, names, same]
    · have other : name ≠ key := fun h => same h.symm
      unfold names at ih ⊢
      simp only [insert, same, if_false, List.map_cons, List.mem_cons, other, false_or, ih]
      split <;> rfl

theorem nodup_insert {t : Table} (once : t.names.Nodup) (name : String) (value : Value) :
    (insert t name value).names.Nodup := by
  rw [names_insert]
  split
  · exact once
  · next new =>
    rw [List.nodup_append]
    refine ⟨once, by simp, ?_⟩
    intro old held other mem same
    rw [List.mem_singleton.1 mem] at same
    exact new (same ▸ held)

/-- Where no name occurs twice, a member is what its name stands for. -/
theorem mem_iff_get? {t : Table} (once : t.names.Nodup) (name : String) (value : Value) :
    (name, value) ∈ t ↔ t.get? name = some value := by
  induction t with
  | nil => simp [get?]
  | cons m t ih =>
    obtain ⟨key, old⟩ := m
    obtain ⟨new, rest⟩ := List.nodup_cons.1 once
    by_cases same : key = name
    · subst same
      have gone : (key, value) ∉ t := fun mem => new (List.mem_map.2 ⟨_, mem, rfl⟩)
      simp [get?, gone, eq_comm]
    · have other : name ≠ key := fun h => same h.symm
      simp [get?, same, other, ih rest]

end Amqp.Table

/-! ## Traces -/

namespace Trace

/-- What the last of the pairs under a key sets it to. Keys are compared in small letters. -/
def LastSet (pairs : List (String × String)) (key text : String) : Prop :=
  ∃ earlier written later, pairs = earlier ++ (written, text) :: later ∧
    Text.toLower written = key ∧ ∀ pair ∈ later, Text.toLower pair.1 ≠ key

theorem lastSet_or_unset (pairs : List (String × String)) (key : String) :
    (∃ text, LastSet pairs key text) ∨ ∀ pair ∈ pairs, Text.toLower pair.1 ≠ key := by
  induction pairs with
  | nil => exact .inr nofun
  | cons pair pairs ih =>
    rcases ih with ⟨text, earlier, written, later, rfl, same, last⟩ | unset
    · exact .inl ⟨text, pair :: earlier, written, later, rfl, same, last⟩
    · by_cases same : Text.toLower pair.1 = key
      · exact .inl ⟨pair.2, [], pair.1, pairs, rfl, same, unset⟩
      · refine .inr fun other mem => ?_
        rcases List.mem_cons.1 mem with rfl | mem
        · exact same
        · exact unset other mem

variable {headers : Table} {pairs : List (String × String)} {key : String}

theorem injectAll_append (headers : Table) (pairs more : List (String × String)) :
    injectAll headers (pairs ++ more) = injectAll (injectAll headers pairs) more :=
  List.foldl_append

theorem injectAll_cons (headers : Table) (key text : String) (pairs : List (String × String)) :
    injectAll headers ((key, text) :: pairs) = injectAll (inject headers key text) pairs := rfl

theorem get?_inject (headers : Table) (written text key : String) :
    (inject headers written text).get? key =
      if Text.toLower written = key then some (.ofText text) else headers.get? key :=
  Table.get?_insert headers _ _ _

/-- A key that no pair sets holds what it did. -/
theorem get?_injectAll_of_unset (unset : ∀ pair ∈ pairs, Text.toLower pair.1 ≠ key) :
    (injectAll headers pairs).get? key = headers.get? key := by
  induction pairs generalizing headers with
  | nil => rfl
  | cons pair pairs ih =>
    have other : Text.toLower pair.1 ≠ key := unset pair List.mem_cons_self
    rw [injectAll_cons, ih fun p mem => unset p (List.mem_cons_of_mem pair mem), get?_inject,
      if_neg other]

theorem get?_injectAll_of_lastSet {text : String} (set : LastSet pairs key text) :
    (injectAll headers pairs).get? key = some (.ofText text) := by
  obtain ⟨earlier, written, later, rfl, same, last⟩ := set
  rw [injectAll_append, injectAll_cons, get?_injectAll_of_unset last, get?_inject, if_pos same]

/-- Pairs that are set in a table without headers leave what they set last, and nothing else. -/
theorem get?_injectAll_iff (pairs : List (String × String)) (key : String) (value : Value) :
    (injectAll [] pairs).get? key = some value ↔
      ∃ text, LastSet pairs key text ∧ value = .ofText text := by
  constructor
  · intro held
    rcases lastSet_or_unset pairs key with ⟨text, set⟩ | unset
    · rw [get?_injectAll_of_lastSet set] at held
      exact ⟨text, set, (Option.some.inj held).symm⟩
    · rw [get?_injectAll_of_unset unset] at held
      cases held
  · rintro ⟨text, set, rfl⟩
    exact get?_injectAll_of_lastSet set

theorem nodup_injectAll (once : headers.names.Nodup) (pairs : List (String × String)) :
    (injectAll headers pairs).names.Nodup := by
  induction pairs generalizing headers with
  | nil => exact once
  | cons pair pairs ih =>
    apply ih
    exact Table.nodup_insert once _ _

end Trace

/-! ## What is read back -/

namespace Amqp.Properties

variable {p : Properties}

@[simp] theorem headerTable_withHeader (p : Properties) (name : String) (value : Value) :
    (p.withHeader name value).headerTable = p.headerTable.insert name value := rfl

/-- The number that properties are given is the one that is read, up to the greatest that fits. -/
theorem returnedSequence_withSequence (p : Properties) (sequence : Nat) :
    (p.withSequence sequence).returnedSequence = min sequence maxLongLongInt := by
  unfold returnedSequence withSequence
  rw [headerTable_withHeader, Table.get?_insert_self]
  rfl

/-- Deaths are noted in an array, so a text under their name tells of none. -/
theorem deathCount_of_text
    (text : ∀ value, p.headerTable.get? "x-death" = some value →
      ∃ octets, value = .longString octets) :
    p.deathCount = 0 := by
  unfold deathCount
  cases noted : p.headerTable.get? "x-death" with
  | none => rfl
  | some value =>
    obtain ⟨octets, rfl⟩ := text value noted
    rfl

end Amqp.Properties

namespace Envelope

variable (e : Envelope) (trace : List (String × String)) (sequence : Nat)

/-- The headers of a message: its number, its type, and what its trace sets last under other keys. -/
theorem get?_headers (name : String) (value : Value) :
    ((e.properties trace).withSequence sequence).headerTable.get? name = some value ↔
      name = sequenceHeader ∧ value = .longLongInt (min sequence maxLongLongInt : Nat) ∨
      name = messageTypeHeader ∧ value = .ofText e.messageType ∨
      name ≠ sequenceHeader ∧ name ≠ messageTypeHeader ∧
        ∃ text, Trace.LastSet trace name text ∧ value = .ofText text := by
  have written : ((e.properties trace).withSequence sequence).headerTable =
      ((Trace.injectAll [] trace).insert messageTypeHeader (.ofText e.messageType)).insert
        sequenceHeader (.longLongInt (min sequence maxLongLongInt : Nat)) := rfl
  have apart : sequenceHeader ≠ messageTypeHeader := by decide
  rw [written, Table.get?_insert]
  by_cases numbered : sequenceHeader = name
  · subst numbered
    simp [apart, eq_comm]
  · have other : name ≠ sequenceHeader := fun h => numbered h.symm
    rw [if_neg numbered, Table.get?_insert]
    by_cases typed : messageTypeHeader = name
    · subst typed
      simp [other, eq_comm]
    · have rest : name ≠ messageTypeHeader := fun h => typed h.symm
      rw [if_neg typed, Trace.get?_injectAll_iff]
      simp [other, rest]

theorem nodup_headers :
    ((e.properties trace).withSequence sequence).headerTable.names.Nodup := by
  apply Table.nodup_insert
  apply Table.nodup_insert
  apply Trace.nodup_injectAll
  exact List.nodup_nil

/-- What a message's envelope and a trace make of its headers can be read back, whatever the trace
and the number of the publish are: the number, up to the greatest that fits; the type, also where
the property of it is lost; and no deaths. The headers are the number and the type, each under its
name, and beside them what the trace sets last under any other key. Giving the number changes
nothing but the headers. -/
theorem properties_read_back (e : Envelope) (trace : List (String × String)) (sequence : Nat) :
    let sent := (e.properties trace).withSequence sequence
    sent.returnedSequence = min sequence (Nat.pow 2 63 - 1) ∧
    sent.declaredType = e.messageType ∧ sent.deathCount = 0 ∧
    { sent with messageType := none }.declaredType = e.messageType ∧
    sent = { e.properties trace with headers := sent.headers } ∧
    ∃ headers, sent.headers = some headers ∧ headers.names.Nodup ∧
      ∀ name value, (name, value) ∈ headers ↔
        name = "x-publish-sequence-number" ∧
          value = .longLongInt (min sequence (Nat.pow 2 63 - 1) : Nat) ∨
        name = "x-message-type" ∧ value = .ofText e.messageType ∨
        name ≠ "x-publish-sequence-number" ∧ name ≠ "x-message-type" ∧
          ∃ text, Trace.LastSet trace name text ∧ value = .ofText text := by
  intro sent
  refine ⟨Properties.returnedSequence_withSequence _ sequence, rfl, ?_, ?_, rfl, sent.headerTable,
    rfl, e.nodup_headers trace sequence, ?_⟩
  · apply Properties.deathCount_of_text
    intro value noted
    rcases (e.get?_headers trace sequence _ _).1 noted with
      ⟨numbered, _⟩ | ⟨typed, _⟩ | ⟨_, _, text, _, rfl⟩
    · exact absurd numbered (by decide)
    · exact absurd typed (by decide)
    · exact ⟨_, rfl⟩
  · have header : sent.headerTable.get? messageTypeHeader = some (.ofText e.messageType) :=
      (e.get?_headers trace sequence _ _).2 (.inr (.inl ⟨rfl, rfl⟩))
    have repeated : { sent with messageType := none }.declaredType =
        ((sent.headerTable.get? messageTypeHeader).bind Value.asLongString?).elim ""
          Utf8.decodeLossy := rfl
    rw [repeated, header]
    exact Utf8.decodeLossy_encode e.messageType
  · intro name value
    rw [Table.mem_iff_get? (e.nodup_headers trace sequence)]
    exact e.get?_headers trace sequence name value

end Envelope

end Courier
