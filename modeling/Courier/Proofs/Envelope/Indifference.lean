import Courier.Proofs.Envelope
import Courier.Proofs.Json.Told

/-!
# What an envelope's body may look like

A body that is an object is read as what its six members tell, and nothing else in it matters
(`Envelope.decode_object_iff`).
-/

namespace Courier.Envelope
set_option autoImplicit false
open Json Reading

/-- The names of an envelope's members, in the order of declaration. -/
def names : List String :=
  ["EnvelopeId", "MessageType", "CorrelationId", "CausationId", "CreatedUtc", "Payload"]

theorem names_eq : shape.schema.fields.map Field.name = names := rfl

theorem nodup_names : (shape.schema.fields.map Field.name).Nodup := by decide

theorem lexical_cause : Lexical causeCodec.read :=
  lexical_uuid.option.bind fun _ _ _ _ h => by
    cases h
    exact ⟨rfl, fun _ => rfl⟩

theorem lexical_fields : Field.Lexical shape.schema.fields := by
  have uuid : Lexical Codec.uuid.read := lexical_uuid
  have text : Lexical Codec.text.read := lexical_textAs _
  have instant : Lexical Codec.instant.read := lexical_instant
  have raw : Lexical Codec.raw.read := lexical_raw
  simp only [Field.Lexical, shape, Field.required, List.forall_mem_cons]
  exact ⟨uuid, text, uuid, lexical_cause, instant, raw, nofun⟩

theorem required_fields : ∀ f ∈ shape.schema.fields, f.absent = none := by
  simp [shape, Field.required]

variable {o : Object} {e : Envelope} {body : Octets}

theorem decode_eq_ok : decode body = .ok e ↔
    ∃ rest, shape.schema.read body = .ok (shape.toRecord e, rest) ∧ IsBlank rest := by
  have whole : decode body = .ok e ↔ document shape.codec.read body = .ok e := by
    unfold decode
    cases document shape.codec.read body <;> simp
  rw [whole, document_eq_ok]
  constructor
  · rintro ⟨rest, read, isBlank⟩
    obtain ⟨r, mid, fields, same⟩ := bind_eq_ok read
    cases same
    exact ⟨rest, fields, isBlank⟩
  · rintro ⟨rest, read, isBlank⟩
    refine ⟨rest, ?_, isBlank⟩
    show (shape.schema.read >>= fun r => pure (shape.ofRecord r)) body = _
    rw [bind_ok read]
    rfl

theorem malformed_of_ne (h : ∀ e, decode body ≠ .ok e) :
    ∃ cause, decode body = .error (.malformedEnvelope cause) := by
  cases decoded : decode body with
  | ok e => exact absurd decoded (h e)
  | error error =>
    unfold decode at decoded
    split at decoded
    · cases decoded
    · cases decoded
      exact ⟨_, rfl⟩

/-- An object is decoded exactly where its members tell the envelope and nothing but white space
stands behind it. -/
theorem decode_object_iff (before : IsBlank o.before) (gap : IsBlank o.gap)
    (entries : ∀ x ∈ o.entries, x.WellFormed) :
    decode o.octets = .ok e ↔
      Record.Told shape.schema.fields (shape.toRecord e) o.told ∧ IsBlank o.after := by
  rw [decode_eq_ok]
  simp only [Schema.read_object_iff nodup_names lexical_fields before gap entries]
  constructor
  · rintro ⟨_, ⟨told, rfl⟩, isBlank⟩
    exact ⟨told, isBlank⟩
  · rintro ⟨told, isBlank⟩
    exact ⟨o.after, ⟨told, rfl⟩, isBlank⟩

/-- Every body that was decoded and starts with a brace is an object. -/
theorem object_of_decode (brace : (body.dropWhile isSpace).head? = some (octet '\x7b'))
    (decoded : decode body = .ok e) : ∃ o : Object, o.WellFormed ∧ o.octets = body := by
  obtain ⟨rest, read, isBlank⟩ := decode_eq_ok.1 decoded
  obtain ⟨o, before, gap, entries, rfl, octets⟩ :=
    Schema.object_of_read lexical_fields brace read
  exact ⟨o, ⟨before, gap, entries, isBlank⟩, octets⟩

/-- The payload is kept as it is written. -/
theorem payload_of_told (wellFormed : o.WellFormed)
    (told : Record.Told shape.schema.fields (shape.toRecord e) o.told) {entry : Entry}
    (mem : entry ∈ o.entries) (name : entry.name = "Payload") :
    entry.value = Utf8.encode e.payload := by
  have isValue := (wellFormed.entries entry mem).isValue
  have listed : entry.value ∈ valuesOf "Payload" o.told :=
    mem_valuesOf.2 (List.mem_map.2 ⟨entry, mem, by rw [Entry.told, name]⟩)
  obtain ⟨_, _, _, _, _, ⟨_, absent⟩ | ⟨value, one, reads⟩, _⟩ := told
  · cases absent
  · have same : valuesOf "Payload" o.told = [value] := one
    rw [same, List.mem_singleton] at listed
    have kept := raw_of_readRaw (reads [] [] isBlank_nil follows_nil.ends)
    rw [← listed, raw_value isBlank_nil isValue follows_nil.ends] at kept
    exact congrArg Prod.fst (Except.ok.inj kept)

/-- The values of the members, in the order of declaration, decode to the same envelope. -/
theorem decode_list (wellFormed : o.WellFormed)
    (told : Record.Told shape.schema.fields (shape.toRecord e) o.told) {before after : Octets}
    {elements : List Element} (isBefore : IsBlank before) (isAfter : IsBlank after)
    (padded : ∀ x ∈ elements, x.Padded)
    (each : List.Forall₂ (fun name x => (name, x.value) ∈ o.told) names elements) :
    decode (before ++ octet '[' ::
      (listing (elements.map Element.octets) ++ octet ']' :: after)) = .ok e := by
  have isValue : ∀ x ∈ elements, IsValue x.value := by
    have listed : List.Forall₂ (fun x (_ : String) => IsValue x.value ∧ True) elements names := by
      refine List.Forall₂.flip (each.imp fun name x mem => ⟨?_, trivial⟩)
      obtain ⟨entry, mem, same⟩ := List.mem_map.1 mem
      have value : entry.value = x.value := congrArg Prod.snd same
      rw [← value]
      exact (wellFormed.entries entry mem).isValue
    exact ((List.forall₂_and_left _ _).1 listed).1
  have values : List.Forall₂ (fun name value => (name, value) ∈ o.told)
      (shape.schema.fields.map Field.name) (elements.map (·.value)) :=
    List.forall₂_map_right_iff.2 each
  cases elements with
  | nil => cases each
  | cons x elements =>
    have read := Schema.read_of_listed padded isValue (told.listed values) isBefore after
    exact decode_eq_ok.2 ⟨after, read, isAfter⟩

theorem field_of_name {name : String} (known : name ∈ names) :
    ∃ f ∈ shape.schema.fields, f.name = name := by
  rw [← names_eq] at known
  exact List.mem_map.1 known

/-- Recasting an object changes nothing of what is decoded. -/
theorem decode_recast {o' : Object} (wellFormed : o.WellFormed) (recast : o.Recast names o')
    (told : Record.Told shape.schema.fields (shape.toRecord e) o.told) :
    decode o'.octets = .ok e := by
  have kept : o'.WellFormed ∧ Record.Told shape.schema.fields (shape.toRecord e) o'.told := by
    induction recast with
    | refl => exact ⟨wellFormed, told⟩
    | @edited o' o'' recast edit wellFormed ih =>
      have edit : o'.Edit (shape.schema.fields.map Field.name) o'' := edit
      exact ⟨wellFormed, edit.keeps ih.2⟩
  obtain ⟨⟨before, gap, entries, after⟩, told⟩ := kept
  exact (decode_object_iff before gap entries).2 ⟨told, after⟩

/-- An object that lacks a member is not decoded. -/
theorem malformed_of_removed (wellFormed : o.WellFormed)
    (told : Record.Told shape.schema.fields (shape.toRecord e) o.told) {front back : List Entry}
    {entry : Entry} (place : o.entries = front ++ entry :: back) (known : entry.name ∈ names) :
    ∃ cause, decode { o with entries := front ++ back }.octets
      = .error (.malformedEnvelope cause) := by
  obtain ⟨f, mem, name⟩ := field_of_name known
  obtain ⟨before, gap, entries, _⟩ := wellFormed
  rw [place] at entries
  have rest : ∀ x ∈ front ++ back, x.WellFormed := fun x mem =>
    entries x ((List.sublist_cons_self entry back).append_left front |>.subset mem)
  unfold Object.told at told
  rw [place, List.map_append, List.map_cons] at told
  refine malformed_of_ne fun e' decoded => ?_
  have removed := ((decode_object_iff (o := { o with entries := front ++ back }) before gap
    rest).1 decoded).1
  unfold Object.told at removed
  rw [List.map_append] at removed
  exact told.not_removed mem (required_fields f mem) name.symm removed

/-- Neither is one that has a member twice. -/
theorem malformed_of_repeated (wellFormed : o.WellFormed)
    (told : Record.Told shape.schema.fields (shape.toRecord e) o.told) {front back : List Entry}
    {entry : Entry} (place : o.entries = front ++ back) (one : entry.WellFormed)
    (known : entry.name ∈ names) :
    ∃ cause, decode { o with entries := front ++ entry :: back }.octets
      = .error (.malformedEnvelope cause) := by
  obtain ⟨f, mem, name⟩ := field_of_name known
  obtain ⟨before, gap, entries, _⟩ := wellFormed
  rw [place] at entries
  have all : ∀ x ∈ front ++ entry :: back, x.WellFormed := by
    simp only [List.forall_mem_append, List.forall_mem_cons] at entries ⊢
    exact ⟨entries.1, one, entries.2⟩
  unfold Object.told at told
  rw [place, List.map_append] at told
  refine malformed_of_ne fun e' decoded => ?_
  have repeated := ((decode_object_iff (o := { o with entries := front ++ entry :: back }) before
    gap all).1 decoded).1
  unfold Object.told at repeated
  rw [List.map_append, List.map_cons] at repeated
  exact told.not_repeated mem (required_fields f mem) name.symm repeated

/-- Neither is one with anything but white space behind it. -/
theorem malformed_of_trailing (wellFormed : o.WellFormed) {junk : Octets} (some : ¬ IsBlank junk) :
    ∃ cause, decode { o with after := junk }.octets = .error (.malformedEnvelope cause) := by
  obtain ⟨before, gap, entries, _⟩ := wellFormed
  refine malformed_of_ne fun e' decoded => some ?_
  have ended : decode { o with after := junk }.octets = .ok e' ↔ _ ∧ IsBlank junk :=
    decode_object_iff before gap entries
  exact (ended.1 decoded).2

/-- Decoding ignores everything in an object that carries no meaning, and nothing else.

* A body that is decoded and starts with a brace is an object of members: names, whichever way they
  are spelled, and values, with white space around them.
* Other objects that are made of it decode to the same envelope: those with the members in another
  order, with other white space, with names spelled otherwise, and with members of unknown names,
  which may have any values, at any place or taken out.
* The payload is the text of the member of its name, octet by octet.
* The list of the members' values, in the order of declaration and with any white space around them,
  decodes to the same envelope.
* An object without one of the six members is not decoded, neither is one with a further member of
  the same name as one of them, and neither is one with anything but white space behind it. -/
theorem decode_indifferent {body : Octets} {e : Envelope}
    (brace : (body.dropWhile isSpace).head? = some (octet '\x7b')) (decoded : decode body = .ok e) :
    (∃ o : Object, o.WellFormed ∧ o.octets = body) ∧
    ∀ o : Object, o.WellFormed → o.octets = body →
      (∀ o', o.Recast names o' → decode o'.octets = .ok e) ∧
      (∀ entry ∈ o.entries, entry.name = "Payload" → entry.value = Utf8.encode e.payload) ∧
      (∀ (before after : Octets) (elements : List Element), IsBlank before → IsBlank after →
        (∀ x ∈ elements, x.Padded) →
        List.Forall₂ (fun name x => (name, x.value) ∈ o.told) names elements →
        decode (before ++ octet '[' ::
          (listing (elements.map Element.octets) ++ octet ']' :: after)) = .ok e) ∧
      (∀ front entry back, o.entries = front ++ entry :: back → entry.name ∈ names →
        ∃ cause, decode { o with entries := front ++ back }.octets
          = .error (.malformedEnvelope cause)) ∧
      (∀ front entry back, o.entries = front ++ back → entry.WellFormed → entry.name ∈ names →
        ∃ cause, decode { o with entries := front ++ entry :: back }.octets
          = .error (.malformedEnvelope cause)) ∧
      ∀ junk, ¬ IsBlank junk →
        ∃ cause, decode { o with after := junk }.octets = .error (.malformedEnvelope cause) := by
  refine ⟨object_of_decode brace decoded, fun o wellFormed octets => ?_⟩
  rw [← octets] at decoded
  obtain ⟨before, gap, entries, after⟩ := wellFormed
  have told := ((decode_object_iff before gap entries).1 decoded).1
  have wellFormed : o.WellFormed := ⟨before, gap, entries, after⟩
  exact ⟨fun o' recast => decode_recast wellFormed recast told,
    fun entry mem name => payload_of_told wellFormed told mem name,
    fun before after elements isBefore isAfter padded each =>
      decode_list wellFormed told isBefore isAfter padded each,
    fun front entry back place known => malformed_of_removed wellFormed told place known,
    fun front entry back place one known => malformed_of_repeated wellFormed told place one known,
    fun junk some => malformed_of_trailing wellFormed some⟩

/-- A member of an unknown name, a letter of which is escaped, around a list with a number in it that
is too large for any type. -/
def noteEntry : Entry where
  name := "note"
  member := ⟨[octet ' '], Utf8.encode "\"n\\u006Fte\"", [], ⟨[], Utf8.encode "[[1e999]]", []⟩⟩

theorem quotes_note : Quotes noteEntry.member.name "note" := by
  have plain (c : Char) (quote : c ≠ '"') (slash : c ≠ '\\') (graphic : 0x20 ≤ c.toNat) :
      ∀ b ∈ Utf8.encodeChar c, IsPlain b :=
    fun b mem => isPlain_of_mem_encodeChar quote slash graphic mem
  have escape : Escapes [octet '\\', octet 'u', octet '0', octet '0', octet '6', octet 'F'] 'o' :=
    .code (by decide)
  have spells := Spells.plain (plain 'n' (by decide) (by decide) (by decide)) (.escape escape
    (.plain (plain 't' (by decide) (by decide) (by decide))
      (.plain (plain 'e' (by decide) (by decide) (by decide)) .nil)))
  exact ⟨Utf8.encode "n\\u006Fte", rfl, spells⟩

theorem wellFormed_noteEntry : noteEntry.WellFormed where
  padded := by
    have isBlank : IsBlank [octet ' '] := fun b mem => by
      rw [List.mem_singleton.1 mem]
      decide
    exact ⟨isBlank, quotes_note.isText, isBlank_nil, isBlank_nil, isBlank_nil⟩
  quotes := quotes_note
  isValue := by
    have kept : raw noteEntry.value = .ok (noteEntry.value, []) := rfl
    exact value_of_raw kept

theorem decode_indifferent_nilCaused :
    ∃ o : Object, o.WellFormed ∧ o.octets = nilCaused.body ∧
      decode { o with entries := noteEntry :: o.entries }.octets = .ok nilCaused.settled ∧
      ∃ cause, decode { o with after := [octet '\x7d'] }.octets
        = .error (.malformedEnvelope cause) := by
  have start : nilCaused.body = octet '\x7b' :: _ := encode_writeObject _
  have brace : (nilCaused.body.dropWhile isSpace).head? = some (octet '\x7b') := by
    rw [start, List.dropWhile_cons_of_neg (by decide)]
    rfl
  have decoded : decode nilCaused.body = .ok nilCaused.settled :=
    decode_body (show IsRaw "[ 7]" from rfl)
  obtain ⟨⟨o, wellFormed, octets⟩, indifferent⟩ := decode_indifferent brace decoded
  obtain ⟨recast, _, _, _, _, trailing⟩ := indifferent o wellFormed octets
  have inserted : o.Edit names { o with entries := [] ++ noteEntry :: o.entries } :=
    .inserted rfl (by decide)
  have entries := List.forall_mem_cons.2 ⟨wellFormed_noteEntry, wellFormed.entries⟩
  refine ⟨o, wellFormed, octets, recast _ (.edited .refl inserted
    ⟨wellFormed.before, wellFormed.gap, entries, wellFormed.after⟩), trailing _ fun isBlank => ?_⟩
  exact absurd (isBlank _ List.mem_cons_self) (by decide)

end Courier.Envelope
