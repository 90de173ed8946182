import Courier.Contract.Document
import Courier.Proofs.Json.Record

/-!
# Payloads that come back

The codec of every contract is faithful: its members' names differ, and each member is a text, a
truth value, an identifier or a list of phones. So the payload of a message is a value of JSON, and
decoded under the message's type it is the message again (`Contract.decode_payload`).
-/

namespace Courier
set_option autoImplicit false
open Json

theorem CreatePhone.faithful : CreatePhone.shape.codec.Faithful :=
  Shape.faithful (by decide) (fun _ => rfl)
    (faithful_cons faithful_uuid (faithful_cons faithful_uuid (faithful_cons faithful_text
      (faithful_cons faithful_text faithful_nil))))

/-- A client's document holds the documents of its phones. -/
theorem CreateClient.faithful : CreateClient.shape.codec.Faithful :=
  Shape.faithful (by decide) (fun _ => rfl)
    (faithful_cons faithful_uuid (faithful_cons faithful_text (faithful_cons faithful_text
      (faithful_cons faithful_text (faithful_cons CreatePhone.faithful.list faithful_nil)))))

namespace Contract

/-- Every type's documents come back as they were written. -/
theorem faithful (c : Contract) : c.shape.codec.Faithful := by
  cases c with
  | createClient => exact CreateClient.faithful
  | createPhone => exact CreatePhone.faithful
  | updateClient | clientUpdated | clientArchiveStatusChanged =>
    exact Shape.faithful (by decide) (fun _ => rfl)
      (faithful_cons faithful_uuid (faithful_cons faithful_text (faithful_cons faithful_text
        (faithful_cons faithful_text (faithful_cons faithful_flag faithful_nil)))))
  | deleteClient | clientDeleted =>
    exact Shape.faithful (by decide) (fun _ => rfl) (faithful_cons faithful_uuid faithful_nil)
  | changeClientArchiveStatus =>
    exact Shape.faithful (by decide) (fun _ => rfl)
      (faithful_cons faithful_uuid (faithful_cons faithful_flag faithful_nil))
  | updatePhone =>
    exact Shape.faithful (by decide) (fun _ => rfl)
      (faithful_cons faithful_uuid (faithful_cons faithful_uuid (faithful_cons faithful_text
        (faithful_cons faithful_text faithful_nil))))
  | clientCreated =>
    exact Shape.faithful (by decide) (fun _ => rfl)
      (faithful_cons faithful_uuid (faithful_cons faithful_text (faithful_cons faithful_text
        (faithful_cons faithful_text faithful_nil))))

end Contract

/-- The payload of a message is the text of one value. -/
theorem Message.isRaw_payload (m : Message) : IsRaw m.payload :=
  (m.contract.faithful.value m.body).isRaw

/-- A payload decoded under the type of its message. -/
theorem Contract.decode_payload (m : Message) :
    m.contract.decode (Utf8.encode m.payload) = .ok m := by
  have read := (m.contract.faithful.carries m.body).document
  unfold Contract.decode Message.payload
  rw [read]
  rfl

end Courier
