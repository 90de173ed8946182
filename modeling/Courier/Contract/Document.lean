import Courier.Contract.Basic
import Courier.Json.Record

/-!
# Messages as documents

The members of each contract's document and the two ways between a message and its payload.
-/

namespace Courier
set_option autoImplicit false
open Json

/-- The document of a `CreatePhone`. -/
def CreatePhone.shape : Shape CreatePhone where
  schema := ⟨"CreatePhone", [.required "Id" .uuid, .required "ClientId" .uuid,
    .required "PhoneNumber" .text, .required "PhoneType" .text]⟩
  toRecord m := (m.id, m.clientId, m.phoneNumber, m.phoneType, ())
  ofRecord | (id, clientId, phoneNumber, phoneType, ()) => ⟨id, clientId, phoneNumber, phoneType⟩

/-- The document of a `CreateClient`; it may lack the phones. -/
def CreateClient.shape : Shape CreateClient where
  schema := ⟨"CreateClient", [.required "Id" .uuid, .required "FirstName" .text,
    .required "LastName" .text, .required "Email" .text,
    .optional "Phones" (.list CreatePhone.shape.codec) []]⟩
  toRecord m := (m.id, m.firstName, m.lastName, m.email, m.phones, ())
  ofRecord
    | (id, firstName, lastName, email, phones, ()) => ⟨id, firstName, lastName, email, phones⟩

/-- The document of an `UpdateClient`. -/
def UpdateClient.shape : Shape UpdateClient where
  schema := ⟨"UpdateClient", [.required "Id" .uuid, .required "FirstName" .text,
    .required "LastName" .text, .required "Email" .text, .required "IsArchived" .flag]⟩
  toRecord m := (m.id, m.firstName, m.lastName, m.email, m.isArchived, ())
  ofRecord
    | (id, firstName, lastName, email, isArchived, ()) =>
      ⟨id, firstName, lastName, email, isArchived⟩

/-- The document of a `DeleteClient`. -/
def DeleteClient.shape : Shape DeleteClient where
  schema := ⟨"DeleteClient", [.required "Id" .uuid]⟩
  toRecord m := (m.id, ())
  ofRecord | (id, ()) => ⟨id⟩

/-- The document of a `ChangeClientArchiveStatus`. -/
def ChangeClientArchiveStatus.shape : Shape ChangeClientArchiveStatus where
  schema := ⟨"ChangeClientArchiveStatus", [.required "Id" .uuid, .required "IsArchived" .flag]⟩
  toRecord m := (m.id, m.isArchived, ())
  ofRecord | (id, isArchived, ()) => ⟨id, isArchived⟩

/-- The document of an `UpdatePhone`. -/
def UpdatePhone.shape : Shape UpdatePhone where
  schema := ⟨"UpdatePhone", [.required "Id" .uuid, .required "ClientId" .uuid,
    .required "Number" .text, .required "PhoneType" .text]⟩
  toRecord m := (m.id, m.clientId, m.number, m.phoneType, ())
  ofRecord | (id, clientId, number, phoneType, ()) => ⟨id, clientId, number, phoneType⟩

/-- The document of a `ClientCreated`. -/
def ClientCreated.shape : Shape ClientCreated where
  schema := ⟨"ClientCreated", [.required "ClientId" .uuid, .required "FirstName" .text,
    .required "LastName" .text, .required "Email" .text]⟩
  toRecord m := (m.clientId, m.firstName, m.lastName, m.email, ())
  ofRecord | (clientId, firstName, lastName, email, ()) => ⟨clientId, firstName, lastName, email⟩

/-- The document of a `ClientUpdated`. -/
def ClientUpdated.shape : Shape ClientUpdated where
  schema := ⟨"ClientUpdated", [.required "Id" .uuid, .required "FirstName" .text,
    .required "LastName" .text, .required "Email" .text, .required "IsArchived" .flag]⟩
  toRecord m := (m.id, m.firstName, m.lastName, m.email, m.isArchived, ())
  ofRecord
    | (id, firstName, lastName, email, isArchived, ()) =>
      ⟨id, firstName, lastName, email, isArchived⟩

/-- The document of a `ClientDeleted`. -/
def ClientDeleted.shape : Shape ClientDeleted where
  schema := ⟨"ClientDeleted", [.required "Id" .uuid]⟩
  toRecord m := (m.id, ())
  ofRecord | (id, ()) => ⟨id⟩

/-- The document of a `ClientArchiveStatusChanged`. -/
def ClientArchiveStatusChanged.shape : Shape ClientArchiveStatusChanged where
  schema := ⟨"ClientArchiveStatusChanged", [.required "Id" .uuid, .required "FirstName" .text,
    .required "LastName" .text, .required "Email" .text, .required "IsArchived" .flag]⟩
  toRecord m := (m.id, m.firstName, m.lastName, m.email, m.isArchived, ())
  ofRecord
    | (id, firstName, lastName, email, isArchived, ()) =>
      ⟨id, firstName, lastName, email, isArchived⟩

namespace Contract

/-- The document of a type. -/
def shape : (c : Contract) → Shape c.Body
  | createClient => CreateClient.shape
  | updateClient => UpdateClient.shape
  | deleteClient => DeleteClient.shape
  | changeClientArchiveStatus => ChangeClientArchiveStatus.shape
  | createPhone => CreatePhone.shape
  | updatePhone => UpdatePhone.shape
  | clientCreated => ClientCreated.shape
  | clientUpdated => ClientUpdated.shape
  | clientDeleted => ClientDeleted.shape
  | clientArchiveStatusChanged => ClientArchiveStatusChanged.shape

/-- The message of a type that a payload holds. -/
def decode (c : Contract) (payload : Octets) : Except Json.Error Message := do
  return ⟨c, ← document c.shape.codec.read payload⟩

end Contract

/-- The payload of a message. -/
def Message.payload (m : Message) : String := m.contract.shape.codec.write m.body

end Courier
