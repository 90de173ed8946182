import Courier.Contract.Basic
import Courier.Validation

/-!
# What a contract demands

The checks that each command declares; events declare none.
-/

namespace Courier
set_option autoImplicit false

/-- The shape of a phone number. -/
def phoneNumberTemplate : String := "+# (###) ###-####"

@[inherit_doc phoneNumberTemplate]
def phoneNumberMessage : String := "Phone number must match +# (###) ###-####"

/-- A phone has a number of the right shape and a type. -/
def CreatePhone.checks (m : CreatePhone) : List Check :=
  [.required "phone_number" m.phoneNumber "A phone must have a number",
    .template "phone_number" m.phoneNumber phoneNumberTemplate phoneNumberMessage,
    .required "phone_type" m.phoneType "A phone must have a type"]

/-- A client has both names, an email address and valid phones. -/
def CreateClient.checks (m : CreateClient) : List Check :=
  [.required "first_name" m.firstName "Client must have a first name",
    .required "last_name" m.lastName "Client must have a last name",
    .required "email" m.email "Client must have an email address",
    .email "email" m.email "Client must have a valid email address",
    .nested "phones" (m.phones.map CreatePhone.checks)]

/-- An update names its client. -/
def UpdateClient.checks (m : UpdateClient) : List Check :=
  [.requiredId "id" m.id "Client ID required to update client.",
    .email "email" m.email "Client must have a valid email address."]

/-- A deletion names its client. -/
def DeleteClient.checks (m : DeleteClient) : List Check :=
  [.requiredId "id" m.id "Client ID required to delete client."]

/-- A change of status names its client. -/
def ChangeClientArchiveStatus.checks (m : ChangeClientArchiveStatus) : List Check :=
  [.requiredId "id" m.id "Client ID required to change archive status."]

/-- An update names its phone and its client. -/
def UpdatePhone.checks (m : UpdatePhone) : List Check :=
  [.requiredId "id" m.id "Phone ID required to update phone.",
    .requiredId "client_id" m.clientId "The phone requires a client Id foreign key",
    .template "number" m.number phoneNumberTemplate phoneNumberMessage]

namespace Message

/-- The checks of a message. -/
def checks : Message → List Check
  | ⟨.createClient, m⟩ => m.checks
  | ⟨.updateClient, m⟩ => m.checks
  | ⟨.deleteClient, m⟩ => m.checks
  | ⟨.changeClientArchiveStatus, m⟩ => m.checks
  | ⟨.createPhone, m⟩ => m.checks
  | ⟨.updatePhone, m⟩ => m.checks
  | ⟨.clientCreated, _⟩ | ⟨.clientUpdated, _⟩ | ⟨.clientDeleted, _⟩
  | ⟨.clientArchiveStatusChanged, _⟩ => []

/-- What is wrong with a message. -/
def violations (m : Message) : List Violation := Courier.violations m.checks

end Message

end Courier
