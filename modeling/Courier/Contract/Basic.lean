import Courier.Uuid

/-!
# Contracts

The messages that services exchange about clients: six commands and four events.
-/

namespace Courier
set_option autoImplicit false

/-- A phone to attach to a client. Within a `CreateClient` the client may be left nil. -/
structure CreatePhone where
  id : Uuid
  clientId : Uuid
  phoneNumber : String
  phoneType : String
  deriving DecidableEq

/-- Asks for a new client. -/
structure CreateClient where
  id : Uuid
  firstName : String
  lastName : String
  email : String
  phones : List CreatePhone
  deriving DecidableEq

/-- Asks for a client's data to be replaced. -/
structure UpdateClient where
  id : Uuid
  firstName : String
  lastName : String
  email : String
  isArchived : Bool
  deriving DecidableEq

/-- Asks for a client to be deleted. -/
structure DeleteClient where
  id : Uuid
  deriving DecidableEq

/-- Asks for a client to be archived or brought back. -/
structure ChangeClientArchiveStatus where
  id : Uuid
  isArchived : Bool
  deriving DecidableEq

/-- Asks for a phone's data to be replaced. -/
structure UpdatePhone where
  id : Uuid
  clientId : Uuid
  number : String
  phoneType : String
  deriving DecidableEq

/-- A client was created. -/
structure ClientCreated where
  clientId : Uuid
  firstName : String
  lastName : String
  email : String
  deriving DecidableEq

/-- A client's data was replaced. -/
structure ClientUpdated where
  id : Uuid
  firstName : String
  lastName : String
  email : String
  isArchived : Bool
  deriving DecidableEq

/-- A client was deleted. -/
structure ClientDeleted where
  id : Uuid
  deriving DecidableEq

/-- A client was archived or brought back. -/
structure ClientArchiveStatusChanged where
  id : Uuid
  firstName : String
  lastName : String
  email : String
  isArchived : Bool
  deriving DecidableEq

/-- What a message is for. -/
inductive MessageKind where
  /-- Asks one service to act. -/
  | command
  /-- Tells every service what happened. -/
  | event
  deriving DecidableEq

/-- The name of a purpose. -/
def MessageKind.name : MessageKind → String
  | command => "Command"
  | event => "Event"

/-- The types of messages. -/
inductive Contract where
  | createClient
  | updateClient
  | deleteClient
  | changeClientArchiveStatus
  | createPhone
  | updatePhone
  | clientCreated
  | clientUpdated
  | clientDeleted
  | clientArchiveStatusChanged
  deriving DecidableEq

namespace Contract

/-- Every type, in the order of declaration. -/
def all : List Contract :=
  [createClient, updateClient, deleteClient, changeClientArchiveStatus, createPhone, updatePhone,
    clientCreated, clientUpdated, clientDeleted, clientArchiveStatusChanged]

/-- The name a type goes by between services. -/
def name : Contract → String
  | createClient => "CreateClient"
  | updateClient => "UpdateClient"
  | deleteClient => "DeleteClient"
  | changeClientArchiveStatus => "ChangeClientArchiveStatus"
  | createPhone => "CreatePhone"
  | updatePhone => "UpdatePhone"
  | clientCreated => "ClientCreated"
  | clientUpdated => "ClientUpdated"
  | clientDeleted => "ClientDeleted"
  | clientArchiveStatusChanged => "ClientArchiveStatusChanged"

/-- Commands are imperative, events are in the past tense. -/
def kind : Contract → MessageKind
  | clientCreated | clientUpdated | clientDeleted | clientArchiveStatusChanged => .event
  | _ => .command

/-- The type of a name. -/
def ofName? (name : String) : Option Contract := all.find? fun c => c.name = name

/-- The data of a message of a type. -/
abbrev Body : Contract → Type
  | createClient => CreateClient
  | updateClient => UpdateClient
  | deleteClient => DeleteClient
  | changeClientArchiveStatus => ChangeClientArchiveStatus
  | createPhone => CreatePhone
  | updatePhone => UpdatePhone
  | clientCreated => ClientCreated
  | clientUpdated => ClientUpdated
  | clientDeleted => ClientDeleted
  | clientArchiveStatusChanged => ClientArchiveStatusChanged

instance : (c : Contract) → DecidableEq c.Body
  | createClient => inferInstanceAs (DecidableEq CreateClient)
  | updateClient => inferInstanceAs (DecidableEq UpdateClient)
  | deleteClient => inferInstanceAs (DecidableEq DeleteClient)
  | changeClientArchiveStatus => inferInstanceAs (DecidableEq ChangeClientArchiveStatus)
  | createPhone => inferInstanceAs (DecidableEq CreatePhone)
  | updatePhone => inferInstanceAs (DecidableEq UpdatePhone)
  | clientCreated => inferInstanceAs (DecidableEq ClientCreated)
  | clientUpdated => inferInstanceAs (DecidableEq ClientUpdated)
  | clientDeleted => inferInstanceAs (DecidableEq ClientDeleted)
  | clientArchiveStatusChanged => inferInstanceAs (DecidableEq ClientArchiveStatusChanged)

end Contract

/-- A message: its type and its data. -/
structure Message where
  contract : Contract
  body : contract.Body
  deriving DecidableEq

namespace Message

/-- The identifier of a message, nil until it is assigned. -/
def id : Message → Uuid
  | ⟨.createClient, m⟩ => m.id
  | ⟨.updateClient, m⟩ => m.id
  | ⟨.deleteClient, m⟩ => m.id
  | ⟨.changeClientArchiveStatus, m⟩ => m.id
  | ⟨.createPhone, m⟩ => m.id
  | ⟨.updatePhone, m⟩ => m.id
  | ⟨.clientCreated, m⟩ => m.clientId
  | ⟨.clientUpdated, m⟩ => m.id
  | ⟨.clientDeleted, m⟩ => m.id
  | ⟨.clientArchiveStatusChanged, m⟩ => m.id

/-- The message under another identifier. -/
def withId (m : Message) (id : Uuid) : Message :=
  match m with
  | ⟨.createClient, m⟩ => ⟨.createClient, { m with id }⟩
  | ⟨.updateClient, m⟩ => ⟨.updateClient, { m with id }⟩
  | ⟨.deleteClient, m⟩ => ⟨.deleteClient, { m with id }⟩
  | ⟨.changeClientArchiveStatus, m⟩ => ⟨.changeClientArchiveStatus, { m with id }⟩
  | ⟨.createPhone, m⟩ => ⟨.createPhone, { m with id }⟩
  | ⟨.updatePhone, m⟩ => ⟨.updatePhone, { m with id }⟩
  | ⟨.clientCreated, m⟩ => ⟨.clientCreated, { m with clientId := id }⟩
  | ⟨.clientUpdated, m⟩ => ⟨.clientUpdated, { m with id }⟩
  | ⟨.clientDeleted, m⟩ => ⟨.clientDeleted, { m with id }⟩
  | ⟨.clientArchiveStatusChanged, m⟩ => ⟨.clientArchiveStatusChanged, { m with id }⟩

@[simp] theorem contract_withId (m : Message) (u : Uuid) : (m.withId u).contract = m.contract := by
  obtain ⟨c, m⟩ := m
  cases c <;> rfl

@[simp] theorem id_withId (m : Message) (u : Uuid) : (m.withId u).id = u := by
  obtain ⟨c, m⟩ := m
  cases c <;> rfl

end Message

end Courier
