import Courier.Pipeline
import Courier.Registry
import Courier.Work

/-!
# Receptions

A body on its way in: the stages that unwrap it, find its type, decode it and open a scope for its
handler, and the dispatch at their end.
-/

namespace Courier
set_option autoImplicit false

/-- Handles a message in its context. -/
abbrev Handler (σ : Type) : Type := Message → MessageContext → Work σ (Except HandlerError Unit)

/-- The handlers of one reception, by type, and the flow they work in. -/
structure Scope (σ : Type) where
  handlers : Contract → Option (Handler σ)
  flow : Flow

namespace Scope
variable {σ : Type}

/-- A scope without handlers. -/
def empty : Scope σ := ⟨fun _ => none, .empty⟩

/-- The scope with a handler for a type, in place of one it may have. -/
def withHandler (s : Scope σ) (c : Contract) (handler : Handler σ) : Scope σ :=
  { s with handlers := fun other => if other = c then some handler else s.handlers other }

/-- Hands a message to the handler of its type. -/
def invoke (s : Scope σ) (m : Message) (context : MessageContext) :
    Work σ (Except HandlerError Unit) :=
  match s.handlers m.contract with
  | some handler => handler m context
  | none => return .error (.noHandler m.contract.name)

end Scope

/-- A body on its way in, and what the stages have made of it. -/
structure Reception (σ : Type) where
  body : Octets
  envelope : Option Envelope := none
  registration : Option Registration := none
  message : Option Message := none
  scope : Option (Scope σ) := none
  context : Option MessageContext := none
  around : Surroundings σ

namespace Reception
variable {σ : Type}

/-- A step in receiving. -/
abbrev Step (σ α : Type) : Type := ExceptT MessagingError (StateM (Reception σ)) α

/-- A stage of receiving. -/
abbrev Stage (σ : Type) : Type := Pipeline.Stage (Step σ Unit)

/-- The type that the envelope names. -/
def messageType (r : Reception σ) : Option String := r.envelope.map (·.messageType)

/-- Does work in the surroundings. -/
def work {α : Type} (act : Work σ α) : Step σ α := do
  let r ← get
  let (result, around) := act r.around
  set { r with around }
  return result

/-- Unwraps the body. -/
def extraction : Stage σ := fun rest => do
  let envelope ← MonadExcept.ofExcept (Envelope.decode (← get).body)
  modify fun r => { r with context := some envelope.context, envelope := some envelope }
  rest

/-- Finds the registration of the type. -/
def resolution (registry : Registry) : Stage σ := fun rest => do
  match (← get).messageType with
  | none => throw (.pipelineState "type resolution")
  | some name =>
    match registry.resolve name with
    | none =>
      work (Work.report (.unknownMessageType name))
      throw (.unknownMessageType name)
    | some registration =>
      modify fun r => { r with registration := some registration }
      rest

/-- Decodes the payload. -/
def decoding : Stage σ := fun rest => do
  let r ← get
  match r.envelope, r.registration with
  | some envelope, some registration =>
    let message ← MonadExcept.ofExcept (registration.message envelope.payload)
    modify fun r => { r with message := some message }
    rest
  | _, _ => throw (.pipelineState "payload deserialization")

/-- Opens a scope that goes on with the message's context, and closes it whatever comes of the
rest. -/
def scoping (opening : Work σ (Scope σ)) : Stage σ := fun rest => do
  match (← get).context with
  | none => throw (.pipelineState "handler scope")
  | some context =>
    let scope ← work opening
    modify fun r => { r with scope := some { scope with flow := .of context } }
    let result ← observing rest
    modify fun r => { r with scope := none }
    MonadExcept.ofExcept result

/-- Hands the message to its handler. -/
def dispatch : Step σ Unit := do
  match (← get).message with
  | none => throw (.pipelineState "dispatch")
  | some message =>
    modify fun r => { r with message := none }
    let r ← get
    match r.scope, r.context with
    | some scope, some context =>
      match ← work (scope.invoke message context) with
      | .ok () => return ()
      | .error e => throw (.handler e)
    | _, _ => throw (.pipelineState "dispatch")

/-- The stages of receiving. -/
def standard (registry : Registry) (opening : Work σ (Scope σ)) : List (Stage σ) :=
  [extraction, resolution registry, decoding, scoping opening]

/-- Receives a body. -/
def run (stages : List (Stage σ)) (last : Step σ Unit) (r : Reception σ) :
    Except MessagingError Unit × Reception σ :=
  (Pipeline.run stages last).run r

/-- Receives a body in surroundings, nothing being known of it before. -/
def receive (stages : List (Stage σ)) (last : Step σ Unit) (body : Octets) :
    Work σ (Except MessagingError Unit) := fun around =>
  let (result, r) := run stages last { body, around }
  (result, r.around)

end Reception

end Courier
