import Courier.Publication.Terminal

/-!
# Outboxes

The parcels that one publisher has on their way at the same time. They share what is known of the
routes that have been declared, and nothing else. A parcel goes on by single steps, from one wait to
the next, and between two steps anything may happen; at every wait a token that has fired comes
before an answer that is there.
-/

namespace Courier
set_option autoImplicit false
open Confirm

/-- How far a parcel has come. -/
inductive Post.Stage where
  | arriving
  /-- The topology of its route is being declared; the answer may be there. -/
  | declaring (answer : Option (Except BrokerError Unit))
  /-- It is in the hands of the broker. -/
  | publishing
  | finished (result : Except MessagingError Nat)

/-- A parcel on its way, and the trace and the token it travels with. -/
structure Post where
  parcel : Parcel
  trace : List (String × String)
  cancelled : Bool
  stage : Post.Stage

/-- What is asked of the broker, and what it answered. -/
inductive Outbox.Event where
  | declare (queue exchange routingKey : String)
  | declared (queue exchange routingKey : String) (answer : Except BrokerError Unit)
  | publish (frame : Frame)
  | published (answer : Except BrokerError Nat)

/-- The parcels of a publisher by their order of arrival, the routes it knows to be declared, and
what was asked and answered for which parcel. -/
structure Outbox where
  declared : List Route
  posts : List Post
  events : List (Nat × Outbox.Event)

namespace Outbox

/-- A publisher that has not been used. -/
def empty : Outbox := ⟨[], [], []⟩

/-- Something that can happen. -/
inductive Move where
  /-- A parcel is handed in. -/
  | post (parcel : Parcel) (trace : List (String × String)) (cancelled : Bool)
  /-- The token of a parcel fires. -/
  | cancel (i : Nat)
  /-- A parcel goes on. -/
  | advance (i : Nat)
  /-- The declaration for a parcel is answered. -/
  | declared (i : Nat) (answer : Except BrokerError Unit)
  /-- The broker is done with a parcel. -/
  | published (i : Nat) (answer : Except BrokerError Nat)

/-- Notes what was asked or answered for a parcel. -/
def note (o : Outbox) (i : Nat) (event : Event) : Outbox :=
  { o with events := o.events ++ [(i, event)] }

/-- Moves a parcel to a stage. -/
def setStage (o : Outbox) (i : Nat) (stage : Post.Stage) : Outbox :=
  { o with posts := o.posts.modify i fun p => { p with stage } }

/-- Hands a parcel in. -/
def post (o : Outbox) (parcel : Parcel) (trace : List (String × String)) (cancelled : Bool) :
    Outbox :=
  { o with posts := o.posts ++ [⟨parcel, trace, cancelled, .arriving⟩] }

/-- Fires the token of a parcel. -/
def cancel (o : Outbox) (i : Nat) : Outbox :=
  { o with posts := o.posts.modify i fun p => { p with cancelled := true } }

/-- Does next what is to be done about a parcel. -/
def proceed (o : Outbox) (i : Nat) (p : Post) : Parcel.Next → Outbox
  | .declare =>
    (o.setStage i (.declaring none)).note i
      (.declare p.parcel.route.routingKey p.parcel.route.exchange p.parcel.route.routingKey)
  | .publish => (o.setStage i .publishing).note i (.publish (p.parcel.frame p.trace))
  | .stop e => o.setStage i (.finished (.error e))

/-- Goes on after a declaration; no answer means that the token fired first. -/
def proceedDeclared (o : Outbox) (i : Nat) (p : Post) (answer : Option (Except BrokerError Unit)) :
    Outbox :=
  let (next, declared) := p.parcel.atDeclared o.declared answer
  { o with declared }.proceed i p next

/-- Lets a parcel go on. -/
def advance (o : Outbox) (i : Nat) : Outbox :=
  match o.posts[i]? with
  | none => o
  | some p =>
    match p.stage with
    | .arriving => o.proceed i p (p.parcel.atStart p.cancelled o.declared)
    | .declaring answer =>
      if p.cancelled then o.proceedDeclared i p none
      else
        match answer with
        | none => o
        | some answer =>
          (o.note i (.declared p.parcel.route.routingKey p.parcel.route.exchange
            p.parcel.route.routingKey answer)).proceedDeclared i p (some answer)
    | .publishing | .finished _ => o

/-- Brings the answer to the declaration for a parcel, unless it is there. -/
def answer (o : Outbox) (i : Nat) (answer : Except BrokerError Unit) : Outbox :=
  match o.posts[i]? with
  | some ⟨_, _, _, .declaring none⟩ => o.setStage i (.declaring (some answer))
  | _ => o

/-- Ends a parcel with what the broker answered. -/
def conclude (o : Outbox) (i : Nat) (answer : Except BrokerError Nat) : Outbox :=
  match o.posts[i]? with
  | some ⟨_, _, _, .publishing⟩ =>
    (o.setStage i (.finished (answer.mapError .ofBroker))).note i (.published answer)
  | _ => o

/-- Makes a move. -/
def act (o : Outbox) : Move → Outbox
  | .post parcel trace cancelled => o.post parcel trace cancelled
  | .cancel i => o.cancel i
  | .advance i => o.advance i
  | .declared i answer => o.answer i answer
  | .published i answer => o.conclude i answer

/-- The outbox after some moves. -/
def after (moves : List Move) : Outbox := moves.foldl act empty

/-- The result of a parcel that has one. -/
def result? (o : Outbox) (i : Nat) : Option (Except MessagingError Nat) := do
  match (← o.posts[i]?).stage with
  | .finished result => some result
  | _ => none

end Outbox

end Courier
