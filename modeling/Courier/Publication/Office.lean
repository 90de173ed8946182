import Courier.Confirm.Harbour
import Courier.Publication.Outbox
import Mathlib.Logic.Function.Basic

/-!
# Publishing over lanes

The parcels of a publisher whose broker publishes over lanes. A parcel in the broker's hands waits
for a channel, on whose lane it is then a publish like any other; how that ends is what the broker
answers. Whatever it waits for, a token that has fired comes first.
-/

namespace Courier
set_option autoImplicit false
open Confirm

/-- Where a parcel is that the broker has in hand. -/
inductive Office.Passage where
  /-- The channel is being looked for; its lane, or that there is none, may be known. -/
  | awaitingChannel (answer : Option (Except BrokerError Nat))
  /-- It is a publish of a lane. -/
  | onLane (lane call : Nat)

/-- A publisher, how far the broker is with its parcels, and the lanes. -/
structure Office where
  outbox : Outbox
  passages : Nat → Office.Passage
  harbour : Harbour

namespace Office

/-- A publisher that has not been used, and no lanes. -/
def empty : Office := ⟨.empty, fun _ => .awaitingChannel none, .empty⟩

/-- Something that can happen. -/
inductive Move where
  /-- A parcel is handed in. -/
  | post (parcel : Parcel) (trace : List (String × String)) (cancelled : Bool)
  /-- The token of a parcel fires. -/
  | cancel (i : Nat)
  /-- A parcel goes on. -/
  | advance (i : Nat)
  /-- The declaration for a parcel is answered. -/
  | declared (i : Nat) (answer : Except BrokerError Unit)
  /-- The channel for a parcel is there, by its lane, or cannot be had. -/
  | channel (i : Nat) (answer : Except BrokerError Nat)
  /-- Anything else that happens to the lanes. -/
  | outside (step : Harbour.Step)

/-- Whether a move is a parcel's own. -/
def Move.isOf (i : Nat) : Move → Bool
  | .cancel j | .advance j | .declared j _ | .channel j _ => i == j
  | .post .. | .outside _ => false

/-- A parcel that the broker has in hand. -/
def inHand? (o : Office) (i : Nat) : Option Post := do
  let p ← o.outbox.posts[i]?
  match p.stage with
  | .publishing => some p
  | _ => none

/-- The steps that a move takes on the lanes. A parcel whose channel is there becomes a publish on
its lane, with a token that has not fired. -/
def errand (o : Office) : Move → List Harbour.Step
  | .post .. | .declared .. | .channel .. => []
  | .outside step => [step]
  | .cancel i =>
    match o.passages i with
    | .awaitingChannel _ => []
    | .onLane k call => [.move k (.cancel call)]
  | .advance i =>
    match o.inHand? i with
    | none => []
    | some p =>
      match o.passages i with
      | .awaitingChannel (some (.ok k)) =>
        if p.cancelled then [] else [.move k (.call (p.parcel.frame p.trace) false)]
      | .awaitingChannel _ => []
      | .onLane k call => [.move k (.advance call)]

/-- The lanes after a move. -/
def harbourAfter (o : Office) (m : Move) : Harbour := (o.errand m).foldl Harbour.act o.harbour

/-- Where a parcel is after a move. -/
def passagesAfter (o : Office) : Move → Nat → Passage
  | .channel i answer =>
    match o.inHand? i, o.passages i with
    | some _, .awaitingChannel none =>
      Function.update o.passages i (.awaitingChannel (some answer))
    | _, _ => o.passages
  | .advance i =>
    match o.inHand? i, o.passages i with
    | some p, .awaitingChannel (some (.ok k)) =>
      match o.harbour.desk? k with
      | some d =>
        if p.cancelled then o.passages
        else Function.update o.passages i (.onLane k d.lane.calls.length)
      | none => o.passages
    | _, _ => o.passages
  | _ => o.passages

/-- What the broker answers when a parcel goes on, if it is done with it. -/
def reply? (o : Office) (i : Nat) : Option (Except BrokerError Nat) := do
  let p ← o.inHand? i
  match o.passages i with
  | .awaitingChannel answer =>
    if p.cancelled then some (.error .cancelled)
    else
      match answer with
      | some (.error e) => some (.error e)
      | _ => none
  | .onLane k call => ((o.harbourAfter (.advance i)).desk? k).bind (·.result? call)

/-- The parcels after a move. -/
def outboxAfter (o : Office) : Move → Outbox
  | .post parcel trace cancelled => o.outbox.post parcel trace cancelled
  | .cancel i => o.outbox.cancel i
  | .declared i answer => o.outbox.answer i answer
  | .advance i =>
    match o.reply? i with
    | none => o.outbox.advance i
    | some answer => o.outbox.conclude i answer
  | .channel .. | .outside _ => o.outbox

/-- Makes a move. -/
def act (o : Office) (m : Move) : Office := ⟨o.outboxAfter m, o.passagesAfter m, o.harbourAfter m⟩

/-- The office after some moves. -/
def after (moves : List Move) : Office := moves.foldl act empty

/-- The steps that some moves take on the lanes, but for those that are left aside. -/
def course (o : Office) (aside : Move → Bool) : List Move → List Harbour.Step
  | [] => []
  | m :: moves => (if aside m then [] else o.errand m) ++ (o.act m).course aside moves

end Office

end Courier
