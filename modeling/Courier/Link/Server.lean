import Courier.Confirm.Lane
import Courier.Topology

/-!
# Servers

What a link asks of the server at its other end. A server is known by its answers only; it numbers
the connections and channels it opens, and may close any of them by itself.
-/

namespace Courier
set_option autoImplicit false
open Amqp Confirm

/-- A demand on an open channel or connection. -/
inductive Request where
  | confirmSelect (channel : Nat)
  | declare (channel : Nat) (declaration : Declaration)
  | limit (channel : Nat) (prefetch : Nat)
  | subscribe (channel : Nat) (queue tag : String)
  /-- Publishes a frame; one that no queue takes is sent back where it is mandatory. -/
  | publish (channel : Nat) (frame : Frame) (mandatory : Bool)
  | ack (channel tag : Nat)
  | nack (channel tag : Nat) (requeue : Bool)
  | closeChannel (channel : Nat)
  | closeConnection (connection : Nat)

/-- A server that lives in a world `σ`. Refusals come with their reason. -/
structure Server (σ : Type) where
  connect : (uri name : String) → StateM σ (Except String Nat)
  openChannel : (connection : Nat) → StateM σ (Except String Nat)
  request : Request → StateM σ (Except String Unit)
  isConnected : σ → (connection : Nat) → Bool
  isOpen : σ → (channel : Nat) → Bool

/-- A server that cannot be reached. -/
def Server.unreachable {σ : Type} (reason : String) : Server σ where
  connect _ _ := return .error reason
  openChannel _ := return .error reason
  request _ := return .error reason
  isConnected _ _ := false
  isOpen _ _ := false

/-- A server that grants whatever it is asked for. -/
def Server.granting : Server Unit where
  connect _ _ := return .ok 0
  openChannel _ := return .ok 0
  request _ := return .ok ()
  isConnected _ _ := true
  isOpen _ _ := true

end Courier
