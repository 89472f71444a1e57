import DuplexRpc.Fault
import DuplexRpc.Wire.Message

/-!
What a client announces to its observers.
-/

namespace DuplexRpc

open DuplexRpc.Wire

inductive Event where
  | connect
  /-- The channel left open without being closed. -/
  | disconnect
  /-- The connection failed in some way; on its own this changes no state. -/
  | error (fault : Fault)
  | close
  | request (request : InboundRequest)
  deriving Repr

def Event.name : Event → String
  | .connect => "connect"
  | .disconnect => "disconnect"
  | .error _ => "error"
  | .close => "close"
  | .request _ => "request"

def Event.names : List String := ["connect", "disconnect", "error", "close", "request"]

end DuplexRpc
