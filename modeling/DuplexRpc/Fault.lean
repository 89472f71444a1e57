import DuplexRpc.Wire.RpcError

/-!
Everything that can go wrong for a caller of the client: the peer's own answer, the connection,
or something local.
-/

namespace DuplexRpc

open DuplexRpc.Wire

inductive Fault where
  | rpc (error : RpcError)
  /-- A value could not be turned into JSON or taken from it. -/
  | serialization (reason : String)
  | transport (reason : String)
  | timeout
  | connectionClosed
  /-- The link dropped while the request was outstanding. -/
  | disconnected
  /-- The reconnection strategy gave up at this value of the attempt counter. -/
  | reconnectExhausted (attempts : Nat)
  | internal (reason : String)
  deriving Repr

namespace Fault

def message : Fault → String
  | .rpc e => "RPC error: " ++ e.display
  | .serialization reason => "Serialization error: " ++ reason
  | .transport reason => "Transport error: " ++ reason
  | .timeout => "Request timeout"
  | .connectionClosed => "Connection closed"
  | .disconnected => "Disconnected before a response arrived"
  | .reconnectExhausted attempts =>
    "Reconnection abandoned after " ++ toString attempts ++ " attempts"
  | .internal reason => "Internal error: " ++ reason

def rpcCode? : Fault → Option Int64
  | .rpc e => some e.code
  | _ => none

/-- Caused by the connection rather than by the peer's answer. -/
def isTransport : Fault → Bool
  | .transport _ | .connectionClosed | .disconnected | .reconnectExhausted _ => true
  | _ => false

def ofMismatch (reason : Json.Mismatch) : Fault := .serialization reason.message

end Fault
end DuplexRpc
