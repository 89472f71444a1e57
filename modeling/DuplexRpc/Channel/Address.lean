import DuplexRpc.Fault
import DuplexRpc.Telemetry.Uri

/-!
The address of a WebSocket peer, and why one is refused before any connection is made.
-/

namespace DuplexRpc.Channel

open DuplexRpc.Telemetry

inductive AddressFault where
  | notUri (reason : UriFault)
  | noHost
  /-- Neither a port nor a scheme with a port of its own. -/
  | unsupportedScheme
  deriving DecidableEq, Repr

def AddressFault.message : AddressFault → String
  | .notUri reason => "HTTP format error: " ++ reason.message
  | .noHost => "URL error: No host name in the URL"
  | .unsupportedScheme => "URL error: URL scheme not supported"

def portOf (url : String) : Except AddressFault Nat :=
  match Uri.ofText url with
  | .error reason => .error (.notUri reason)
  | .ok uri =>
    if uri.authority.isEmpty then .error .noHost
    else match uri.port? with
    | some port => .ok port
    | none =>
      match uri.scheme.map String.ofList with
      | some "ws" => .ok 80
      | some "wss" => .ok 443
      | _ => .error .unsupportedScheme

/-- A connection attempt ends with this fault when the address is refused. -/
def refusal? (url : String) : Option Fault :=
  match portOf url with
  | .ok _ => none
  | .error reason => some (.transport reason.message)

end DuplexRpc.Channel
