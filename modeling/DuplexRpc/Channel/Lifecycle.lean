/-!
The lifecycle of a channel. It starts by connecting, moves between open and disconnected as links
come and go, and ends closed.
-/

namespace DuplexRpc.Channel

inductive Lifecycle where
  /-- An attempt is in progress, or none was made yet. -/
  | connecting
  | open
  /-- The link was lost or an attempt failed; the delay before the next one is running. -/
  | disconnected
  | closed
  deriving DecidableEq, Repr, Inhabited

namespace Lifecycle

def name : Lifecycle → String
  | .connecting => "connecting"
  | .open => "open"
  | .disconnected => "disconnected"
  | .closed => "closed"

def code : Lifecycle → Nat
  | .connecting => 0
  | .open => 1
  | .disconnected => 2
  | .closed => 3

end Lifecycle
end DuplexRpc.Channel
