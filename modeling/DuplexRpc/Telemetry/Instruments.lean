import DuplexRpc.Channel.Lifecycle
import DuplexRpc.Decimal.Shortest

/-!
The instruments of a client, and what is recorded on them.
-/

namespace DuplexRpc.Telemetry

open DuplexRpc.Channel DuplexRpc.Decimal

inductive Instrument where
  | connectionState
  | requestsTotal
  | requestDuration
  | errorsTotal
  | reconnectionAttempts
  | reconnectionSuccess
  | inboundRequests
  | bufferedPayloads
  | discardedMessages
  deriving DecidableEq, Repr

namespace Instrument

def all : List Instrument :=
  [.connectionState, .requestsTotal, .requestDuration, .errorsTotal, .reconnectionAttempts,
    .reconnectionSuccess, .inboundRequests, .bufferedPayloads, .discardedMessages]

def name : Instrument → String
  | .connectionState => "tether.client.connection.state"
  | .requestsTotal => "tether.client.requests.total"
  | .requestDuration => "tether.client.request.duration"
  | .errorsTotal => "tether.client.errors.total"
  | .reconnectionAttempts => "tether.client.reconnection.attempts"
  | .reconnectionSuccess => "tether.client.reconnection.success"
  | .inboundRequests => "tether.client.inbound.requests"
  | .bufferedPayloads => "tether.client.buffered.payloads"
  | .discardedMessages => "tether.client.discarded.messages"

def kind : Instrument → String
  | .connectionState => "i64_gauge"
  | .requestDuration => "f64_histogram"
  | _ => "u64_counter"

def description : Instrument → String
  | .connectionState => "Channel state (0=connecting, 1=open, 2=disconnected, 3=closed)"
  | .requestsTotal => "Requests settled"
  | .requestDuration => "Request round-trip time in seconds"
  | .errorsTotal => "Errors encountered"
  | .reconnectionAttempts => "Connection attempts after the first"
  | .reconnectionSuccess => "Reconnections that reached Open"
  | .inboundRequests => "Requests and notifications received from the peer"
  | .bufferedPayloads => "Payloads queued while not Open"
  | .discardedMessages => "Inbound messages dropped without effect"

end Instrument

inductive Reading where
  | state (state : Lifecycle)
  | settled (method status : String)
  /-- Without a number where no clock is read. -/
  | duration (method status : String) (seconds : Option Binary64)
  | error (kind : String)
  | reconnectionAttempt
  | reconnectionSuccess
  | inbound (method : String)
  | buffered
  | discarded (reason : String)
  deriving DecidableEq, Repr

namespace Reading

def instrument : Reading → Instrument
  | .state _ => .connectionState
  | .settled _ _ => .requestsTotal
  | .duration _ _ _ => .requestDuration
  | .error _ => .errorsTotal
  | .reconnectionAttempt => .reconnectionAttempts
  | .reconnectionSuccess => .reconnectionSuccess
  | .inbound _ => .inboundRequests
  | .buffered => .bufferedPayloads
  | .discarded _ => .discardedMessages

def value? : Reading → Option String
  | .state s => some (toString s.code)
  | .duration _ _ seconds => seconds.map fun x => String.ofList x.plainText
  | _ => some "1"

def attributes : Reading → List (String × String)
  | .settled method status => [("method", method), ("status", status)]
  | .duration method status _ => [("method", method), ("status", status)]
  | .error kind => [("error_type", kind)]
  | .inbound method => [("method", method)]
  | .discarded reason => [("reason", reason)]
  | _ => []

/-- A settled request counts once and adds its duration. -/
def ofRequest (method status : String) (seconds : Option Binary64) : List Reading :=
  [.settled method status, .duration method status seconds]

end Reading
end DuplexRpc.Telemetry
