import DuplexRpc.Channel.Lifecycle
import DuplexRpc.Event.Basic
import DuplexRpc.Telemetry.Instruments

/-!
A channel that sends payloads whether or not there is a link. Without one they are kept in a
buffer; with one they go to the link's queue, from which the connection task writes them. What a
channel is waiting for is its `Task`: every step of the connection task either answers what the
task asked of its surroundings or happens on its own, and between any two steps the owners of the
channel may send, start or close.

Operations give back the readings that they record.
-/

namespace DuplexRpc

open DuplexRpc.Channel DuplexRpc.Telemetry

/-- Where payloads go while the channel is open. -/
inductive Channel.Outlet where
  | none
  /-- Payloads for the current link, not yet taken for writing. -/
  | queue (payloads : List String)
  /-- Nobody takes from the queue any more. -/
  | severed
  deriving DecidableEq, Repr

/-- Where the connection task stands, and what it waits for. -/
inductive Channel.Task where
  | absent
  | attempting
  | dialing
  | reportingRefusal (fault : Fault)
  /-- Tells the strategy that a link opened. -/
  | resetting
  | announcingOpen
  /-- Waits for a payload to write or to deliver, or for the end of the link. -/
  | serving
  | writing (payload : String)
  | delivering (payload : String)
  | reportingLoss (fault : Fault)
  | announcingLoss
  /-- Asks the strategy for a delay after this many failures. -/
  | consulting (attempt : Nat)
  /-- Waits out a delay, in nanoseconds. -/
  | sleeping (delay : Nat)
  | reportingExhaustion (attempts : Nat)
  | announcingClose
  | hangingUp
  | finished
  /-- Code panicked that is not the channel's own. -/
  | crashed
  deriving Repr

/-- Here the task runs the code of the connector, of the strategy, of the link or of the handler of
inbound payloads, and nothing catches its panics.  Listeners are guarded by their emitter. -/
def Channel.Task.unguarded : Channel.Task → Bool
  | .dialing | .resetting | .serving | .writing _ | .delivering _ | .consulting _
  | .hangingUp => true
  | _ => false

structure Channel where
  state : Lifecycle := .connecting
  /-- The state as those see it who wait for the channel to open. -/
  published : Lifecycle := .connecting
  /-- Failures since the channel was last open, as far as 32 bits count. -/
  attempts : Nat := 0
  buffer : List String := []
  outlet : Channel.Outlet := .none
  started : Bool := false
  task : Channel.Task := .absent
  openedBefore : Bool := false
  deriving Repr

namespace Channel

def isConnected (c : Channel) : Bool := c.state == .open

def transition (c : Channel) (state : Lifecycle) : Bool × Channel × List Reading :=
  if c.state = .closed then (false, c, [])
  else (true, { c with state, published := state }, [.state state])

/-- Closes the channel for good and forgets what was not taken for writing; says whether it was
not closed before. -/
def shut (c : Channel) : Bool × Channel × List Reading :=
  match c.transition .closed with
  | (false, c, readings) => (false, c, readings)
  | (true, c, readings) => (true, { c with buffer := [], outlet := .none }, readings)

/-- Never waits, and fails only on a closed channel. -/
def send (c : Channel) (payload : String) : Except Fault Unit × Channel × List Reading :=
  let buffered := (.ok (), { c with buffer := c.buffer ++ [payload] }, [.buffered])
  match c.state, c.outlet with
  | .closed, _ => (.error .connectionClosed, c, [])
  | .open, .queue payloads => (.ok (), { c with outlet := .queue (payloads ++ [payload]) }, [])
  | _, _ => buffered

def start (c : Channel) : Except Fault Unit × Channel :=
  if c.started then (.error (.internal "channel already started"), c)
  else
    let c := { c with started := true }
    if c.state = .closed then (.error .connectionClosed, c)
    else (.ok (), { c with task := .attempting })

def readiness (c : Channel) : Option (Except Fault Unit) :=
  match c.published with
  | .open => some (.ok ())
  | .closed => some (.error .connectionClosed)
  | _ => none

end Channel
end DuplexRpc
