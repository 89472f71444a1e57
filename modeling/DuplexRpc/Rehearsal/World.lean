import DuplexRpc.Channel.Address
import DuplexRpc.Rehearsal.Script

/-!
The state of a rehearsal: what is rehearsed, the scripted links, the virtual clock, and the log.
-/

namespace DuplexRpc.Rehearsal

open DuplexRpc.Json DuplexRpc.Wire DuplexRpc.Telemetry

structure Snapshot where
  state : Channel.Lifecycle
  attempts : Nat
  buffered : Nat
  pending : Nat
  discarded : Nat
  deriving DecidableEq, Repr

inductive Result where
  | nothing
  | done
  | truth (b : Bool)
  | count (n : Nat)
  | failed (fault : Fault)
  | value (v : Value)
  | pending
  | dropped
  | notApplicable
  | gone
  | noLink
  | future (index : Nat) (id : Option RequestId)
  | ready (index : Nat)
  | handle (index : Nat)
  | listener (index : Nat)
  | several (results : List Result)

def Result.ofUnit : Except Fault Unit → Result
  | .ok () => .done
  | .error fault => .failed fault

inductive Entry where
  | attempt (ending : Ending)
  | written (link : Nat) (payload : String)
  | sinkClose (link : Nat)
  | nextDelay (attempt : Nat) (delay : Option Time)
  | reset
  | heard (event : Event) (snapshot : Option Snapshot)
  | delivered (payload : String) (snapshot : Option Snapshot)
  /-- A hook's step; a panic has no result. -/
  | hook (step : String) (result : Option Result)
  | listener (index : Nat) (event : String)
  | sent (m : OutboundMessage)

inductive InboundItem where
  | payload (text : String)
  | error (message : String)

structure Link where
  inbound : List InboundItem
  alive : Bool
  held : Bool := true
  sink : SinkSettings

/-- Who listens: the rehearsal itself, or a listener of the script. -/
inductive Observer where
  | rehearsal
  | scripted (index : Nat)

structure Dial where
  attempt : Attempt
  due : Time

structure Held where
  id : RequestId
  result : Option ResultType := none
  live : Bool := true

structure World where
  cast : Cast
  client : Client Observer := {}
  now : Time := 0
  /-- Latest first. -/
  log : List (Time × Entry) := []
  /-- Latest first. -/
  readings : List Reading := []
  hooks : List Hook := []
  heard : List String := []
  connector : Connector := .scripted []
  dial : Option Dial := none
  links : List Link := []
  strategy : Strategy := .standard
  wakeAt : Option Time := none
  sinkReply : Option String := none
  sinkRefusal : Option Fault := none
  correlatorDropped : Bool := false
  handles : List Bool := []
  /-- Waits for an open channel that are not over; each holds a handle of its own. -/
  waits : List Nat := []
  waitsBegun : Nat := 0
  futures : List Held := []
  listeners : List ListenerId := []

namespace World

def isPresent (w : World) : Bool :=
  match w.cast with
  | .correlator => !w.correlatorDropped
  | .channel => true
  | .client => w.handles.any id

def snapshot (w : World) : Option Snapshot :=
  if w.isPresent then
    some {
      state := w.client.channel.state
      attempts := w.client.channel.attempts
      buffered := w.client.channel.buffer.length
      pending := w.client.correlator.pendingCount
      discarded := w.client.correlator.discarded.toNat }
  else none

def holds (w : World) (handle : Nat) : Bool :=
  match w.cast with
  | .client => w.handles.getD handle false
  | _ => w.isPresent

end World

/-! ## Small changes to the world -/

abbrev Scene := StateM World

def note (entry : Entry) : Scene Unit :=
  modify fun w => { w with log := (w.now, entry) :: w.log }

def record (readings : List Reading) : Scene Unit :=
  modify fun w => { w with readings := readings.reverse ++ w.readings }

def setChannel (c : Channel) : Scene Unit :=
  modify fun w => { w with client := { w.client with channel := c } }

def setCorrelator (c : Correlator) : Scene Unit :=
  modify fun w => { w with client := { w.client with correlator := c } }

def onClient {α : Type} (act : Client Observer → α × Client Observer × List Reading) :
    Scene α := do
  let (answer, client, readings) := act (← get).client
  modify fun w => { w with client }
  record readings
  pure answer

def onCorrelator (act : Correlator → Correlator × List Reading) : Scene Unit := do
  let (correlator, readings) := act (← get).client.correlator
  setCorrelator correlator
  record readings

def updateLink (index : Nat) (f : Link → Link) : Scene Unit :=
  modify fun w => { w with links := w.links.modify index f }

/-- Lets go of every link once the connection task holds none. -/
def releaseLinks : Scene Unit :=
  modify fun w =>
    if w.client.channel.holdsLink then w
    else { w with links := w.links.map fun l => { l with held := false } }

end DuplexRpc.Rehearsal
