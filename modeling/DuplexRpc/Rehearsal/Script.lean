import DuplexRpc.Backoff
import DuplexRpc.Client.Result
import DuplexRpc.Client.Settings

/-!
Scripts for rehearsing a client, a bare channel or a bare correlator without a network. A script
says what the owner does step by step, how each connection attempt ends, how the links of
accepted attempts behave, and what listeners do when an event reaches them. Times are virtual, in
milliseconds.
-/

namespace DuplexRpc.Rehearsal

open DuplexRpc.Json DuplexRpc.Wire

inductive Cast where
  | correlator
  | channel
  | client
  deriving DecidableEq, Repr

/-- How a link treats what is written to it. A refusal comes before blocking. -/
structure SinkSettings where
  blocked : Bool := false
  refusal : Option String := none
  limit : Option Nat := none
  /-- A payload is taken, and flushing it fails with this text. -/
  flushFailure : Option String := none
  deriving DecidableEq, Repr

inductive Delays where
  | strategy (strategy : Backoff.Strategy)
  /-- One entry for each time the strategy is asked; nothing, and the end, give up. -/
  | listed (delays : List (Option Time))

inductive Step where
  | nop
  | advance (duration : Time)
  | batch (steps : List Step)
  | panic
  | start (strategy : Option (Delays × List Step))
  | send (payload : String)
  | close (handle : Nat)
  | ready (handle : Nat)
  | peerSend (link : Nat) (payload : String)
  | peerError (link : Nat) (message : String)
  | peerDrop (link : Nat)
  | linkSink (link : Nat) (settings : SinkSettings)
  | call (handle : Nat) (method : String) (params : Option Value) (timeout : Option Time)
  | request (handle : Nat) (method : String) (params : Value) (result : ResultType)
      (timeout : Option Time)
  | notify (handle : Nat) (method : String) (params : Option Value)
  /-- Without an id, the request that is being listened to is answered. -/
  | respond (handle : Nat) (id : Option Id) (result : Value)
  | respondError (handle : Nat) (id : Option Id) (error : RpcError)
  | inbound (text : String)
  | poll (future : Nat)
  | drop (future : Nat)
  | timeout (future : Nat) (duration : Time)
  | failAll (fault : Fault)
  /-- What the correlator's sink does with a message: it may have a reply handled at once, and it
  may refuse. -/
  | sink (reply : Option String) (refusal : Option Fault)
  | dropCorrelator
  | clone (handle : Nat)
  | dropHandle (handle : Nat)
  | on (handle : Nat) (event : String)
  | off (handle : Nat) (listener : Nat)

def Step.name : Step → String
  | .nop => "nop"
  | .advance _ => "advance"
  | .batch _ => "batch"
  | .panic => "panic"
  | .start _ => "start"
  | .send _ => "send"
  | .close _ => "close"
  | .ready _ => "ready"
  | .peerSend .. => "peer_send"
  | .peerError .. => "peer_error"
  | .peerDrop _ => "peer_drop"
  | .linkSink .. => "sink"
  | .call .. => "call"
  | .request .. => "request"
  | .notify .. => "notify"
  | .respond .. => "respond"
  | .respondError .. => "respond_error"
  | .inbound _ => "inbound"
  | .poll _ => "poll"
  | .drop _ => "drop"
  | .timeout .. => "timeout"
  | .failAll _ => "fail_all"
  | .sink .. => "sink"
  | .dropCorrelator => "drop_correlator"
  | .clone _ => "clone"
  | .dropHandle _ => "drop_client"
  | .on .. => "on"
  | .off .. => "off"

/-- Steps to take when a listener hears an event, each time or only the given time. -/
structure Hook where
  event : String
  nth : Option Nat := none
  steps : List Step

structure Strategy where
  delays : Delays
  steps : List Step := []
  logged : Bool := true

def Strategy.standard : Strategy :=
  { delays := .strategy (.exponential Backoff.Exponential.standard) }

inductive Ending where
  | accepted
  | failed (message : String)
  | hangs
  deriving DecidableEq, Repr

def Ending.name : Ending → String
  | .accepted => "accept"
  | .failed _ => "fail"
  | .hangs => "hang"

structure Attempt where
  ending : Ending
  after : Time := 0
  steps : List Step := []
  sink : SinkSettings := {}
  inbound : List String := []
  inboundError : Option String := none
  /-- The peer ends the link behind all that. -/
  ended : Bool := false

inductive Connector where
  | scripted (attempts : List Attempt)
  | address (url : String)

end DuplexRpc.Rehearsal
