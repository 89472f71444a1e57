import DuplexRpc.Channel.Connection
import DuplexRpc.Correlator.Basic
import DuplexRpc.Event.Registry

/-!
A client: a channel, a correlator that sends over it, and the listeners of both. Its own listeners
come first. One rejects what is outstanding when the channel closes, and, if the client is told
so, another does whenever a link is lost. The client closes its channel when it is closed or when
its last handle is dropped.

What an observer's listener does is left open; `Reaction` only tells it from the client's own.
-/

namespace DuplexRpc

open DuplexRpc.Json DuplexRpc.Wire DuplexRpc.Telemetry

/-- What becomes of outstanding requests when a link is lost. -/
inductive PendingPolicy where
  | keepAcrossReconnect
  | rejectOnDisconnect
  deriving DecidableEq, Repr

inductive Reaction (ω : Type) where
  | rejectOutstanding (fault : Fault)
  | observe (observer : ω)

structure Client (ω : Type) where
  channel : Channel := {}
  correlator : Correlator := {}
  listeners : Registry (Reaction ω) := {}
  /-- Applies to every call, in milliseconds. -/
  requestTimeout : Option Time := none

namespace Client

variable {ω : Type}

def listen (c : Client ω) (event : String) (observer : ω) : ListenerId × Client ω :=
  let (id, listeners) := c.listeners.on event (.observe observer)
  (id, { c with listeners })

def rejectOn (c : Client ω) (event : Event) (fault : Fault) : Client ω :=
  { c with listeners := (c.listeners.on event.name (.rejectOutstanding fault)).2 }

/-- A client whose connection task is about to make its first attempt. -/
def launch (policy : PendingPolicy) (requestTimeout : Option Time) : Client ω :=
  let c : Client ω := { requestTimeout }
  let c := c.rejectOn .close .connectionClosed
  let c := match policy with
    | .keepAcrossReconnect => c
    | .rejectOnDisconnect => c.rejectOn .disconnect .disconnected
  { c with channel := c.channel.start.2 }

def off (c : Client ω) (id : ListenerId) : Bool × Client ω :=
  let (was, listeners) := c.listeners.off id
  (was, { c with listeners })

def send (c : Client ω) (m : OutboundMessage) : Except Fault Unit × Client ω × List Reading :=
  let (sent, channel, readings) := c.channel.send m.encode
  (sent, { c with channel }, readings)

def call (c : Client ω) (method : String) (params : Option Value) (now : Time) :
    RequestId × Client ω × List Reading :=
  let (id, correlator) := c.correlator.register method
  let c := { c with correlator }
  let (sent, c, readings) := c.send (Correlator.requestMessage id method params)
  let (c, readings) := match sent with
    | .ok () => (c, readings)
    | .error fault =>
      let (correlator, refused) := c.correlator.refuse id fault
      ({ c with correlator }, readings ++ refused)
  let c := match c.requestTimeout with
    | some timeout => { c with correlator := c.correlator.limit id (now + timeout) }
    | none => c
  (id, c, readings)

/-- Parameters that are `null` are left out. -/
def notify (c : Client ω) (method : String) (params : Value) :
    Except Fault Unit × Client ω × List Reading :=
  c.send (Correlator.notificationMessage method params.nonNull?)

def answer (c : Client ω) (r : Response) : Except Fault Unit × Client ω × List Reading :=
  match Correlator.answerMessage r with
  | .error fault => (.error fault, c, [])
  | .ok m => c.send m

def respond (c : Client ω) (id : Id) (result : Value) :
    Except Fault Unit × Client ω × List Reading :=
  c.answer (.success id result)

def respondError (c : Client ω) (id : Id) (error : RpcError) :
    Except Fault Unit × Client ω × List Reading :=
  c.answer (.failure id error)

/-- Closes the channel; says whether that is to be announced. -/
def shut (c : Client ω) : Bool × Client ω × List Reading :=
  let (first, channel, readings) := c.channel.shut
  (first, { c with channel }, readings)

def failAll (c : Client ω) (fault : Fault) : Client ω :=
  { c with correlator := (c.correlator.failAll fault).2 }

end Client
end DuplexRpc
