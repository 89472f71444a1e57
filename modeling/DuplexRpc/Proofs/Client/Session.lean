import DuplexRpc.Client.Basic
import DuplexRpc.Proofs.Channel.Run
import DuplexRpc.Proofs.Correlator.Run

/-!
# Runs of a client

A run interleaves the steps of any number of calls and of any number of dispatches with whatever
else happens to a client.

A call registers its request, hands it to the channel, and takes it out of the table again if the
channel refuses it; its caller has no ticket before the call is over.  A dispatch looks up the
listeners of its event and comes to one after the other.  The client's own listener empties the
table and then rejects one request at a time.  An observer may do anything, but so may everybody
else at any time, and whether it returns or panics makes no difference to the dispatch, so a
dispatch only passes it.

A move that does not apply changes nothing.  Listeners are only taken off by ids that the client
gave out.
-/

namespace DuplexRpc.Client

open DuplexRpc.Json DuplexRpc.Wire

variable {ω : Type}

structure Call where
  id : RequestId
  method : String
  params : Option Value
  refusal : Option Fault := none

inductive Dispatch.Stage (ω : Type) where
  | begun
  | calling (targets : List (Listener (Reaction ω)))
  | rejecting (fault : Fault) (requests : List PendingRequest)
      (targets : List (Listener (Reaction ω)))

structure Dispatch (ω : Type) where
  event : Event
  stage : Dispatch.Stage ω := .begun

namespace Dispatch

def closes (d : Dispatch ω) : Bool := d.event matches .close

def finished (d : Dispatch ω) : Bool := d.stage matches .calling []

/-- The listeners that the dispatch has still to come to. -/
def targets (d : Dispatch ω) : List (Listener (Reaction ω)) :=
  match d.stage with
  | .begun => []
  | .calling targets | .rejecting _ _ targets => targets

/-- The requests that the dispatch took out of the table and has still to reject. -/
def rejectees (d : Dispatch ω) : List RequestId :=
  match d.stage with
  | .rejecting _ requests _ => requests.map (·.id)
  | _ => []

def advance (c : Client ω) (d : Dispatch ω) : Client ω × Dispatch ω :=
  match d.stage with
  | .begun => (c, { d with stage := .calling (c.listeners.targets d.event.name) })
  | .calling [] => (c, d)
  | .calling (listener :: targets) =>
      match listener.action with
      | .observe _ => (c, { d with stage := .calling targets })
      | .rejectOutstanding fault =>
          let (requests, correlator) := c.correlator.drain
          ({ c with correlator }, { d with stage := .rejecting fault requests targets })
  | .rejecting _ [] targets => (c, { d with stage := .calling targets })
  | .rejecting fault (request :: requests) targets =>
      ({ c with correlator := c.correlator.deliver request.id (.error fault) },
        { d with stage := .rejecting fault requests targets })

end Dispatch

structure Session (ω : Type) where
  client : Client ω
  calls : List Call := []
  dispatches : List (Dispatch ω) := []
  /-- The ids of the observers' listeners. -/
  issued : List ListenerId := []

inductive Move (ω : Type) where
  | channel (m : Channel.Move)
  | register (method : String) (params : Option Value)
  | handOver (id : RequestId)
  | withdraw (id : RequestId)
  /-- An inbound text is read, and announced if it is a call of the peer. -/
  | receive (text : String)
  | settle (m : Message)
  | limit (id : RequestId) (deadline : Time)
  | poll (id : RequestId) (now : Time)
  | drop (id : RequestId)
  | on (event : String) (observer : ω)
  | off (id : ListenerId)
  | dispatch (k : Nat)

/-- What the owners of tickets see and do. -/
inductive Occurrence where
  | collected (id : RequestId) (outcome : CallOutcome)
  | dropped (id : RequestId)

namespace Session

def calling (s : Session ω) : List RequestId := s.calls.map (·.id)

def refusal? (s : Session ω) (id : RequestId) : Option Fault :=
  s.calls.findSome? fun call => if call.id = id then call.refusal else none

def correlate (s : Session ω) (correlator : Correlator) : Session ω :=
  { s with client := { s.client with correlator } }

def announce (s : Session ω) (events : List Event) : Session ω :=
  { s with dispatches := s.dispatches ++ events.map fun event => { event } }

def handOver (s : Session ω) (id : RequestId) : Session ω :=
  match s.calls.find? fun call => call.id = id && call.refusal.isNone with
  | none => s
  | some call =>
      match s.client.send (Correlator.requestMessage id call.method call.params) with
      | (.ok (), client, _) => { s with client, calls := s.calls.filter (·.id ≠ id) }
      | (.error fault, client, _) =>
          { s with
            client
            calls := s.calls.map fun call =>
              if call.id = id then { call with refusal := some fault } else call }

def withdraw (s : Session ω) (id : RequestId) : Session ω :=
  match s.refusal? id with
  | none => s
  | some fault =>
      { s.correlate (s.client.correlator.refuse id fault).1 with
        calls := s.calls.filter (·.id ≠ id) }

def advance (s : Session ω) (k : Nat) : Session ω :=
  match s.dispatches[k]? with
  | none => s
  | some d =>
      { s with
        client := (d.advance s.client).1
        dispatches := s.dispatches.set k (d.advance s.client).2 }

def step (s : Session ω) : Move ω → Session ω × List Occurrence
  | .channel m =>
      let (channel, seen) := s.client.channel.step m
      ({ s with client := { s.client with channel } }.announce
        (seen.filterMap Channel.Occurrence.announced?), [])
  | .register method params =>
      let (id, correlator) := s.client.correlator.register method
      ({ s.correlate correlator with calls := s.calls ++ [{ id, method, params }] }, [])
  | .handOver id => (s.handOver id, [])
  | .withdraw id => (s.withdraw id, [])
  | .receive text =>
      let (m, correlator, _) := s.client.correlator.receive text
      ((s.correlate correlator).announce
        ((m.bind Correlator.announcement?).map (·.1)).toList, [])
  | .settle m => (s.correlate (s.client.correlator.settle m).1, [])
  | .limit id deadline =>
      if id ∈ s.calling then (s, [])
      else (s.correlate (s.client.correlator.limit id deadline), [])
  | .poll id now =>
      if id ∈ s.calling then (s, [])
      else
        let (answer, correlator) := s.client.correlator.poll id now
        (s.correlate correlator,
          match answer with
          | .pending => []
          | .ready outcome => [.collected id outcome])
  | .drop id =>
      if id ∈ s.calling then (s, [])
      else (s.correlate (s.client.correlator.drop id), [.dropped id])
  | .on event observer =>
      let (id, client) := s.client.listen event observer
      ({ s with client, issued := s.issued ++ [id] }, [])
  | .off id =>
      if id ∈ s.issued then ({ s with client := (s.client.off id).2 }, [])
      else (s, [])
  | .dispatch k => (s.advance k, [])

def run : Session ω → List (Move ω) → Session ω × List Occurrence := replay step

theorem run_move (s : Session ω) (first : List (Move ω)) (m : Move ω) (rest : List (Move ω)) :
    (s.run (first ++ m :: rest)).1 = (((s.run first).1.step m).1.run rest).1 := by
  simp only [run, replay_append, replay_cons]

def launch (policy : PendingPolicy) (requestTimeout : Option Time) : Session ω :=
  { client := Client.launch policy requestTimeout }

@[simp] theorem calls_launch (policy : PendingPolicy) (requestTimeout : Option Time) :
    (launch policy requestTimeout : Session ω).calls = [] := rfl

@[simp] theorem dispatches_launch (policy : PendingPolicy) (requestTimeout : Option Time) :
    (launch policy requestTimeout : Session ω).dispatches = [] := rfl

@[simp] theorem issued_launch (policy : PendingPolicy) (requestTimeout : Option Time) :
    (launch policy requestTimeout : Session ω).issued = [] := rfl

end Session
end DuplexRpc.Client
