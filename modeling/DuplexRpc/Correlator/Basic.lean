import DuplexRpc.Event.Basic
import DuplexRpc.Telemetry.Instruments
import DuplexRpc.Wire.Codec

/-!
Matching responses to requests. A call registers its request before anything is sent and gives its
caller a ticket; a response with the request's id settles the ticket, once. A ticket that is
dropped or that expires takes its request out of the table, so that no abandoned request stays.

A call takes two steps, with the sending between them: `register`, and `refuse` if the request
could not be sent. An inbound message takes up to three: `receive`, the announcement if it is a
call of the peer, and `settle`. Whatever happens in between happens to the same correlator.

Times are in milliseconds, and there is no greatest one: that a timeout ends later than the clock
can tell, where asking for it panics, is left out. Operations give back the readings that they
record.
-/

namespace DuplexRpc

open DuplexRpc.Json DuplexRpc.Wire DuplexRpc.Telemetry

abbrev Time := Nat

abbrev CallOutcome := Except Fault Value

structure PendingRequest where
  id : RequestId
  method : String
  deriving DecidableEq, Repr

inductive Ticket.Stage where
  | waiting
  | settled (outcome : CallOutcome)
  | refused (fault : Fault)
  /-- The outcome was collected, or the ticket expired. -/
  | spent

/-- The caller's claim to the outcome of one request. -/
structure Ticket where
  id : RequestId
  stage : Ticket.Stage := .waiting
  deadline : Option Time := none

/-- An outcome reaches a ticket only while it waits for one. -/
def Ticket.settle (outcome : CallOutcome) (t : Ticket) : Ticket :=
  match t.stage with
  | .waiting => { t with stage := .settled outcome }
  | _ => t

structure Correlator where
  nextId : UInt64 := 1
  pending : List PendingRequest := []
  /-- Tickets that were not dropped, in the order of their calls. -/
  tickets : List Ticket := []
  discarded : UInt64 := 0

namespace Correlator

/-- Ids count up from one. Zero, which comes up only after all the others, is passed over. -/
def takeId (c : Correlator) : RequestId × Correlator :=
  if h : c.nextId = 0 then (⟨1, by decide⟩, { c with nextId := 2 })
  else (⟨c.nextId, h⟩, { c with nextId := c.nextId + 1 })

def pendingCount (c : Correlator) : Nat := c.pending.length

def ticket? (c : Correlator) (id : RequestId) : Option Ticket :=
  c.tickets.find? (·.id = id)

def forget (c : Correlator) (id : RequestId) : Correlator :=
  { c with pending := c.pending.filter (·.id ≠ id) }

def updateTicket (c : Correlator) (id : RequestId) (f : Ticket → Ticket) : Correlator :=
  { c with tickets := c.tickets.map fun t => if t.id = id then f t else t }

def deliver (c : Correlator) (id : RequestId) (outcome : CallOutcome) : Correlator :=
  c.updateTicket id (Ticket.settle outcome)

/-! ## Calling -/

def register (c : Correlator) (method : String) : RequestId × Correlator :=
  let (id, c) := c.takeId
  (id, { c with
    pending := c.pending ++ [{ id, method }]
    tickets := c.tickets ++ [{ id }] })

def refuse (c : Correlator) (id : RequestId) (fault : Fault) : Correlator × List Reading :=
  ((c.forget id).updateTicket id fun t => { t with stage := .refused fault }, [.error "send"])

def requestMessage (id : RequestId) (method : String) (params : Option Value) :
    OutboundMessage :=
  .request { method, id, params }

def notificationMessage (method : String) (params : Option Value) : OutboundMessage :=
  .notification { method, params }

/-- An answer to a call of the peer, which must want one. -/
def answerMessage (r : Response) : Except Fault OutboundMessage :=
  if r.id.isSentinel then
    .error (.internal ("cannot respond to a message with id " ++ r.id.display))
  else .ok (.response r)

/-! ## Inbound messages -/

def discard (c : Correlator) (reason : String) : Correlator × List Reading :=
  ({ c with discarded := c.discarded + 1 }, [.discarded reason])

def receive (c : Correlator) (text : String) : Option Message × Correlator × List Reading :=
  match Message.decode text with
  | .ok m => (some m, c, [])
  | .error _ =>
    let (c, readings) := c.discard "undecodable"
    (none, c, readings)

def announcement? (m : Message) : Option (Event × List Reading) :=
  m.inboundRequest?.map fun r => (.request r, [.inbound r.method])

def outcomeOf (m : Message) : CallOutcome :=
  match m.rpcError? with
  | some e => .error (.rpc e)
  | none => .ok (m.result.getD .null)

/-- The last step of an inbound message. A call of the peer settles a request too if it carries
its id; any other message that settles nothing is discarded. -/
def settle (c : Correlator) (m : Message) : Correlator × List Reading :=
  match m.responseId? with
  | none => if m.isRequest then (c, []) else c.discard "uncorrelatable"
  | some id =>
    match c.pending.find? (·.id = id) with
    | none => if m.isRequest then (c, []) else c.discard "unknown_id"
    | some request =>
      let outcome := outcomeOf m
      let status := match outcome with
        | .ok _ => "success"
        | .error _ => "error"
      ((c.forget id).deliver id outcome, Reading.ofRequest request.method status none)

/-- All steps of an inbound text, for listeners that leave the correlator alone. -/
def handleText (c : Correlator) (text : String) : Correlator × List Event × List Reading :=
  match c.receive text with
  | (none, c, readings) => (c, [], readings)
  | (some m, c, readings) =>
    let announced := (announcement? m).toList
    let (c, settled) := c.settle m
    (c, announced.map (·.1), readings ++ announced.flatMap (·.2) ++ settled)

def drain (c : Correlator) : List PendingRequest × Correlator :=
  (c.pending, { c with pending := [] })

/-- Rejects requests that are no longer in the table. -/
def reject (c : Correlator) (fault : Fault) (requests : List PendingRequest) : Correlator :=
  requests.foldl (fun c request => c.deliver request.id (.error fault)) c

def failAll (c : Correlator) (fault : Fault) : Nat × Correlator :=
  let (requests, c) := c.drain
  (requests.length, c.reject fault requests)

/-! ## Tickets -/

inductive Poll where
  | pending
  | ready (outcome : CallOutcome)

/-- Of several deadlines the earliest counts. A deadline is the time of asking plus the timeout,
and the sum is taken to fit the clock. -/
def limit (c : Correlator) (id : RequestId) (deadline : Time) : Correlator :=
  c.updateTicket id fun t =>
    { t with deadline := some (match t.deadline with
        | some earlier => min earlier deadline
        | none => deadline) }

def spend (c : Correlator) (id : RequestId) : Correlator :=
  c.updateTicket id fun t => { t with stage := .spent }

/-- Asks a ticket for its outcome. One that arrived counts even after the deadline; a ticket past
its deadline without one gives its request up. -/
def poll (c : Correlator) (id : RequestId) (now : Time) : Poll × Correlator :=
  match c.ticket? id with
  | none => (.pending, c)
  | some t =>
    match t.stage with
    | .refused fault => (.ready (.error fault), c.spend id)
    | .spent =>
      (.ready (.error (.internal "response future polled after completion")), c)
    | .settled outcome => (.ready outcome, c.spend id)
    | .waiting =>
      match t.deadline with
      | none => (.pending, c)
      | some deadline =>
        if deadline ≤ now then (.ready (.error .timeout), (c.forget id).spend id)
        else (.pending, c)

/-- Drops a ticket; a request that still waits is given up. -/
def drop (c : Correlator) (id : RequestId) : Correlator :=
  let c := match c.ticket? id with
    | some { stage := .waiting, .. } => c.forget id
    | _ => c
  { c with tickets := c.tickets.filter (·.id ≠ id) }

end Correlator
end DuplexRpc
