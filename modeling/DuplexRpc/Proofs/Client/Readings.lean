import DuplexRpc.Proofs.Channel.Metering
import DuplexRpc.Proofs.Client.Dispatching

/-!
# What the moves of a client record

A move of a client records what its operations give back.  Beside that stands what the move does to
the channel, which events it announces, and what becomes of calls in it.  For each move the readings
of the channel are those of the channel's own moves, and the readings of the correlator are those of
the calls and of the peer's messages.
-/

namespace DuplexRpc.Client

open DuplexRpc.Correlator DuplexRpc.Json DuplexRpc.Telemetry DuplexRpc.Wire

variable {ω : Type} {s : Session ω}

/-- What became of calls. -/
inductive Incident where
  | called (request : PendingRequest)
  /-- The call was given up because its request could not be sent. -/
  | refused (id : RequestId)
  /-- An inbound message came for a request in the table. -/
  | answered (request : PendingRequest) (outcome : CallOutcome)

def Incident.refuses : Incident → Bool
  | .refused _ => true
  | _ => false

def status : CallOutcome → String
  | .ok _ => "success"
  | .error _ => "error"

/-- A request for the method was answered with the status. -/
def Incident.settles (method state : String) : Incident → Bool
  | .answered request outcome => request.method = method && status outcome = state
  | _ => false

namespace Session

/-! ## What a move shows -/

/-- The request that the message answers. -/
def answered? (s : Session ω) (m : Message) : Option PendingRequest :=
  m.responseId?.bind fun id => s.client.correlator.pending.find? (·.id = id)

def sending? (s : Session ω) (id : RequestId) : Option Call :=
  s.calls.find? fun call => call.id = id && call.refusal.isNone

/-- What the operations of a move record. -/
def readings (s : Session ω) : Move ω → List Reading
  | .channel m => Channel.recorded (s.client.channel.step m).2
  | .handOver id => (s.sending? id).toList.flatMap fun call =>
      (s.client.send (Correlator.requestMessage id call.method call.params)).2.2
  | .withdraw id => (s.refusal? id).toList.flatMap fun fault =>
      (s.client.correlator.refuse id fault).2
  | .receive text =>
      let (m, _, readings) := s.client.correlator.receive text
      readings ++ (m.bind Correlator.announcement?).toList.flatMap (·.2)
  | .settle m => (s.client.correlator.settle m).2
  | _ => []

def channelMoves (s : Session ω) : Move ω → List Channel.Move
  | .channel m => [m]
  | .handOver id => (s.sending? id).toList.map fun call =>
      .send (Correlator.requestMessage id call.method call.params).encode
  | _ => []

/-- The events whose dispatch begins. -/
def announces (s : Session ω) : Move ω → List Event
  | .channel m => Channel.announced (s.client.channel.step m).2
  | .receive text =>
      (((s.client.correlator.receive text).1.bind Correlator.announcement?).map (·.1)).toList
  | _ => []

def incidents (s : Session ω) : Move ω → List Incident
  | .register method _ => [.called { id := s.client.correlator.upcoming, method }]
  | .withdraw id => (s.refusal? id).toList.map fun _ => .refused id
  | .settle m => (s.answered? m).toList.map fun request => .answered request (outcomeOf m)
  | _ => []

/-! ## What a run shows -/

/-- What the moves of a run show, one after the other. -/
def watch {α : Type} (shows : Session ω → Move ω → List α) (s : Session ω)
    (moves : List (Move ω)) : List α :=
  (replay (fun s m => ((s.step m).1, shows s m)) s moves).2

@[simp] theorem watch_nil {α : Type} (shows : Session ω → Move ω → List α) :
    s.watch shows [] = [] := rfl

@[simp] theorem watch_cons {α : Type} (shows : Session ω → Move ω → List α) (m : Move ω)
    (moves : List (Move ω)) :
    s.watch shows (m :: moves) = shows s m ++ (s.step m).1.watch shows moves := rfl

@[simp] theorem run_cons (m : Move ω) (moves : List (Move ω)) :
    (s.run (m :: moves)).1 = ((s.step m).1.run moves).1 := rfl

def events (s : Session ω) : List Event := s.dispatches.map (·.event)

end Session

open Session

/-! ## The run of the channel -/

theorem channel_handOver (s : Session ω) (id : RequestId) :
    (s.handOver id).client.channel =
      (s.client.channel.run (s.channelMoves (.handOver id))).1 := by
  simp only [Session.handOver, Session.channelMoves, Session.sending?]
  cases s.calls.find? fun call => call.id = id && call.refusal.isNone with
  | none => rfl
  | some call =>
      simp only [Client.send]
      generalize sent : s.client.channel.send _ = result
      obtain ⟨verdict, channel, readings⟩ := result
      cases verdict <;> simp [Channel.run, replay_cons, Channel.step, sent]

theorem channel_advance (s : Session ω) (k : Nat) :
    (s.advance k).client.channel = s.client.channel := by
  unfold Session.advance Dispatch.advance
  split
  · rfl
  · dsimp only
    split <;> try rfl
    split <;> rfl

theorem channel_step (s : Session ω) (m : Move ω) :
    (s.step m).1.client.channel = (s.client.channel.run (s.channelMoves m)).1 := by
  cases m with
  | handOver id => exact channel_handOver s id
  | dispatch k => exact channel_advance s k
  | withdraw id =>
      simp only [Session.step, Session.withdraw]
      split <;> rfl
  | limit | poll | drop | off =>
      simp only [Session.step]
      split <;> rfl
  | channel | register | receive | settle | on => rfl

/-! ## What leaves the table alone -/

/-- Nothing is discarded, and no request comes to the table. -/
structure Reduces (c after : Correlator) : Prop where
  discarded : after.discarded = c.discarded
  pending : after.pending ⊆ c.pending

namespace Reduces

variable {c : Correlator}

theorem refl (c : Correlator) : Reduces c c := ⟨rfl, fun _ listed => listed⟩

theorem forget (c : Correlator) (id : RequestId) : Reduces c (c.forget id) :=
  ⟨rfl, List.filter_sublist.subset⟩

theorem updateTicket (c : Correlator) (id : RequestId) (f : Ticket → Ticket) :
    Reduces c (c.updateTicket id f) := ⟨rfl, fun _ listed => listed⟩

theorem forget_updateTicket (c : Correlator) (id : RequestId) (f : Ticket → Ticket) :
    Reduces c ((c.forget id).updateTicket id f) := ⟨rfl, List.filter_sublist.subset⟩

theorem poll (c : Correlator) (id : RequestId) (now : Time) : Reduces c (c.poll id now).2 := by
  rcases c.poll_cases id now with same | same | same <;> rw [same]
  · exact .refl c
  · exact .updateTicket c id _
  · exact .forget_updateTicket c id _

theorem drop (c : Correlator) (id : RequestId) : Reduces c (c.drop id) := by
  unfold Correlator.drop
  split
  · exact ⟨rfl, List.filter_sublist.subset⟩
  · exact ⟨rfl, fun _ listed => listed⟩

theorem advance (s : Session ω) (k : Nat) :
    Reduces s.client.correlator (s.advance k).client.correlator := by
  cases found : s.dispatches[k]? with
  | none =>
      have same : s.advance k = s := by simp [Session.advance, found]
      rw [same]
      exact .refl _
  | some d =>
      have advance := Advance.of_found found
      generalize s.advance k = moved at advance
      cases advance with
      | finished | lookUp | pass | leave => exact .refl _
      | drain => exact ⟨rfl, List.nil_subset _⟩
      | reject => exact .updateTicket _ _ _

end Reduces

/-! ## Readings of single moves -/

theorem recorded_send (c : Channel) (payload : String) :
    Channel.recorded (c.run [.send payload]).2 = (c.send payload).2.2 := by
  have kept (readings : List Reading) :
      Channel.recorded (readings.map .recorded) = readings := by
    simp [Channel.recorded, List.filterMap_map, Function.comp_def, Channel.Occurrence.recorded?]
  simp [Channel.run, replay_cons, Channel.step, Channel.Occurrence.recorded?, kept]

theorem readings_channel (s : Session ω) (m : Channel.Move) :
    s.readings (.channel m) =
      Channel.recorded (s.client.channel.run (s.channelMoves (.channel m))).2 := by
  simp [Session.readings, Session.channelMoves, Channel.run, replay_cons]

theorem readings_handOver (s : Session ω) (id : RequestId) :
    s.readings (.handOver id) =
      Channel.recorded (s.client.channel.run (s.channelMoves (.handOver id))).2 := by
  cases sending : s.sending? id with
  | none => simp [Session.readings, Session.channelMoves, sending, Channel.run]
  | some call =>
      simp [Session.readings, Session.channelMoves, sending, recorded_send, Client.send]

/-- An inbound text is discarded, or it is read and may be a call of the peer. -/
theorem receive_cases (s : Session ω) (text : String) :
    (s.readings (.receive text) = [.discarded "undecodable"] ∧ s.announces (.receive text) = [] ∧
      (s.step (.receive text)).1.client.correlator =
        (s.client.correlator.discard "undecodable").1) ∨
    ∃ request : Option InboundRequest,
      s.readings (.receive text) = request.toList.map (fun r => .inbound r.method) ∧
      s.announces (.receive text) = request.toList.map .request ∧
      (s.step (.receive text)).1.client.correlator = s.client.correlator := by
  simp only [Session.readings, Session.announces, Session.step, Correlator.receive]
  cases Message.decode text with
  | error fault => exact .inl ⟨rfl, rfl, rfl⟩
  | ok m =>
      refine .inr ⟨m.inboundRequest?, ?_, ?_, rfl⟩
      · cases given : m.inboundRequest? <;> simp [Correlator.announcement?, given]
      · cases given : m.inboundRequest? <;> simp [Correlator.announcement?, given]

/-- A message answers a request, or it is let pass, or it is discarded. -/
theorem settle_cases (s : Session ω) (m : Message) :
    (∃ request ∈ s.client.correlator.pending, s.answered? m = some request ∧
      s.readings (.settle m) = Reading.ofRequest request.method (status (outcomeOf m)) none ∧
      Reduces s.client.correlator (s.client.correlator.settle m).1) ∨
    (s.answered? m = none ∧ s.client.correlator.settle m = (s.client.correlator, [])) ∨
    (s.answered? m = none ∧ ∃ reason,
      s.client.correlator.settle m = s.client.correlator.discard reason) := by
  -- A message that nobody waits for is let pass if it is a request, whatever its id.
  have passed (unanswered : s.answered? m = none) (reason : String)
      (settled : s.client.correlator.settle m =
        if m.isRequest then (s.client.correlator, []) else s.client.correlator.discard reason) :
      (s.answered? m = none ∧ s.client.correlator.settle m = (s.client.correlator, [])) ∨
      (s.answered? m = none ∧ ∃ reason,
        s.client.correlator.settle m = s.client.correlator.discard reason) := by
    cases request : m.isRequest
    · exact .inr ⟨unanswered, reason, by simp [settled, request]⟩
    · exact .inl ⟨unanswered, by simp [settled, request]⟩
  cases response : m.responseId? with
  | none =>
      refine .inr (passed ?_ "uncorrelatable" ?_)
      · simp [Session.answered?, response]
      · simp [Correlator.settle, response]
  | some id =>
      cases found : s.client.correlator.pending.find? (·.id = id) with
      | none =>
          refine .inr (passed ?_ "unknown_id" ?_)
          · simp [Session.answered?, response, found]
          · simp [Correlator.settle, response, found]
      | some request =>
          refine .inl ⟨request, List.mem_of_find?_eq_some found, ?_, ?_, ?_⟩
          · simp [Session.answered?, response, found]
          · simp only [Session.readings, Correlator.settle, response, found]
            cases outcomeOf m <;> rfl
          · simp only [Correlator.settle, response, found]
            exact .forget_updateTicket _ id _

/-- The channel's readings are those of its own run. -/
theorem readings_ofChannel (s : Session ω) (m : Move ω) :
    (s.readings m).filter Channel.ofChannel =
      Channel.recorded (s.client.channel.run (s.channelMoves m)).2 := by
  have own : ∀ r ∈ Channel.recorded (s.client.channel.run (s.channelMoves m)).2,
      Channel.ofChannel r := Channel.ofChannel_run _ _
  cases m with
  | channel m =>
      rw [readings_channel]
      exact List.filter_eq_self.mpr own
  | handOver id =>
      rw [readings_handOver]
      exact List.filter_eq_self.mpr own
  | withdraw id =>
      simp only [Session.readings]
      cases s.refusal? id <;> rfl
  | receive text =>
      rcases receive_cases s text with ⟨recorded, -⟩ | ⟨request, recorded, -⟩
      · rw [recorded]
        rfl
      · rw [recorded]
        cases request <;> rfl
  | settle m =>
      rcases settle_cases s m with ⟨_, -, -, recorded, -⟩ | ⟨-, settled⟩ | ⟨-, _, settled⟩
      · rw [recorded]
        rfl
      · simp only [Session.readings, settled]
        rfl
      · simp only [Session.readings, settled]
        rfl
  | _ => rfl

/-! ## Events of single moves -/

theorem events_advance (s : Session ω) (k : Nat) : (s.advance k).events = s.events := by
  cases found : s.dispatches[k]? with
  | none => simp [Session.advance, found]
  | some d =>
      have advance := Advance.of_found found
      generalize s.advance k = moved at advance
      cases advance with
      | finished => rfl
      | lookUp | pass | leave => exact events_enter _ found
      | drain | reject => exact events_enter (s := s.correlate _) _ found

theorem events_step (s : Session ω) (m : Move ω) :
    (s.step m).1.events = s.events ++ s.announces m := by
  have unannounced : s.events = s.events ++ [] := (List.append_nil _).symm
  cases m with
  | channel m =>
      simp [Session.step, Session.events, Session.announce, Session.announces, Channel.announced,
        Function.comp_def]
  | receive text =>
      simp [Session.step, Session.events, Session.announce, Session.announces, Session.correlate,
        Function.comp_def]
  | dispatch k => exact (events_advance s k).trans unannounced
  | handOver id =>
      simp only [Session.step, Session.handOver]
      split
      · exact unannounced
      · split <;> exact unannounced
  | withdraw id =>
      simp only [Session.step, Session.withdraw]
      split <;> exact unannounced
  | limit | poll | drop | off =>
      simp only [Session.step]
      split <;> exact unannounced
  | register | settle | on => exact unannounced

def asks : Event → Bool
  | .request _ => true
  | _ => false

theorem announced_send (c : Channel) (payload : String) :
    Channel.announced (c.run [.send payload]).2 = [] := by
  simp [Channel.run, replay_cons, Channel.step, Channel.announced, Channel.Occurrence.announced?]

theorem announced_handOver (s : Session ω) (id : RequestId) :
    Channel.announced (s.client.channel.run (s.channelMoves (.handOver id))).2 = [] := by
  simp only [Session.channelMoves]
  cases s.sending? id with
  | none => rfl
  | some call => exact announced_send _ _

/-- Only the channel announces faults. -/
theorem faults_announces (s : Session ω) (m : Move ω) :
    Channel.faults (s.announces m) =
      Channel.faults (Channel.announced (s.client.channel.run (s.channelMoves m)).2) := by
  cases m with
  | channel m => simp [Session.announces, Session.channelMoves, Channel.run, replay_cons]
  | handOver id =>
      rw [announced_handOver]
      rfl
  | receive text =>
      rcases receive_cases s text with ⟨-, announced, -⟩ | ⟨request, -, announced, -⟩
      · rw [announced]
        rfl
      · rw [announced]
        cases request <;> rfl
  | _ => rfl

theorem asks_announced {c moved : Channel} {m : Channel.Move} {seen : List Channel.Occurrence}
    (move : Channel.Step c m moved seen) : (Channel.announced seen).countP asks = 0 := by
  cases move with
  | proceed move | answer move =>
      rw [Channel.announced_arrival]
      cases task : moved.task <;> simp [Channel.announcement?, task, asks]
  | _ => simp [Channel.Occurrence.announced?, asks]

/-! ## The books of single moves -/

/-- What a move records of calls and of the peer's messages is what happened. -/
structure Balanced (s : Session ω) (m : Move ω) : Prop where
  inbound : total .inboundRequests (s.readings m) = (s.announces m).countP asks
  discarded : (s.step m).1.client.correlator.discarded =
    s.client.correlator.discarded + UInt64.ofNat (total .discardedMessages (s.readings m))
  refused : totalWith .errorsTotal [("error_type", "send")] (s.readings m) =
    (s.incidents m).countP (·.refuses)
  settled : ∀ method state,
    totalWith .requestsTotal [("method", method), ("status", state)] (s.readings m) =
      (s.incidents m).countP (·.settles method state)
  known : ∀ request ∈ (s.step m).1.client.correlator.pending,
    request ∈ s.client.correlator.pending ∨ .called request ∈ s.incidents m
  answered : ∀ request outcome, .answered request outcome ∈ s.incidents m →
    request ∈ s.client.correlator.pending

/-- A move of the channel, or one that records nothing. -/
theorem Balanced.of_reduces {m : Move ω}
    (recorded : ∀ r ∈ s.readings m, Channel.ofChannel r)
    (announced : (s.announces m).countP asks = 0) (incidents : s.incidents m = [])
    (reduces : Reduces s.client.correlator (s.step m).1.client.correlator) : Balanced s m := by
  have unsent := Channel.labels_filter (s.readings m)
  rw [List.filter_eq_self.mpr recorded] at unsent
  constructor
  case inbound =>
      rw [total, Channel.on_eq_nil recorded (by simp), announced]
      rfl
  case discarded =>
      rw [total, Channel.on_eq_nil recorded (by simp), reduces.discarded]
      simp
  case refused =>
      rw [totalWith, unsent, incidents]
      exact List.count_eq_zero.mpr (by simp)
  case settled =>
      intro method state
      rw [totalWith, labels, Channel.on_eq_nil recorded (by simp), incidents]
      rfl
  case known => exact fun request listed => .inl (reduces.pending listed)
  case answered => simp [incidents]

theorem Balanced.of_discard {m : Move ω} (reason : String)
    (recorded : s.readings m = [.discarded reason]) (announced : s.announces m = [])
    (incidents : s.incidents m = [])
    (after : (s.step m).1.client.correlator = (s.client.correlator.discard reason).1) :
    Balanced s m := by
  constructor
  case inbound =>
      rw [recorded, announced]
      rfl
  case discarded =>
      rw [recorded, after]
      rfl
  case refused =>
      rw [recorded, incidents]
      rfl
  case settled =>
      rw [recorded, incidents]
      exact fun _ _ => rfl
  case known =>
      rw [after]
      exact fun _ listed => .inl listed
  case answered => simp [incidents]

theorem balanced_register (s : Session ω) (method : String) (params : Option Value) :
    Balanced s (.register method params) := by
  have registered : (s.client.correlator.register method).2.discarded =
        s.client.correlator.discarded ∧
      (s.client.correlator.register method).2.pending =
        s.client.correlator.pending ++ [{ id := s.client.correlator.upcoming, method }] := by
    by_cases wrapped : s.client.correlator.nextId = 0 <;>
      simp [Correlator.register, takeId, upcoming, wrapped]
  constructor
  case inbound | refused | settled => intros; rfl
  case discarded => simpa [Session.readings, Session.step, Session.correlate] using registered.1
  case known =>
      intro request listed
      simp only [Session.step, Session.correlate, registered.2, List.mem_append,
        List.mem_singleton] at listed
      rcases listed with before | rfl
      · exact .inl before
      · exact .inr (List.mem_singleton.mpr rfl)
  case answered => simp [Session.incidents]

theorem balanced_withdraw (s : Session ω) (id : RequestId) : Balanced s (.withdraw id) := by
  cases refusal : s.refusal? id with
  | none =>
      refine .of_reduces ?_ rfl ?_ ?_
      · simp [Session.readings, refusal]
      · simp [Session.incidents, refusal]
      · simp only [Session.step, Session.withdraw, refusal]
        exact .refl _
  | some fault =>
      have reduces : Reduces s.client.correlator (s.step (.withdraw id)).1.client.correlator := by
        simp only [Session.step, Session.withdraw, refusal]
        exact .forget_updateTicket _ id _
      have recorded : s.readings (.withdraw id) = [.error "send"] := by
        simp [Session.readings, refusal, Correlator.refuse]
      have happened : s.incidents (.withdraw id) = [.refused id] := by
        simp [Session.incidents, refusal]
      constructor
      case inbound =>
          rw [recorded]
          rfl
      case discarded => simp [recorded, reduces.discarded, Reading.instrument]
      case refused =>
          rw [recorded, happened]
          rfl
      case settled =>
          rw [recorded, happened]
          exact fun _ _ => rfl
      case known => exact fun request listed => .inl (reduces.pending listed)
      case answered => simp [happened]

theorem balanced_receive (s : Session ω) (text : String) : Balanced s (.receive text) := by
  rcases receive_cases s text with ⟨recorded, announced, after⟩ |
    ⟨request, recorded, announced, after⟩
  · exact .of_discard "undecodable" recorded announced rfl after
  · constructor
    case inbound =>
        rw [recorded, announced]
        cases request <;> rfl
    case discarded =>
        rw [recorded, after]
        cases request <;> simp [Reading.instrument]
    case refused =>
        rw [recorded]
        cases request <;> rfl
    case settled =>
        rw [recorded]
        cases request <;> exact fun _ _ => rfl
    case known =>
        rw [after]
        exact fun _ listed => .inl listed
    case answered => simp [Session.incidents]

theorem balanced_settle (s : Session ω) (m : Message) : Balanced s (.settle m) := by
  rcases settle_cases s m with ⟨request, listed, answers, recorded, reduces⟩ | ⟨none, settled⟩ |
    ⟨none, reason, settled⟩
  · have happened : s.incidents (.settle m) = [.answered request (outcomeOf m)] := by
      simp [Session.incidents, answers]
    constructor
    case inbound =>
        rw [recorded]
        rfl
    case discarded =>
        rw [recorded]
        exact reduces.discarded.trans (by simp [Reading.ofRequest, Reading.instrument])
    case refused =>
        rw [recorded, happened]
        rfl
    case settled =>
        intro method state
        rw [recorded, happened]
        simp [totalWith, Reading.ofRequest, Reading.instrument, Reading.attributes,
          Incident.settles, List.count_singleton, List.countP_cons]
    case known => exact fun other left => .inl (reduces.pending left)
    case answered =>
        intro other outcome shown
        rw [happened, List.mem_singleton] at shown
        cases shown
        exact listed
  · refine .of_reduces ?_ rfl ?_ ?_
    · simp [Session.readings, settled]
    · simp [Session.incidents, none]
    · simp only [Session.step, settled]
      exact .refl _
  · refine .of_discard reason ?_ rfl ?_ ?_
    · simp [Session.readings, settled, Correlator.discard]
    · simp [Session.incidents, none]
    · rw [Session.step, settled]
      rfl

theorem balanced (s : Session ω) (m : Move ω) : Balanced s m := by
  cases m with
  | channel m =>
      refine .of_reduces ?_ (asks_announced (.of_step _ m)) rfl (.refl _)
      rw [readings_channel]
      exact Channel.ofChannel_run _ _
  | handOver id =>
      refine .of_reduces ?_ rfl rfl ?_
      · rw [readings_handOver]
        exact Channel.ofChannel_run _ _
      · rw [Session.step, correlator_handOver]
        exact .refl _
  | limit id deadline =>
      refine .of_reduces (by simp [Session.readings]) rfl rfl ?_
      simp only [Session.step]
      split
      · exact .refl _
      · exact .updateTicket _ id _
  | poll id now =>
      refine .of_reduces (by simp [Session.readings]) rfl rfl ?_
      simp only [Session.step]
      split
      · exact .refl _
      · exact .poll _ id now
  | drop id =>
      refine .of_reduces (by simp [Session.readings]) rfl rfl ?_
      simp only [Session.step]
      split
      · exact .refl _
      · exact .drop _ id
  | off id =>
      refine .of_reduces (by simp [Session.readings]) rfl rfl ?_
      simp only [Session.step]
      split <;> exact .refl _
  | on event observer => exact .of_reduces (by simp [Session.readings]) rfl rfl (.refl _)
  | dispatch k => exact .of_reduces (by simp [Session.readings]) rfl rfl (.advance s k)
  | register method params => exact balanced_register s method params
  | withdraw id => exact balanced_withdraw s id
  | receive text => exact balanced_receive s text
  | settle m => exact balanced_settle s m

end DuplexRpc.Client
