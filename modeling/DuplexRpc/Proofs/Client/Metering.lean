import DuplexRpc.Proofs.Channel.Reconnections
import DuplexRpc.Proofs.Client.Readings
import DuplexRpc.Proofs.Client.Undisturbed

/-!
# What a client records

The channel of a client makes a run of its own, in which the client's calls are sends, and what the
channel recorded is read off that run.  What the correlator recorded is read off the history of the
client's calls.  Steps that nobody disturbs record what the whole operation records.
-/

namespace DuplexRpc.Client

open DuplexRpc.Correlator DuplexRpc.Json DuplexRpc.Telemetry DuplexRpc.Wire

variable {ω : Type} {s : Session ω}

open Session

/-! ## Every run -/

namespace Session

def log (s : Session ω) (moves : List (Move ω)) : List Reading := s.watch readings moves

def history (s : Session ω) (moves : List (Move ω)) : List Incident := s.watch incidents moves

end Session

/-- The channel of a client makes a run of its own. -/
theorem channel_run (s : Session ω) (moves : List (Move ω)) :
    (s.run moves).1.client.channel =
      (s.client.channel.run (s.watch Session.channelMoves moves)).1 := by
  induction moves generalizing s with
  | nil => rfl
  | cons m moves ih =>
      rw [run_cons, ih, channel_step]
      simp only [watch_cons, Channel.run, replay_append]

theorem log_ofChannel (s : Session ω) (moves : List (Move ω)) :
    (s.log moves).filter Channel.ofChannel =
      Channel.recorded (s.client.channel.run (s.watch Session.channelMoves moves)).2 := by
  induction moves generalizing s with
  | nil => rfl
  | cons m moves ih =>
      have first := readings_ofChannel s m
      have later := ih (s.step m).1
      rw [channel_step] at later
      simp only [Session.log, Channel.run] at first later ⊢
      simp only [watch_cons, List.filter_append, replay_append, Channel.recorded_append, first,
        later]

theorem events_run (s : Session ω) (moves : List (Move ω)) :
    (s.run moves).1.events = s.events ++ s.watch Session.announces moves := by
  induction moves generalizing s with
  | nil => exact (List.append_nil _).symm
  | cons m moves ih => rw [run_cons, ih, events_step, watch_cons, List.append_assoc]

theorem faults_run (s : Session ω) (moves : List (Move ω)) :
    Channel.faults (s.watch Session.announces moves) =
      Channel.faults
        (Channel.announced (s.client.channel.run (s.watch Session.channelMoves moves)).2) := by
  induction moves generalizing s with
  | nil => rfl
  | cons m moves ih =>
      have first := faults_announces s m
      have later := ih (s.step m).1
      rw [channel_step] at later
      simp only [Channel.run] at first later ⊢
      simp only [watch_cons, replay_append, Channel.announced_append, Channel.faults_append, first,
        later]

/-- The books of all moves of a run, added up. -/
theorem books_run (s : Session ω) (moves : List (Move ω)) :
    total .inboundRequests (s.log moves) = (s.watch Session.announces moves).countP asks ∧
    (s.run moves).1.client.correlator.discarded =
      s.client.correlator.discarded + UInt64.ofNat (total .discardedMessages (s.log moves)) ∧
    totalWith .errorsTotal [("error_type", "send")] (s.log moves) =
      (s.history moves).countP (·.refuses) ∧
    ∀ method state,
      totalWith .requestsTotal [("method", method), ("status", state)] (s.log moves) =
        (s.history moves).countP (·.settles method state) := by
  induction moves generalizing s with
  | nil => exact ⟨rfl, by simp [Session.run, Session.log], rfl, fun _ _ => rfl⟩
  | cons m moves ih =>
      have first := balanced s m
      obtain ⟨inbound, discarded, refused, settled⟩ := ih (s.step m).1
      simp only [Session.log, Session.history] at inbound discarded refused settled ⊢
      simp only [watch_cons, run_cons, List.countP_append]
      refine ⟨?_, ?_, ?_, fun method state => ?_⟩
      · rw [total_append, first.inbound, inbound]
      · rw [total_append, discarded, first.discarded, UInt64.ofNat_add, UInt64.add_assoc]
      · rw [totalWith_append, first.refused, refused]
      · rw [totalWith_append, first.settled, settled]

/-- Only calls that were made before are answered. -/
structure Explained (s : Session ω) (past : List Incident) : Prop where
  known : ∀ request ∈ s.client.correlator.pending, .called request ∈ past
  answered : ∀ before request outcome after,
    past = before ++ .answered request outcome :: after → .called request ∈ before

theorem Explained.step {past : List Incident} (h : Explained s past) (m : Move ω) :
    Explained (s.step m).1 (past ++ s.incidents m) where
  known request listed := by
    rcases (balanced s m).known request listed with before | called
    · exact List.mem_append_left _ (h.known request before)
    · exact List.mem_append_right _ called
  answered before request outcome after split := by
    rcases List.append_eq_append_iff.mp split with ⟨more, rfl, now⟩ | ⟨more, rfl, later⟩
    · have shown : .answered request outcome ∈ s.incidents m := by simp [now]
      exact List.mem_append_left _ (h.known request ((balanced s m).answered _ _ shown))
    · cases more with
      | nil =>
          have shown : .answered request outcome ∈ s.incidents m := by
            rw [List.nil_append] at later
            simp [← later]
          have known := h.known request ((balanced s m).answered _ _ shown)
          simpa using known
      | cons first more =>
          obtain ⟨rfl, -⟩ := List.cons.inj later
          exact h.answered before request outcome more rfl

theorem Explained.run {past : List Incident} (h : Explained s past) (moves : List (Move ω)) :
    Explained (s.run moves).1 (past ++ s.history moves) := by
  induction moves generalizing s past with
  | nil => simpa [Session.run, Session.history] using h
  | cons m moves ih =>
      have later := ih (h.step m)
      rwa [List.append_assoc] at later

/-! ## Steps that nobody disturbs -/

theorem sending?_latest {calls : List Call} (call : Call) (latest : s.calls = calls ++ [call])
    (fresh : call.id ∉ calls.map (·.id)) (unrefused : call.refusal = none) :
    s.sending? call.id = some call := by
  rw [Session.sending?, latest, List.find?_append, find?_fresh fresh]
  simp [unrefused]

/-- The fault of a payload that was not accepted. -/
def unsent? : Except Fault Unit → Option Fault
  | .ok () => none
  | .error fault => some fault

theorem refusal?_handOver {calls : List Call} (call : Call) (latest : s.calls = calls ++ [call])
    (fresh : call.id ∉ calls.map (·.id)) (unrefused : call.refusal = none) :
    (s.handOver call.id).refusal? call.id =
      unsent? (s.client.send (Correlator.requestMessage call.id call.method call.params)).1 := by
  have found := sending?_latest call latest fresh unrefused
  simp only [Session.sending?] at found
  simp only [Session.handOver, found]
  cases s.client.send (Correlator.requestMessage call.id call.method call.params) with
  | mk result rest =>
      obtain ⟨client, readings⟩ := rest
      cases result with
      | ok =>
          simp only [latest, List.filter_append, filter_fresh fresh]
          simpa [Session.refusal?, unsent?] using refusal?_fresh fresh
      | error fault =>
          simp only [latest, List.map_append, map_fresh fresh, Session.refusal?,
            List.findSome?_append, refusal?_fresh fresh]
          simp [unsent?]

theorem readings_call (method : String) (params : Option Value) (now : Time) :
    let message := Correlator.requestMessage s.client.correlator.upcoming method params
    let sent := s.client.channel.send message.encode
    (s.client.call method params now).2.2 =
      sent.2.2 ++ (unsent? sent.1).toList.flatMap fun _ => [.error "send"] := by
  simp only [Client.call, Client.send, register_fst]
  cases s.client.channel.send _ with
  | mk result rest => cases result <;> simp [unsent?, Correlator.refuse]

/-- A call that nobody disturbs records what the steps of a call record, and it is refused exactly
if the channel is closed. -/
theorem log_call (method : String) (params : Option Value) (now : Time)
    (fresh : s.client.correlator.upcoming ∉ s.calling) :
    let id := s.client.correlator.upcoming
    let moves : List (Move ω) := [.register method params, .handOver id, .withdraw id]
    s.log moves = (s.client.call method params now).2.2 ∧
      s.history moves = .called { id, method } ::
        if s.client.channel.state = .closed then [.refused id] else [] := by
  intro id moves
  let call : Call := { id, method, params }
  let registered : Session ω :=
    { s.correlate (s.client.correlator.register method).2 with calls := s.calls ++ [call] }
  let sent := s.client.channel.send (Correlator.requestMessage id method params).encode
  have sending : registered.sending? id = some call := sending?_latest call rfl fresh rfl
  have refusal : (registered.handOver id).refusal? id = unsent? sent.1 :=
    refusal?_handOver (s := registered) call rfl fresh rfl
  have handing : registered.readings (.handOver id) = sent.2.2 := by
    rw [Session.readings, sending]
    exact List.append_nil _
  have shown : s.log moves = registered.readings (.handOver id) ++
      ((registered.handOver id).readings (.withdraw id) ++ []) := rfl
  have happened : s.history moves =
      [.called { id, method }] ++ ((registered.handOver id).incidents (.withdraw id) ++ []) := rfl
  constructor
  · rw [shown, handing, readings_call, Session.readings, refusal]
    simp only [sent, id, Correlator.refuse, List.append_nil]
  · rw [happened, Session.incidents, refusal, s.client.channel.send_fst]
    by_cases closed : s.client.channel.state = .closed <;> simp [closed, unsent?]

/-- The steps of an inbound text that nobody disturbs record what the whole of it records. -/
theorem log_inbound (s : Session ω) (text : String) :
    s.log (.receive text :: (Message.decode text).toOption.toList.map .settle) =
      (s.client.correlator.handleText text).2.2 := by
  cases decoded : Message.decode text with
  | error fault =>
      simp [Session.log, Session.readings, Correlator.receive, Correlator.handleText, decoded,
        Correlator.discard, Except.toOption]
  | ok m =>
      simp [Session.log, Session.readings, Session.step, Session.announce, Session.correlate,
        Correlator.receive, Correlator.handleText, decoded, Except.toOption]

/-! ## From the launch on -/

/-- The moves of the channel of a client that was just launched. -/
def line (policy : PendingPolicy) (requestTimeout : Option Time) (moves : List (Move ω)) :
    List Channel.Move :=
  .start :: (Session.launch policy requestTimeout).watch Session.channelMoves moves

theorem run_line (policy : PendingPolicy) (requestTimeout : Option Time) (moves : List (Move ω)) :
    let launched : Session ω := Session.launch policy requestTimeout
    let alone := launched.client.channel.run (launched.watch Session.channelMoves moves)
    Channel.run {} (line policy requestTimeout moves) =
      (alone.1, .started (.ok ()) :: alone.2) := by
  cases policy <;> rfl

theorem correlator_launch (policy : PendingPolicy) (requestTimeout : Option Time) :
    (Session.launch policy requestTimeout : Session ω).client.correlator = {} := by
  cases policy <;> rfl

theorem explained_launch (policy : PendingPolicy) (requestTimeout : Option Time) :
    Explained (Session.launch policy requestTimeout : Session ω) [] where
  known := by simp [correlator_launch]
  answered := by simp

/-- What a client recorded agrees with what happened, where `line` is what its channel went
through. -/
structure Agrees (s : Session ω) (log : List Reading) (past : List Incident)
    (line : List Channel.Move) : Prop where
  channel : s.client.channel = (Channel.run {} line).1
  state : ∀ shown ∈ (values .connectionState log).getLast?,
    shown = toString s.client.channel.state.code
  final : ∀ before after, values .connectionState log =
    before ++ toString Channel.Lifecycle.closed.code :: after → after = []
  retries : total .reconnectionAttempts log = Channel.connects (Channel.run {} line).2 - 1
  errors : (labels .errorsTotal log).filter (· ≠ [("error_type", "send")]) =
    (Channel.failures (Channel.chronicle {} line)).map fun f => [("error_type", f.1)]
  faults : Channel.faults s.events = (Channel.failures (Channel.chronicle {} line)).map (·.2)
  refused : totalWith .errorsTotal [("error_type", "send")] log = past.countP (·.refuses)
  buffered : total .bufferedPayloads log = (Channel.buffered {} line).length
  inbound : total .inboundRequests log = s.events.countP asks
  discarded : UInt64.ofNat (total .discardedMessages log) = s.client.correlator.discarded
  settled : ∀ method state,
    totalWith .requestsTotal [("method", method), ("status", state)] log =
      past.countP (·.settles method state)
  answered : ∀ before request outcome after,
    past = before ++ .answered request outcome :: after → .called request ∈ before

theorem metrics_agree (policy : PendingPolicy) (requestTimeout : Option Time)
    (moves : List (Move ω)) :
    let launched : Session ω := Session.launch policy requestTimeout
    Agrees (launched.run moves).1 (launched.log moves) (launched.history moves)
      (line policy requestTimeout moves) := by
  intro launched
  let line := line policy requestTimeout moves
  let seen := (Channel.run {} line).2
  have alone := run_line policy requestTimeout moves
  have channel : (launched.run moves).1.client.channel = (Channel.run {} line).1 := by
    rw [alone]
    exact channel_run launched moves
  have events : (launched.run moves).1.events = launched.watch Session.announces moves :=
    events_run launched moves
  -- Among the readings of a client those of its channel are the ones that the channel's run shows.
  have own : (launched.log moves).filter Channel.ofChannel = Channel.recorded seen := by
    simp only [seen, line, alone]
    exact log_ofChannel launched moves
  have readings {i : Instrument} (mine : i ∈ [.connectionState, .reconnectionAttempts,
      .reconnectionSuccess, .bufferedPayloads]) :
      on i (launched.log moves) = on i (Channel.recorded seen) := by
    rw [← own, Channel.on_filter _ mine]
  have gauge : values .connectionState (launched.log moves) =
      (states (Channel.recorded seen)).map fun state => toString state.code := by
    rw [← values_states, values, readings (by simp), values]
  have faults : Channel.faults (launched.run moves).1.events =
      Channel.faults (Channel.announced seen) := by
    rw [events, faults_run]
    simp only [seen, line, alone]
    rfl
  obtain ⟨last, final⟩ := (Channel.run_gauged line).values
  obtain ⟨errors, announced⟩ := Channel.reports_run {} line
  obtain ⟨inbound, discarded, refused, settled⟩ := books_run launched moves
  have explained := (explained_launch policy requestTimeout).run moves
  constructor
  case channel => exact channel
  case state =>
      rw [gauge, channel]
      exact last
  case final =>
      rw [gauge]
      exact final
  case retries =>
      rw [total, readings (by simp)]
      exact Channel.retries_run line
  case errors =>
      rw [← Channel.labels_filter, own]
      exact errors
  case faults =>
      rw [faults]
      exact announced
  case refused => exact refused
  case buffered =>
      rw [total, readings (by simp)]
      exact Channel.buffered_run {} line
  case inbound =>
      rw [events]
      exact inbound
  case discarded => rw [discarded, correlator_launch, UInt64.zero_add]
  case settled => exact settled
  case answered => exact explained.answered

end DuplexRpc.Client
