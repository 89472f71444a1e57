import DuplexRpc.Proofs.Channel.Announcements
import DuplexRpc.Proofs.Telemetry.Readings

/-!
# What a channel records

The gauge follows the state of a channel up to its closing.  Every failure is recorded as an error
of its own kind and announced with its own fault, in the order in which the failures happened.  The
counter of buffered payloads counts the sends that the buffer took, and not what goes back to it
when a link is lost.
-/

namespace DuplexRpc.Channel

open DuplexRpc.Telemetry

variable {c moved : Channel} {m : Move} {a : Option Answer} {readings : List Reading}
  {seen : List Occurrence}

/-! ## The state -/

theorem TaskMove.states (move : TaskMove c a moved readings) :
    (states readings = [] ∧ moved.state = c.state) ∨
      (states readings = [moved.state] ∧ c.state ≠ .closed) := by
  cases move with
  | attempt task alive =>
      refine .inr ⟨?_, alive⟩
      split <;> rfl
  | reset task =>
      refine .inl ⟨?_, rfl⟩
      split <;> rfl
  | link task alive | setBack _ task alive | lose task alive | giveUp _ task alive =>
      exact .inr ⟨rfl, alive⟩
  | _ => exact .inl ⟨rfl, rfl⟩

theorem Step.states (move : Step c m moved seen) :
    (states (recorded seen) = [] ∧ moved.state = c.state) ∨
      (states (recorded seen) = [moved.state] ∧ c.state ≠ .closed) := by
  cases move with
  | proceed move | answer move =>
      rw [recorded_arrival]
      exact move.states
  | close alive => exact .inr ⟨rfl, alive⟩
  | _ => exact .inl ⟨rfl, rfl⟩

/-- The last state that was recorded is the current one, and nothing was recorded behind a
closing. -/
structure Gauged (c : Channel) (past : List Lifecycle) : Prop where
  last : ∀ state ∈ past.getLast?, state = c.state
  final : .closed ∉ past.dropLast

theorem Gauged.not_closed {past : List Lifecycle} (h : Gauged c past)
    (alive : c.state ≠ .closed) : .closed ∉ past := by
  intro closed
  rcases List.eq_nil_or_concat' past with rfl | ⟨earlier, state, rfl⟩
  · cases closed
  · rcases List.mem_append.mp closed with closed | last
    · exact h.final (by simpa using closed)
    · obtain rfl := List.mem_singleton.mp last
      exact alive (h.last .closed (by simp)).symm

theorem Gauged.step {past : List Lifecycle} (h : Gauged c past) (move : Step c m moved seen) :
    Gauged moved (past ++ Telemetry.states (recorded seen)) := by
  rcases move.states with ⟨none, same⟩ | ⟨one, alive⟩
  · rw [none, List.append_nil]
    exact ⟨same ▸ h.last, h.final⟩
  · rw [one]
    constructor
    · simp
    · rw [List.dropLast_concat]
      exact h.not_closed alive

theorem run_gauged (moves : List Move) :
    Gauged (run {} moves).1 (Telemetry.states (recorded (run {} moves).2)) :=
  replay_keeps (fun c seen => Gauged c (Telemetry.states (recorded seen)))
    (fun c seen m _ h => by
      rw [recorded_append, states_append]
      exact h.step (.of_step c m))
    ⟨nofun, nofun⟩

theorem toString_code_closed {state : Lifecycle}
    (same : toString state.code = toString Lifecycle.closed.code) : state = .closed := by
  revert same
  cases state <;> decide

/-- What the gauge shows is the state of the channel, and nothing behind its closing. -/
theorem Gauged.values {past : List Lifecycle} (h : Gauged c past) :
    let shown := past.map fun state => toString state.code
    (∀ value ∈ shown.getLast?, value = toString c.state.code) ∧
      ∀ before after, shown = before ++ toString Lifecycle.closed.code :: after → after = [] := by
  intro shown
  constructor
  · intro value last
    rw [List.getLast?_map, Option.mem_def, Option.map_eq_some_iff] at last
    obtain ⟨state, last, rfl⟩ := last
    rw [h.last state last]
  · intro before after split
    obtain ⟨earlier, later, rfl, -, split⟩ := List.map_eq_append_iff.mp split
    obtain ⟨state, later, rfl, closed, rfl⟩ := List.map_eq_cons_iff.mp split
    cases toString_code_closed closed
    cases later with
    | nil => rfl
    | cons next later => exact absurd (by simp) h.final

/-! ## Failures -/

/-- The kind of a failure, as it is recorded, and the fault that is announced. -/
def Happening.failure? : Happening → Option (String × Fault)
  | .refused fault => some ("connect", fault)
  | .writeFailed fault => some ("write", fault)
  | .readFailed fault => some ("read", fault)
  | .gaveUp attempts => some ("reconnect_exhausted", .reconnectExhausted attempts)
  | .ended | .changed _ _ => none

def failures (past : List Happening) : List (String × Fault) := past.filterMap Happening.failure?

def fault? : Event → Option Fault
  | .error fault => some fault
  | _ => none

def faults (events : List Event) : List Fault := events.filterMap fault?

@[simp] theorem failures_nil : failures [] = [] := rfl

@[simp] theorem failures_append (past later : List Happening) :
    failures (past ++ later) = failures past ++ failures later :=
  List.filterMap_append

@[simp] theorem failures_changes (before after : Lifecycle) :
    failures (changes before after) = [] := by
  unfold changes
  split <;> rfl

@[simp] theorem faults_append (events later : List Event) :
    faults (events ++ later) = faults events ++ faults later :=
  List.filterMap_append

/-- The errors that were recorded and the faults that were announced are those of the failures. -/
structure Reports (readings : List Reading) (events : List Event) (past : List Happening) :
    Prop where
  recorded : labels .errorsTotal readings = (failures past).map fun f => [("error_type", f.1)]
  announced : faults events = (failures past).map (·.2)

/-- A move that strikes nothing, records no error and announces none. -/
theorem Reports.of_calm {past : List Happening} (unrecorded : labels .errorsTotal readings = [])
    (unannounced : faults moved.announcement?.toList = []) (calm : failures past = []) :
    Reports readings moved.announcement?.toList past where
  recorded := by rw [unrecorded, calm, List.map_nil]
  announced := by rw [unannounced, calm, List.map_nil]

theorem TaskMove.reports (move : TaskMove c a moved readings)
    (refusal : ∀ fault, a = some (.refused fault) → c.task = .dialing →
      moved.task = .reportingRefusal fault) :
    Reports readings moved.announcement?.toList (c.strikes a) := by
  cases move with
  | quit task closed =>
      have unstruck : c.strikes a = [] := by
        refine strikes_of_closed closed refusal (by simp) fun payload writing => ?_
        simp [writing, Task.looksUp] at task
      exact .of_calm rfl rfl (by rw [unstruck]; rfl)
  | hangUp task closed =>
      have unstruck : c.strikes a = [] := by
        refine strikes_of_closed closed refusal (by simp) fun payload writing => ?_
        simp [writing] at task
      exact .of_calm rfl rfl (by rw [unstruck]; rfl)
  | attempt task alive =>
      refine .of_calm ?_ rfl rfl
      split <;> rfl
  | reset task =>
      refine .of_calm ?_ rfl ?_
      · split <;> rfl
      · simp [strikes, struck, task, failures]
  | refused fault task | writeFailed _ fault task =>
      constructor <;> simp [strikes, struck, task, failures, Happening.failure?, announcement?,
        faults, fault?, Reading.instrument, Reading.attributes]
  | readFailed fault task alive empty =>
      have idle := idle_of_queued task alive empty
      constructor <;> simp [strikes, struck, task, idle, failures, Happening.failure?,
        announcement?, faults, fault?, Reading.instrument, Reading.attributes]
  | giveUp attempts task alive =>
      constructor <;> simp [strikes, struck, task, alive, failures, Happening.failure?,
        announcement?, faults, fault?, Reading.instrument, Reading.attributes]
  | lose task alive =>
      refine .of_calm rfl rfl ?_
      rcases task with ⟨task, rfl⟩ | ⟨fault, task, rfl⟩
      · simp only [strikes, struck, task, Option.toList_some, List.flatMap_singleton]
        split <;> rfl
      · simp [strikes, struck, task, failures]
  | finish task =>
      refine .of_calm rfl rfl ?_
      rcases task with task | task <;> simp [strikes, struck, task, failures]
  | crash => exact .of_calm rfl rfl (by simp [strikes_panicked, failures])
  | take => exact .of_calm rfl rfl rfl
  | link task | setBack _ task | serve task | receive _ task | wrote _ task | delivered _ task
  | consult task | sleep _ _ task | wake _ task | exhausted _ task =>
      exact .of_calm rfl rfl (by simp [strikes, struck, task, failures])

theorem reports_owner (owner : m ≠ .proceed ∧ ∀ a, m ≠ .answer a) (move : Step c m moved seen) :
    Reports (Channel.recorded seen) (announced seen) [] := by
  cases move with
  | proceed => exact absurd rfl owner.1
  | answer => exact absurd rfl (owner.2 _)
  | _ => exact ⟨rfl, rfl⟩

theorem reports_advance (result : Option (Channel × List Reading)) {past : List Happening}
    (unheard : result = none → past = [])
    (heard : ∀ after, result = some after →
      Reports after.2 after.1.announcement?.toList past) :
    Reports (Channel.recorded (c.advance result).2) (Channel.announced (c.advance result).2)
      past := by
  cases result with
  | none =>
      rw [unheard rfl]
      exact ⟨rfl, rfl⟩
  | some after =>
      obtain ⟨errors, events⟩ := heard after rfl
      constructor
      · simpa [advance] using errors
      · simpa [advance] using events

theorem reports_step (c : Channel) (m : Move) :
    Reports (Channel.recorded (c.step m).2) (Channel.announced (c.step m).2) (c.happenings m) := by
  -- A change of state is no failure, so of what happened only the strikes are left.
  suffices ∃ past, failures (c.happenings m) = failures past ∧
      Reports (Channel.recorded (c.step m).2) (Channel.announced (c.step m).2) past by
    obtain ⟨past, same, errors, events⟩ := this
    exact ⟨by rw [same, errors], by rw [same, events]⟩
  cases m with
  | answer a =>
      refine ⟨c.strikes (some a), by simp [happenings, strikes], reports_advance _ ?_ ?_⟩
      · intro unheard
        simp [strikes, struck_of_unheard unheard]
      · intro after heard
        exact (TaskMove.of_answer heard).reports (refusal_of_heard heard)
  | proceed =>
      refine ⟨c.strikes none, by simp [happenings, strikes], reports_advance _ (fun _ => rfl) ?_⟩
      intro after goes
      exact (TaskMove.of_proceed goes).reports (by simp)
  | send payload =>
      exact ⟨[], by simp [happenings], reports_owner (by simp) (.of_send c payload)⟩
  | start => exact ⟨[], by simp [happenings], reports_owner (by simp) (.of_start c)⟩
  | close => exact ⟨[], by simp [happenings], reports_owner (by simp) (.of_close c)⟩

theorem reports_run (c : Channel) (moves : List Move) :
    Reports (Channel.recorded (c.run moves).2) (Channel.announced (c.run moves).2)
      (c.chronicle moves) := by
  induction moves generalizing c with
  | nil => exact ⟨rfl, rfl⟩
  | cons m moves ih =>
      obtain ⟨errors, events⟩ := reports_step c m
      obtain ⟨later, told⟩ := ih (c.step m).1
      simp only [Channel.run, chronicle] at later told
      constructor
      · simp [Channel.run, chronicle, replay_cons, errors, later]
      · simp [Channel.run, chronicle, replay_cons, events, told]

/-! ## Buffered payloads -/

/-- The payload of a send that the buffer took. -/
def appended (c moved : Channel) : Move → List String
  | .send payload => if moved.buffer = c.buffer ++ [payload] then [payload] else []
  | _ => []

/-- The payloads of a run that the buffer took when they were sent. -/
def buffered (c : Channel) (moves : List Move) : List String :=
  (replay (fun c m => ((c.step m).1, appended c (c.step m).1 m)) c moves).2

theorem TaskMove.unbuffered (move : TaskMove c a moved readings) :
    total .bufferedPayloads readings = 0 := by
  cases move with
  | attempt | reset => split <;> rfl
  | _ => rfl

theorem Step.buffered (move : Step c m moved seen) :
    total .bufferedPayloads (recorded seen) = (appended c moved m).length := by
  cases move with
  | proceed move | answer move =>
      rw [recorded_arrival]
      exact move.unbuffered
  | sendBuffered payload =>
      simp [Occurrence.recorded?, Reading.instrument, appended]
  | idle => cases m <;> simp [appended]
  | sendRefused | sendQueued => simp [appended, Occurrence.recorded?]
  | startRefused | started | close => rfl

theorem buffered_run (c : Channel) (moves : List Move) :
    total .bufferedPayloads (recorded (c.run moves).2) = (c.buffered moves).length := by
  induction moves generalizing c with
  | nil => rfl
  | cons m moves ih =>
      have first := (Step.of_step c m).buffered
      have later := ih (c.step m).1
      simp only [Channel.run, Channel.buffered] at later
      simp [Channel.run, Channel.buffered, replay_cons, first, later]

/-! ## Whose readings -/

/-- Recorded by the channel of a client rather than by its correlator. -/
def ofChannel : Reading → Bool
  | .state _ | .reconnectionAttempt | .reconnectionSuccess | .buffered => true
  | .error kind => kind ≠ "send"
  | _ => false

theorem TaskMove.ofChannel (move : TaskMove c a moved readings) :
    ∀ r ∈ readings, ofChannel r := by
  cases move with
  | attempt | reset => split <;> simp [Channel.ofChannel]
  | _ => simp [Channel.ofChannel]

theorem Step.ofChannel (move : Step c m moved seen) : ∀ r ∈ recorded seen, ofChannel r := by
  cases move with
  | proceed move | answer move =>
      rw [recorded_arrival]
      exact move.ofChannel
  | _ => simp [Occurrence.recorded?, Channel.ofChannel]

theorem ofChannel_run (c : Channel) (moves : List Move) :
    ∀ r ∈ recorded (c.run moves).2, ofChannel r := by
  induction moves generalizing c with
  | nil => nofun
  | cons m moves ih =>
      intro r listed
      rw [Channel.run, replay_cons, recorded_append, List.mem_append] at listed
      rcases listed with first | later
      · exact (Step.of_step c m).ofChannel r first
      · exact ih _ r later

theorem ofChannel_of_instrument {r : Reading}
    (own : r.instrument ∈ [.connectionState, .reconnectionAttempts, .reconnectionSuccess,
      .bufferedPayloads]) : ofChannel r := by
  cases r with
  | state | reconnectionAttempt | reconnectionSuccess | buffered => rfl
  | _ => simp [Reading.instrument] at own

theorem instrument_of_ofChannel {r : Reading} (own : ofChannel r) :
    r.instrument ∉ [.requestsTotal, .inboundRequests, .discardedMessages] := by
  cases r with
  | settled | inbound | discarded => cases own
  | _ => simp [Reading.instrument]

theorem on_eq_nil {i : Instrument} (own : ∀ r ∈ readings, ofChannel r)
    (foreign : i ∈ [.requestsTotal, .inboundRequests, .discardedMessages]) :
    on i readings = [] := by
  rw [on, List.filter_eq_nil_iff]
  intro r listed mine
  rw [← of_decide_eq_true mine] at foreign
  exact instrument_of_ofChannel (own r listed) foreign

theorem on_filter {i : Instrument} (readings : List Reading)
    (own : i ∈ [.connectionState, .reconnectionAttempts, .reconnectionSuccess, .bufferedPayloads]) :
    on i (readings.filter ofChannel) = on i readings := by
  rw [on, on, List.filter_filter]
  apply List.filter_congr
  intro r _
  by_cases mine : r.instrument = i
  · rw [← mine] at own
    simp [mine, ofChannel_of_instrument own]
  · simp [mine]

theorem labels_filter (readings : List Reading) :
    labels .errorsTotal (readings.filter ofChannel) =
      (labels .errorsTotal readings).filter (· ≠ [("error_type", "send")]) := by
  rw [labels, labels, List.filter_map, on, on, List.filter_filter, List.filter_filter]
  congr 1
  apply List.filter_congr
  intro r _
  cases r with
  | error kind => simp [ofChannel, Reading.instrument, Reading.attributes]
  | _ => simp [Reading.instrument]

end DuplexRpc.Channel
