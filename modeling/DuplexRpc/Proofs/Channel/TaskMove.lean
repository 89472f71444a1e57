import DuplexRpc.Proofs.Channel.Run

/-!
# What the connection task can do

One rule for each thing the task does, with what it found and what it leaves behind.  Whatever a
move of the task keeps is shown by going through these rules; the functions that the task runs
are opened here and nowhere else.
-/

namespace DuplexRpc.Channel

open DuplexRpc.Telemetry

/-- Where the task looks whether the channel is still open for it, with no link to shut down. -/
def Task.looksUp : Task → Bool
  | .attempting | .dialing | .reportingRefusal _ | .reportingLoss _ | .announcingLoss
  | .consulting _ | .sleeping _ => true
  | _ => false

/-- The task moves on its own, or with the given answer. -/
inductive TaskMove : Channel → Option Answer → Channel → List Reading → Prop where
  | quit {c : Channel} {a : Option Answer} (task : c.task.looksUp) (closed : c.state = .closed) :
      TaskMove c a { c with task := .finished } []
  | hangUp {c : Channel} {a : Option Answer} (task : c.task = .dialing ∨ c.task = .serving)
      (closed : c.state = .closed) :
      TaskMove c a { c with task := .hangingUp } []
  | finish {c : Channel} (task : c.task = .announcingClose ∨ c.task = .hangingUp) :
      TaskMove c (some .done) { c with task := .finished } []
  | attempt {c : Channel} (task : c.task = .attempting) (alive : c.state ≠ .closed) :
      TaskMove c none
        { c with state := .connecting, published := .connecting, task := .dialing }
        ([.state .connecting] ++
          if c.openedBefore || 0 < c.attempts then [.reconnectionAttempt] else [])
  | link {c : Channel} (task : c.task = .dialing) (alive : c.state ≠ .closed) :
      TaskMove c (some .linked)
        { c with
          state := .open, published := .open, attempts := 0, outlet := .queue c.buffer,
          buffer := [], task := .resetting }
        [.state .open]
  | refused {c : Channel} (fault : Fault) (task : c.task = .dialing) :
      TaskMove c (some (.refused fault)) { c with task := .reportingRefusal fault }
        [.error "connect"]
  | setBack {c : Channel} (fault : Fault) (task : c.task = .reportingRefusal fault)
      (alive : c.state ≠ .closed) :
      TaskMove c (some .done)
        { c with
          state := .disconnected, published := .disconnected, task := .consulting c.attempts }
        [.state .disconnected]
  | reset {c : Channel} (task : c.task = .resetting) :
      TaskMove c (some .done) { c with openedBefore := true, task := .announcingOpen }
        (if c.openedBefore then [.reconnectionSuccess] else [])
  | serve {c : Channel} (task : c.task = .announcingOpen) :
      TaskMove c (some .done) { c with task := .serving } []
  | take {c : Channel} (payload : String) (rest : List String) (task : c.task = .serving)
      (alive : c.state ≠ .closed) (outlet : c.outlet = .queue (payload :: rest)) :
      TaskMove c none { c with outlet := .queue rest, task := .writing payload } []
  | receive {c : Channel} (payload : String) (task : c.task = .serving)
      (alive : c.state ≠ .closed) (empty : c.queued = []) :
      TaskMove c (some (.received payload)) { c with task := .delivering payload } []
  | readFailed {c : Channel} (fault : Fault) (task : c.task = .serving)
      (alive : c.state ≠ .closed) (empty : c.queued = []) :
      TaskMove c (some (.readFailed fault)) { c with task := .reportingLoss fault }
        [.error "read"]
  | wrote {c : Channel} (payload : String) (task : c.task = .writing payload) :
      TaskMove c (some .wrote) { c with task := .serving } []
  | writeFailed {c : Channel} (payload : String) (fault : Fault)
      (task : c.task = .writing payload) :
      TaskMove c (some (.writeFailed fault)) { c with task := .reportingLoss fault }
        [.error "write"]
  | delivered {c : Channel} (payload : String) (task : c.task = .delivering payload) :
      TaskMove c (some .done) { c with task := .serving } []
  | lose {c : Channel} {a : Answer}
      (task : (c.task = .serving ∧ a = .ended) ∨
        ∃ fault, c.task = .reportingLoss fault ∧ a = .done)
      (alive : c.state ≠ .closed) :
      TaskMove c (some a)
        { c with
          state := .disconnected, published := .disconnected, outlet := .none,
          buffer := c.buffer ++ c.queued, task := .announcingLoss }
        [.state .disconnected]
  | consult {c : Channel} (task : c.task = .announcingLoss) (alive : c.state ≠ .closed) :
      TaskMove c (some .done) { c with task := .consulting c.attempts } []
  | sleep {c : Channel} (attempts delay : Nat) (task : c.task = .consulting attempts) :
      TaskMove c (some (.delay (some delay))) { c with task := .sleeping delay } []
  | wake {c : Channel} (delay : Nat) (task : c.task = .sleeping delay)
      (alive : c.state ≠ .closed) :
      TaskMove c (some .elapsed)
        { c with attempts := min (c.attempts + 1) maxAttempts, task := .attempting } []
  | giveUp {c : Channel} (attempts : Nat) (task : c.task = .consulting attempts)
      (alive : c.state ≠ .closed) :
      TaskMove c (some (.delay none))
        { c with
          state := .closed, published := .closed, buffer := [], outlet := .none,
          task := .reportingExhaustion attempts }
        [.state .closed, .error "reconnect_exhausted"]
  | exhausted {c : Channel} (attempts : Nat) (task : c.task = .reportingExhaustion attempts) :
      TaskMove c (some .done) { c with task := .announcingClose } []
  | crash {c : Channel} (task : c.task.unguarded)
      (idle : c.task = .serving → c.state ≠ .closed ∧ c.queued = []) :
      TaskMove c (some .panicked) c.crash []

theorem queued_of_idle {c : Channel} (task : c.task = .serving) (h : c.idle) :
    c.state ≠ .closed ∧ c.queued = [] := by
  cases hstate : c.state <;> cases houtlet : c.outlet with
  | queue payloads =>
      cases payloads <;> simp_all [idle, proceed, queued]
  | _ => simp_all [idle, proceed, queued]

theorem TaskMove.of_openLink {c : Channel} (task : c.task = .dialing) :
    TaskMove c (some .linked) c.openLink.1 c.openLink.2 := by
  by_cases h : c.state = .closed
  · simpa [openLink, h] using TaskMove.hangUp (.inl task) h
  · simpa [openLink, h] using TaskMove.link task h

theorem TaskMove.of_loseLink_serving {c : Channel} (task : c.task = .serving) (idle : c.idle) :
    TaskMove c (some .ended) c.loseLink.1 c.loseLink.2 := by
  have alive := (queued_of_idle task idle).1
  simpa [loseLink, alive] using TaskMove.lose (.inl ⟨task, rfl⟩) alive

theorem TaskMove.of_loseLink_reporting {c : Channel} {fault : Fault}
    (task : c.task = .reportingLoss fault) :
    TaskMove c (some .done) c.loseLink.1 c.loseLink.2 := by
  by_cases h : c.state = .closed
  · simpa [loseLink, h, Channel.quit] using TaskMove.quit (by simp [task, Task.looksUp]) h
  · simpa [loseLink, h] using TaskMove.lose (.inr ⟨fault, task, rfl⟩) h

theorem TaskMove.of_giveUp {c : Channel} {attempts : Nat}
    (task : c.task = .consulting attempts) :
    TaskMove c (some (.delay none)) (c.giveUp attempts).1 (c.giveUp attempts).2 := by
  by_cases h : c.state = .closed
  · simpa [Channel.giveUp, shut, transition, h, Channel.quit] using
      TaskMove.quit (by simp [task, Task.looksUp]) h
  · simpa [Channel.giveUp, shut, transition, h] using TaskMove.giveUp attempts task h

theorem TaskMove.of_attempt {c : Channel} (task : c.task = .attempting) :
    TaskMove c none c.attempt.1 c.attempt.2 := by
  by_cases h : c.state = .closed
  · simpa [Channel.attempt, transition, h, Channel.quit] using
      TaskMove.quit (by simp [task, Task.looksUp]) h
  · simpa [Channel.attempt, transition, h] using TaskMove.attempt task h

theorem TaskMove.of_consult {c : Channel} (task : c.task = .announcingLoss) :
    TaskMove c (some .done) c.consult [] := by
  by_cases h : c.state = .closed
  · simpa [Channel.consult, h, Channel.quit] using TaskMove.quit (by simp [task, Task.looksUp]) h
  · simpa [Channel.consult, h] using TaskMove.consult task h

theorem TaskMove.of_proceed {c : Channel} {result : Channel × List Reading}
    (h : c.proceed = some result) : TaskMove c none result.1 result.2 := by
  unfold proceed at h
  split at h
  case h_1 task =>
      obtain rfl := Option.some.inj h
      exact .of_attempt task
  case h_2 task closed =>
      obtain rfl := Option.some.inj h
      exact .quit (by simp [task, Task.looksUp]) closed
  case h_3 task closed =>
      obtain rfl := Option.some.inj h
      exact .quit (by simp [task, Task.looksUp]) closed
  case h_4 task closed =>
      obtain rfl := Option.some.inj h
      exact .hangUp (.inr task) closed
  case h_5 payload rest task outlet alive =>
      obtain rfl := Option.some.inj h
      exact .take payload rest task (by simpa using alive) outlet
  case h_6 => cases h

theorem TaskMove.of_answer {c : Channel} {a : Answer} {result : Channel × List Reading}
    (h : c.answer? a = some result) : TaskMove c (some a) result.1 result.2 := by
  unfold answer? at h
  split at h
  case h_1 task =>
      obtain rfl := Option.some.inj h
      exact .of_openLink task
  case h_2 fault task =>
      obtain rfl := Option.some.inj h
      exact .refused fault task
  case h_3 fault task =>
      by_cases closed : c.state = .closed
      · simp only [transition, closed, if_true] at h
        obtain rfl := Option.some.inj h
        exact .quit (by simp [task, Task.looksUp]) closed
      · simp only [transition, closed, if_false] at h
        obtain rfl := Option.some.inj h
        simpa [Channel.consult] using TaskMove.setBack fault task closed
  case h_4 task =>
      obtain rfl := Option.some.inj h
      exact .reset task
  case h_5 task =>
      obtain rfl := Option.some.inj h
      exact .serve task
  case h_6 payload task =>
      split at h
      · obtain rfl := Option.some.inj h
        rename_i idle
        obtain ⟨alive, empty⟩ := queued_of_idle task idle
        exact .receive payload task alive empty
      · cases h
  case h_7 fault task =>
      split at h
      · obtain rfl := Option.some.inj h
        rename_i idle
        obtain ⟨alive, empty⟩ := queued_of_idle task idle
        exact .readFailed fault task alive empty
      · cases h
  case h_8 task =>
      split at h
      · obtain rfl := Option.some.inj h
        rename_i idle
        exact .of_loseLink_serving task idle
      · cases h
  case h_9 payload task =>
      obtain rfl := Option.some.inj h
      exact .wrote payload task
  case h_10 payload fault task =>
      obtain rfl := Option.some.inj h
      exact .writeFailed payload fault task
  case h_11 payload task =>
      obtain rfl := Option.some.inj h
      exact .delivered payload task
  case h_12 fault task =>
      obtain rfl := Option.some.inj h
      exact .of_loseLink_reporting task
  case h_13 task =>
      obtain rfl := Option.some.inj h
      exact .of_consult task
  case h_14 attempts task =>
      obtain rfl := Option.some.inj h
      exact .of_giveUp task
  case h_15 attempts delay task =>
      obtain rfl := Option.some.inj h
      exact .sleep attempts delay task
  case h_16 delay task =>
      split at h
      · obtain rfl := Option.some.inj h
        rename_i closed
        exact .quit (by simp [task, Task.looksUp]) closed
      · obtain rfl := Option.some.inj h
        rename_i alive
        exact .wake delay task alive
  case h_17 attempts task =>
      obtain rfl := Option.some.inj h
      exact .exhausted attempts task
  case h_18 task =>
      obtain rfl := Option.some.inj h
      exact .finish (.inl task)
  case h_19 task =>
      obtain rfl := Option.some.inj h
      exact .finish (.inr task)
  case h_20 task =>
      split at h
      · obtain rfl := Option.some.inj h
        rename_i idle
        exact .crash (by simp [task, Task.unguarded]) fun _ => queued_of_idle task idle
      · cases h
  case h_21 busy =>
      split at h
      · obtain rfl := Option.some.inj h
        rename_i unguarded
        exact .crash unguarded fun serving => absurd serving busy
      · cases h
  case h_22 => cases h

/-! ## Every move -/

inductive Step : Channel → Move → Channel → List Occurrence → Prop where
  | idle {c : Channel} {m : Move} : Step c m c []
  | sendRefused {c : Channel} (payload : String) (closed : c.state = .closed) :
      Step c (.send payload) c [.sent payload (.error .connectionClosed)]
  | sendQueued {c : Channel} (payload : String) (payloads : List String)
      (isOpen : c.state = .open) (outlet : c.outlet = .queue payloads) :
      Step c (.send payload) { c with outlet := .queue (payloads ++ [payload]) }
        [.sent payload (.ok ())]
  | sendBuffered {c : Channel} (payload : String) (alive : c.state ≠ .closed)
      (detached : c.state = .open → ∀ payloads, c.outlet ≠ .queue payloads) :
      Step c (.send payload) { c with buffer := c.buffer ++ [payload] }
        [.sent payload (.ok ()), .recorded .buffered]
  | startRefused {c : Channel} (fault : Fault) (late : c.started ∨ c.state = .closed) :
      Step c .start { c with started := true } [.started (.error fault)]
  | started {c : Channel} (first : c.started = false) (alive : c.state ≠ .closed) :
      Step c .start { c with started := true, task := .attempting } [.started (.ok ())]
  | close {c : Channel} (alive : c.state ≠ .closed) :
      Step c .close
        { c with state := .closed, published := .closed, buffer := [], outlet := .none }
        [.recorded (.state .closed), .announced .close]
  | proceed {c moved : Channel} {readings : List Reading} (h : TaskMove c none moved readings) :
      Step c .proceed moved (moved.arrival readings)
  | answer {c moved : Channel} {a : Answer} {readings : List Reading}
      (h : TaskMove c (some a) moved readings) :
      Step c (.answer a) moved (moved.arrival readings)

theorem send_fst (c : Channel) (payload : String) :
    (c.send payload).1 = if c.state = .closed then .error .connectionClosed else .ok () := by
  unfold Channel.send
  split <;> simp_all

theorem Step.of_send (c : Channel) (payload : String) :
    Step c (.send payload) (c.step (.send payload)).1 (c.step (.send payload)).2 := by
  by_cases closed : c.state = .closed
  · simpa [step, Channel.send, closed] using Step.sendRefused payload closed
  by_cases queue : c.state = .open ∧ ∃ payloads, c.outlet = .queue payloads
  · obtain ⟨isOpen, payloads, outlet⟩ := queue
    simpa [step, Channel.send, isOpen, outlet] using
      Step.sendQueued payload payloads isOpen outlet
  · have detached : c.state = .open → ∀ payloads, c.outlet ≠ .queue payloads :=
      fun isOpen payloads outlet => queue ⟨isOpen, payloads, outlet⟩
    have sent : c.send payload =
        (.ok (), { c with buffer := c.buffer ++ [payload] }, [.buffered]) := by
      unfold Channel.send
      split <;> simp_all
    simpa [step, sent] using Step.sendBuffered payload closed detached

theorem Step.of_start (c : Channel) :
    Step c .start (c.step .start).1 (c.step .start).2 := by
  cases first : c.started with
  | true =>
      have same : { c with started := true } = c := by
        simp [← first]
      simpa [step, Channel.start, first, same] using
        Step.startRefused (.internal "channel already started") (.inl first)
  | false =>
      by_cases closed : c.state = .closed
      · simpa [step, Channel.start, first, closed] using
          Step.startRefused .connectionClosed (.inr closed)
      · simpa [step, Channel.start, first, closed] using Step.started first closed

theorem Step.of_close (c : Channel) :
    Step c .close (c.step .close).1 (c.step .close).2 := by
  by_cases closed : c.state = .closed
  · simpa [step, shut, transition, closed] using Step.idle
  · simpa [step, shut, transition, closed] using Step.close closed

theorem Step.of_step (c : Channel) (m : Move) : Step c m (c.step m).1 (c.step m).2 := by
  cases m with
  | send payload => exact .of_send c payload
  | start => exact .of_start c
  | close => exact .of_close c
  | proceed =>
      cases h : c.proceed with
      | none => simpa [step, advance, h] using Step.idle
      | some result => simpa [step, advance, h] using Step.proceed (.of_proceed h)
  | answer a =>
      cases h : c.answer? a with
      | none => simpa [step, advance, h] using Step.idle
      | some result => simpa [step, advance, h] using Step.answer (.of_answer h)

end DuplexRpc.Channel
