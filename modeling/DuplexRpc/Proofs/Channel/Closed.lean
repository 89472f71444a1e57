import DuplexRpc.Proofs.Channel.TaskMove

/-!
# Closed channels

A channel that was closed stays closed, whoever closed it and whatever the connection task was
about to do.  Its closing is announced once: by the owner that closed it, or by the task after it
announced that the strategy gave up.
-/

namespace DuplexRpc.Channel

open DuplexRpc.Telemetry

variable {c moved : Channel} {seen : List Occurrence} {m : Move}

theorem Step.alive (alive : moved.state ≠ .closed) (move : Step c m moved seen) :
    c.state ≠ .closed := by
  cases move with
  | proceed move | answer move => cases move <;> assumption
  | _ => assumption

theorem Step.closed (closed : c.state = .closed) (move : Step c m moved seen) :
    moved.state = .closed :=
  Decidable.byContradiction fun alive => move.alive alive closed

/-! ## Nothing is left -/

def EmptyIfClosed (c : Channel) : Prop :=
  c.state = .closed → c.buffer = [] ∧ c.outlet = .none

theorem EmptyIfClosed.task_move {a : Option Answer} {readings : List Reading}
    (h : c.EmptyIfClosed) (move : TaskMove c a moved readings) : moved.EmptyIfClosed := by
  intro closed
  cases move with
  | crash task =>
      obtain ⟨buffer, outlet⟩ := h closed
      exact ⟨buffer, by simp [crash, outlet]⟩
  | giveUp attempts task alive => exact ⟨rfl, rfl⟩
  | take payload rest task alive outlet => exact absurd closed alive
  | attempt _ _ | link _ _ | setBack _ _ _ | lose _ _ => cases closed
  | _ => exact h closed

theorem EmptyIfClosed.step (h : c.EmptyIfClosed) (move : Step c m moved seen) :
    moved.EmptyIfClosed := by
  cases move with
  | sendQueued payload payloads isOpen outlet =>
      intro closed
      cases closed.symm.trans isOpen
  | sendBuffered payload alive detached => exact fun closed => absurd closed alive
  | close alive => exact fun _ => ⟨rfl, rfl⟩
  | proceed move | answer move => exact h.task_move move
  | idle | sendRefused payload closed => exact h
  | startRefused fault late | started first alive => exact h

theorem run_emptyIfClosed (moves : List Move) : (run {} moves).1.EmptyIfClosed :=
  replay_keeps (fun c _ => EmptyIfClosed c) (fun c _ m _ h => h.step (.of_step c m)) nofun

/-! ## Nothing starts again -/

/-- From one closed channel to a later one: what is fixed, and what did not happen between. -/
structure Inert (c moved : Channel) (seen : List Occurrence) : Prop where
  state : moved.state = .closed
  buffer : moved.buffer = []
  outlet : moved.outlet = .none
  attempts : moved.attempts = c.attempts
  unattempted : .entered .dialing ∉ seen
  undelivered : ∀ payload, .entered (.delivering payload) ∉ seen
  unaccepted : accepted seen = []
  untaken : taken seen = []

theorem Inert.refl (closed : c.state = .closed) (empty : c.EmptyIfClosed) : Inert c c [] where
  state := closed
  buffer := (empty closed).1
  outlet := (empty closed).2
  attempts := rfl
  unattempted := by simp
  undelivered := by simp
  unaccepted := rfl
  untaken := rfl

theorem Inert.trans {later : Channel} {more : List Occurrence} (first : Inert c moved seen)
    (second : Inert moved later more) : Inert c later (seen ++ more) where
  state := second.state
  buffer := second.buffer
  outlet := second.outlet
  attempts := second.attempts.trans first.attempts
  unattempted := by simp [first.unattempted, second.unattempted]
  undelivered := by simp [first.undelivered, second.undelivered]
  unaccepted := by simp [first.unaccepted, second.unaccepted]
  untaken := by simp [first.untaken, second.untaken]

/-- The task moves on without touching the channel, to a point where nothing starts. -/
theorem Inert.of_task {readings : List Reading} (task : Task) (closed : c.state = .closed)
    (empty : c.EmptyIfClosed) (undialed : task ≠ .dialing)
    (undelivered : ∀ payload, task ≠ .delivering payload) (unwritten : task.holding = []) :
    Inert c { c with task } ({ c with task }.arrival readings) where
  state := closed
  buffer := (empty closed).1
  outlet := (empty closed).2
  attempts := rfl
  unattempted := by simpa using undialed.symm
  undelivered payload := by simpa using (undelivered payload).symm
  unaccepted := by simp
  untaken := by simpa using unwritten

theorem Inert.task_move {a : Option Answer} {readings : List Reading}
    (closed : c.state = .closed) (empty : c.EmptyIfClosed)
    (move : TaskMove c a moved readings) : Inert c moved (moved.arrival readings) := by
  cases move with
  | attempt _ alive | link _ alive | setBack _ _ alive | take _ _ _ alive _
  | receive _ _ alive _ | readFailed _ _ alive _ | lose _ alive | consult _ alive
  | wake _ _ alive | giveUp _ _ alive => exact absurd closed alive
  | reset task =>
      obtain ⟨buffer, outlet⟩ := empty closed
      exact ⟨closed, buffer, outlet, rfl, by simp, by simp, by simp, by simp [Task.holding]⟩
  | crash task =>
      have same : c.crash = { c with task := .crashed } := by
        simp [crash, (empty closed).2]
      rw [same]
      exact .of_task .crashed closed empty (by simp) (by simp) rfl
  | _ => exact .of_task _ closed empty (by simp) (by simp) rfl

theorem Inert.step (closed : c.state = .closed) (empty : c.EmptyIfClosed)
    (move : Step c m moved seen) : Inert c moved seen := by
  obtain ⟨state, buffer, outlet, attempts, -, -, -, -⟩ := Inert.refl closed empty
  cases move with
  | idle => exact .refl closed empty
  | sendRefused payload _ =>
      exact ⟨state, buffer, outlet, attempts, by simp, by simp, rfl, rfl⟩
  | startRefused fault _ =>
      exact ⟨state, buffer, outlet, attempts, by simp, by simp, rfl, rfl⟩
  | sendQueued payload payloads isOpen _ => cases closed.symm.trans isOpen
  | sendBuffered _ alive _ | started _ alive | close alive => exact absurd closed alive
  | proceed move | answer move => exact .task_move closed empty move

theorem Inert.run (closed : c.state = .closed) (empty : c.EmptyIfClosed)
    (moves : List Move) : Inert c (c.run moves).1 (c.run moves).2 := by
  refine replay_keeps (fun moved seen => Inert c moved seen) ?_ (.refl closed empty)
  intro moved seen m _ h
  have empty : moved.EmptyIfClosed := fun _ => ⟨h.buffer, h.outlet⟩
  exact h.trans (.step h.state empty (.of_step moved m))

/-! ## The closing is announced once -/

/-- How many announcements of its closing the task still has to make. -/
def Task.owing : Task → Nat
  | .reportingExhaustion _ => 1
  | _ => 0

def Lifecycle.due (state : Lifecycle) : Nat := if state = .closed then 1 else 0

/-- After so many announcements of its closing, a closed channel had one or its task still has to
make it; any other channel had none. -/
def Announced (c : Channel) (announcements : Nat) : Prop :=
  announcements + c.task.owing = c.state.due

theorem announced_fresh : Announced {} 0 := rfl

theorem Announced.task_move {a : Option Answer} {readings : List Reading} {announcements : Nat}
    (h : c.Announced announcements) (move : TaskMove c a moved readings) :
    moved.Announced (announcements + closings (moved.arrival readings)) := by
  simp only [Announced, closings_arrival] at h ⊢
  cases move with
  | quit task closed =>
      -- A task that owes an announcement makes it before it looks at the state again.
      have paid : c.task.owing = 0 := by
        cases point : c.task <;> simp_all [Task.looksUp, Task.owing]
      rw [paid] at h
      simpa [Task.owing] using h
  | hangUp task closed =>
      rcases task with task | task <;> simpa [task, Task.owing] using h
  | finish task =>
      rcases task with task | task <;> simpa [task, Task.owing] using h
  | giveUp attempts task alive =>
      have silent : announcements = 0 := by
        simpa [task, Task.owing, Lifecycle.due, alive] using h
      simp [silent, Task.owing, Lifecycle.due]
  | attempt task alive | setBack _ task alive =>
      simpa [task, Task.owing, Lifecycle.due, alive] using h
  | link task alive => simpa [task, Task.owing, Lifecycle.due, alive] using h
  | lose task alive =>
      rcases task with ⟨task, -⟩ | ⟨_, task, -⟩ <;>
        simpa [task, Task.owing, Lifecycle.due, alive] using h
  | crash task =>
      have paid : c.task.owing = 0 := by
        cases point : c.task <;> simp_all [Task.unguarded, Task.owing]
      rw [paid] at h
      simpa [crash, Task.owing] using h
  | refused _ task | reset task | serve task | take _ _ task _ _ | receive _ task _ _
  | readFailed _ task _ _ | wrote _ task | writeFailed _ _ task | delivered _ task
  | consult task _ | sleep _ _ task | wake _ task _ | exhausted _ task =>
      simpa [task, Task.owing] using h

theorem Announced.step {announcements : Nat} (h : c.Announced announcements)
    (move : Step c m moved seen) : moved.Announced (announcements + closings seen) := by
  cases move with
  | idle => simpa using h
  | sendRefused | sendQueued | sendBuffered | startRefused =>
      simpa [Announced, Occurrence.closes] using h
  | started first alive =>
      have silent : announcements = 0 ∧ c.task.owing = 0 := by
        simpa [Announced, Lifecycle.due, alive] using h
      simp [Announced, Lifecycle.due, alive, Task.owing, silent, Occurrence.closes]
  | close alive =>
      have silent : announcements = 0 ∧ c.task.owing = 0 := by
        simpa [Announced, Lifecycle.due, alive] using h
      simp [Announced, Lifecycle.due, silent, Occurrence.closes]
  | proceed move | answer move => exact h.task_move move

theorem run_announced (moves : List Move) :
    (run {} moves).1.Announced (closings (run {} moves).2) := by
  refine replay_keeps (fun (c : Channel) seen => c.Announced (closings seen)) ?_ announced_fresh
  intro c seen m _ h
  rw [closings_append]
  exact h.step (.of_step c m)

/-! ## Closed for good -/

/-- Once its state is closed a channel takes nothing, starts nothing and announces its closing
exactly once.  The announcement follows the report that the strategy gave up, if that is what
closed the channel. -/
theorem closed_for_good (before after : List Move) (closed : (run {} before).1.state = .closed) :
    let c := (run {} before).1
    let ended := (c.run after).1
    let seen := (run {} (before ++ after)).2
    Inert c ended (c.run after).2 ∧
    (∀ payload, ended.send payload = (.error .connectionClosed, ended, [])) ∧
    (∃ fault, ended.start.1 = .error fault) ∧
    (closings seen = 1 ∨
      closings seen = 0 ∧ (∃ attempts, ended.task = .reportingExhaustion attempts) ∧
        closings (ended.step (.answer .done)).2 = 1) := by
  intro c ended seen
  have inert : Inert c ended (c.run after).2 := .run closed (run_emptyIfClosed before) after
  have whole : run {} (before ++ after) = (ended, (run {} before).2 ++ (c.run after).2) :=
    replay_append step {} before after
  refine ⟨inert, ?refused, ?unstartable, ?announced⟩
  case refused =>
      intro payload
      simp [Channel.send, inert.state]
  case unstartable =>
      cases first : ended.started <;> simp [Channel.start, first, inert.state]
  case announced =>
      have balance : closings seen + ended.task.owing = 1 := by
        have announced := run_announced (before ++ after)
        simpa [Announced, whole, Lifecycle.due, inert.state, seen] using announced
      cases task : ended.task with
      | reportingExhaustion attempts =>
          have silent : closings seen = 0 := by
            simpa [task, Task.owing] using balance
          refine .inr ⟨silent, ⟨attempts, rfl⟩, ?_⟩
          simp [step, advance, answer?, task]
      | _ => exact .inl (by simpa [task, Task.owing] using balance)

/-- A channel that is closed while an attempt is on its way, and the link that this attempt
gives. -/
theorem closed_while_dialing :
    let before := [.send "a", .start, .proceed, .close]
    let after := [.answer .linked, .answer .done, .answer (.received "b"), .start, .close]
    let ended := ((run {} before).1.run after).1
    (run {} before).1.state = .closed ∧ ended.state = .closed ∧
      (ended.send "c").1 = .error .connectionClosed ∧
      closings (run {} (before ++ after)).2 = 1 := by
  intro before after ended
  have closed : (run {} before).1.state = .closed := rfl
  obtain ⟨inert, refused, -, announced⟩ := closed_for_good before after closed
  refine ⟨closed, inert.state, by rw [refused], ?_⟩
  rcases announced with once | ⟨silent, -, -⟩
  · exact once
  · exact absurd silent (by decide)

end DuplexRpc.Channel
