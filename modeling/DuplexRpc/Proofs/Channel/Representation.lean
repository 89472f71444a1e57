import DuplexRpc.Proofs.Channel.Announcements
import DuplexRpc.Proofs.Channel.Conservation

/-!
# The state of a channel and its other parts

What is published of a channel is its state.  The state says whether there is an outlet, where
payloads are kept and whether failures are counted, and it changes along the edges of the
lifecycle only.
-/

namespace DuplexRpc.Channel

open DuplexRpc.Telemetry

/-- The edges of the lifecycle. -/
inductive Lifecycle.Next : Lifecycle → Lifecycle → Prop where
  | link : Next .connecting .open
  | setBack : Next .connecting .disconnected
  | lose : Next .open .disconnected
  | retry : Next .disconnected .connecting
  | close {state : Lifecycle} (alive : state ≠ .closed) : Next state .closed

variable {c moved : Channel} {a : Option Answer} {m : Move} {readings : List Reading}
  {seen : List Occurrence}

/-! ## What is published -/

theorem TaskMove.published (move : TaskMove c a moved readings)
    (published : c.published = c.state) : moved.published = moved.state := by
  cases move with
  | attempt | link | setBack | lose | giveUp => rfl
  | _ => exact published

theorem Step.published (move : Step c m moved seen) (published : c.published = c.state) :
    moved.published = moved.state := by
  cases move with
  | close => rfl
  | proceed move | answer move => exact move.published published
  | _ => exact published

theorem run_published (moves : List Move) :
    (run {} moves).1.published = (run {} moves).1.state :=
  replay_keeps (fun c _ => c.published = c.state)
    (fun c _ m _ published => (Step.of_step c m).published published) rfl

/-! ## Where the task stands -/

/-- The state is one in which the task can stand at its point, or it has been closed since the task
came there. -/
structure Placed (c : Channel) : Prop where
  absent : c.started = false → c.task = .absent
  placed : c.state = .closed ∨ c.state ∈ c.task.states

theorem placed_fresh : Placed {} := ⟨fun _ => rfl, .inr (by simp [Task.states])⟩

namespace Placed

theorem mem_states (h : c.Placed) (alive : c.state ≠ .closed) : c.state ∈ c.task.states :=
  h.placed.resolve_left alive

/-- The task goes on to a point where it can stand whenever it could before. -/
theorem of_task (h : c.Placed) (state : moved.state = c.state)
    (allowed : c.state ≠ .closed → c.state ∈ c.task.states → c.state ∈ moved.task.states) :
    moved.state = .closed ∨ moved.state ∈ moved.task.states := by
  rw [state]
  by_cases closed : c.state = .closed
  · exact .inl closed
  · exact .inr (allowed closed (h.mem_states closed))

theorem task_move (h : c.Placed) (move : TaskMove c a moved readings) : moved.Placed := by
  have started := move.started_eq
  refine ⟨fun first => absurd (h.absent (started ▸ first)) move.present, ?_⟩
  cases move with
  | quit _ closed | hangUp _ closed => exact .inl closed
  | giveUp => exact .inl rfl
  | attempt | link | setBack | lose => exact .inr (by simp [Task.states])
  | finish task =>
      refine h.of_task rfl fun alive possible => ?_
      rcases task with task | task <;> simp [task, Task.states, alive] at possible
  | exhausted _ task =>
      refine h.of_task rfl fun alive possible => ?_
      simp [task, Task.states, alive] at possible
  | wake delay task alive =>
      refine h.of_task rfl fun _ possible => ?_
      have state : c.state = .disconnected := by
        simpa [task, Task.states, alive] using possible
      simp [state, Task.states]
  | crash task =>
      refine h.of_task rfl fun _ _ => ?_
      cases state : c.state <;> simp [crash, Task.states]
  | refused _ task | reset task | serve task | take _ _ task | receive _ task
  | readFailed _ task | wrote _ task | writeFailed _ _ task | delivered _ task
  | consult task | sleep _ _ task =>
      refine h.of_task rfl fun alive possible => ?_
      simpa [task, Task.states, alive] using possible

theorem step (h : c.Placed) (move : Step c m moved seen) : moved.Placed := by
  cases move with
  | close => exact ⟨h.absent, .inl rfl⟩
  | startRefused => exact ⟨by simp, h.placed⟩
  | started first alive =>
      have state : c.state = .connecting := by
        simpa [h.absent first, Task.states, alive] using h.mem_states alive
      exact ⟨by simp, .inr (by simp [state, Task.states])⟩
  | proceed move | answer move => exact h.task_move move
  | idle | sendRefused | sendQueued | sendBuffered => exact ⟨h.absent, h.placed⟩

end Placed

theorem run_placed (moves : List Move) : (run {} moves).1.Placed :=
  replay_keeps (fun c _ => Placed c) (fun c _ m _ h => h.step (.of_step c m)) placed_fresh

/-! ## The changes of the state -/

theorem TaskMove.next (move : TaskMove c a moved readings) (h : c.Placed) :
    moved.state = c.state ∨ Lifecycle.Next c.state moved.state := by
  cases move with
  | attempt task alive =>
      have state : c.state = .connecting ∨ c.state = .disconnected := by
        simpa [task, Task.states, alive] using h.mem_states alive
      rcases state with state | state
      · exact .inl state.symm
      · exact .inr (state ▸ .retry)
  | link task alive =>
      have state : c.state = .connecting := by
        simpa [task, Task.states, alive] using h.mem_states alive
      exact .inr (state ▸ .link)
  | setBack fault task alive =>
      have state : c.state = .connecting := by
        simpa [task, Task.states, alive] using h.mem_states alive
      exact .inr (state ▸ .setBack)
  | lose task alive =>
      have state : c.state = .open := by
        rcases task with ⟨task, -⟩ | ⟨_, task, -⟩ <;>
          simpa [task, Task.states, alive] using h.mem_states alive
      exact .inr (state ▸ .lose)
  | giveUp attempts task alive => exact .inr (.close alive)
  | _ => exact .inl rfl

theorem Step.next (move : Step c m moved seen) (h : c.Placed) :
    moved.state = c.state ∨ Lifecycle.Next c.state moved.state := by
  cases move with
  | close alive => exact .inr (.close alive)
  | proceed move | answer move => exact move.next h
  | _ => exact .inl rfl

/-! ## Every run -/

/-- There is an outlet exactly while a channel is open; then the task takes from its queue, nothing
is buffered and no failure is counted.  Nothing is buffered in a closed channel, those who wait see
its state, and the next move leaves the state as it is or follows an edge of the lifecycle. -/
theorem parts_follow_state (moves : List Move) (calm : .answer .panicked ∉ moves) :
    let c := (run {} moves).1
    (c.outlet ≠ .none ↔ c.state = .open) ∧
    (c.state = .open →
      c.buffer = [] ∧ c.attempts = 0 ∧ c.task.serves ∧ ∃ payloads, c.outlet = .queue payloads) ∧
    (c.state = .closed → c.buffer = []) ∧
    c.published = c.state ∧
    ∀ m, (c.step m).1.state = c.state ∨ Lifecycle.Next c.state (c.step m).1.state := by
  intro c
  have consistent : c.Consistent := (run_conserved calm).consistent
  refine ⟨⟨fun outlet => ?_, fun isOpen outlet => ?_⟩, fun isOpen => ?_, fun closed => ?_,
    run_published moves, fun m => (Step.of_step c m).next (run_placed moves)⟩
  · by_contra state
    exact outlet (consistent.detached state)
  · obtain ⟨payloads, queue⟩ := consistent.attached isOpen
    cases queue.symm.trans outlet
  · exact ⟨consistent.unbuffered isOpen, consistent.successful isOpen, consistent.served isOpen,
      consistent.attached isOpen⟩
  · exact (run_emptyIfClosed moves closed).1

/-- A second link, opened with what was sent while there was none. -/
theorem parts_follow_state_second_link :
    let moves := [.start, .proceed, .answer .linked, .answer .done, .answer .done,
      .answer .ended, .send "a", .answer .done, .answer (.delay (some 1)), .answer .elapsed,
      .proceed, .answer .linked]
    let c := (run {} moves).1
    .answer .panicked ∉ moves ∧ c.state = .open ∧ c.outlet = .queue ["a"] ∧ c.buffer = [] ∧
      c.attempts = 0 ∧ c.published = .open ∧
      Lifecycle.Next c.state (c.step .close).1.state := by
  intro moves c
  have calm : .answer .panicked ∉ moves := by simp [moves]
  have state : c.state = .open := rfl
  obtain ⟨-, opened, -, published, changes⟩ := parts_follow_state moves calm
  obtain ⟨unbuffered, successful, -, -⟩ := opened state
  refine ⟨calm, state, rfl, unbuffered, successful, published.trans state, ?_⟩
  rcases changes .close with same | next
  · cases same
  · exact next

end DuplexRpc.Channel
