import DuplexRpc.Proofs.Channel.TaskMove

/-!
# How the parts of a channel hang together

While the connection task has not panicked, a channel is open exactly as long as the task serves a
link and there is a queue for it.  Then nothing is buffered and no failure is counted.
-/

namespace DuplexRpc.Channel

open DuplexRpc.Telemetry

/-- The task has a link in service. -/
def Task.serves : Task → Bool
  | .resetting | .announcingOpen | .serving | .writing _ | .delivering _ | .reportingLoss _ => true
  | _ => false

structure Consistent (c : Channel) : Prop where
  absent : c.started = false → c.task = .absent
  served : c.state = .open → c.task.serves
  attached : c.state = .open → ∃ payloads, c.outlet = .queue payloads
  unbuffered : c.state = .open → c.buffer = []
  successful : c.state = .open → c.attempts = 0
  detached : c.state ≠ .open → c.outlet = .none

theorem consistent_fresh : Consistent {} := by
  constructor <;> simp

theorem TaskMove.present {c moved : Channel} {a : Option Answer} {readings : List Reading}
    (move : TaskMove c a moved readings) : c.task ≠ .absent := by
  intro absent
  cases move <;> simp_all [Task.looksUp, Task.unguarded]

theorem TaskMove.started_eq {c moved : Channel} {a : Option Answer} {readings : List Reading}
    (move : TaskMove c a moved readings) : moved.started = c.started := by
  cases move <;> rfl

namespace Consistent

variable {c moved : Channel} {seen : List Occurrence} {readings : List Reading}

theorem not_open (h : c.Consistent) (idle : c.task.serves = false) : c.state ≠ .open := by
  intro isOpen
  have serves := h.served isOpen
  rw [idle] at serves
  contradiction

theorem of_detached (absent : moved.started = false → moved.task = .absent)
    (state : moved.state ≠ .open) (outlet : moved.outlet = .none) : moved.Consistent where
  absent := absent
  served isOpen := absurd isOpen state
  attached isOpen := absurd isOpen state
  unbuffered isOpen := absurd isOpen state
  successful isOpen := absurd isOpen state
  detached _ := outlet

theorem task_move {a : Option Answer} (h : c.Consistent) (calm : a ≠ some .panicked)
    (move : TaskMove c a moved readings) : moved.Consistent := by
  have absent : moved.started = false → moved.task = .absent := fun first =>
    absurd (h.absent (move.started_eq ▸ first)) move.present
  cases move with
  | quit task closed =>
      exact .of_detached absent (by simp [closed]) (h.detached (by simp [closed]))
  | hangUp task closed =>
      exact .of_detached absent (by simp [closed]) (h.detached (by simp [closed]))
  | finish task =>
      have state : c.state ≠ .open := by
        rcases task with task | task <;> exact h.not_open (by simp [task, Task.serves])
      exact .of_detached absent state (h.detached state)
  | attempt task alive =>
      have state : c.state ≠ .open := h.not_open (by simp [task, Task.serves])
      exact .of_detached absent (by simp) (h.detached state)
  | link task alive =>
      exact ⟨absent, fun _ => rfl, fun _ => ⟨c.buffer, rfl⟩, fun _ => rfl, fun _ => rfl, by simp⟩
  | setBack fault task alive =>
      have state : c.state ≠ .open := h.not_open (by simp [task, Task.serves])
      exact .of_detached absent (by simp) (h.detached state)
  | take payload rest task alive outlet =>
      exact ⟨absent, fun _ => rfl, fun _ => ⟨rest, rfl⟩, h.unbuffered, h.successful, by
        intro state
        simp [h.detached state] at outlet⟩
  | lose task alive => exact .of_detached absent (by simp) rfl
  | giveUp attempts task alive => exact .of_detached absent (by simp) rfl
  | wake delay task alive =>
      have state : c.state ≠ .open := h.not_open (by simp [task, Task.serves])
      exact .of_detached absent state (h.detached state)
  | crash task => contradiction
  | reset task | serve task | receive payload task _ _ | readFailed fault task _ _
  | wrote payload task | writeFailed payload fault task | delivered payload task =>
      exact ⟨absent, fun _ => rfl, h.attached, h.unbuffered, h.successful, h.detached⟩
  | refused fault task | consult task _ | sleep attempts delay task
  | exhausted attempts task =>
      have state : c.state ≠ .open := h.not_open (by simp [task, Task.serves])
      exact .of_detached absent state (h.detached state)

theorem step {m : Move} (h : c.Consistent) (calm : m ≠ .answer .panicked)
    (move : Step c m moved seen) : moved.Consistent := by
  cases move with
  | idle => exact h
  | sendRefused payload closed => exact h
  | sendQueued payload payloads isOpen outlet =>
      exact ⟨h.absent, h.served, fun _ => ⟨_, rfl⟩, h.unbuffered, h.successful,
        fun state => absurd isOpen state⟩
  | sendBuffered payload alive detached =>
      have state : c.state ≠ .open := by
        intro isOpen
        obtain ⟨payloads, outlet⟩ := h.attached isOpen
        exact detached isOpen payloads outlet
      exact .of_detached h.absent state (h.detached state)
  | startRefused fault late =>
      exact ⟨by simp, h.served, h.attached, h.unbuffered, h.successful, h.detached⟩
  | started first alive =>
      have state : c.state ≠ .open := h.not_open (by simp [h.absent first, Task.serves])
      exact .of_detached (by simp) state (h.detached state)
  | close alive => exact .of_detached h.absent (by simp) rfl
  | proceed move => exact h.task_move (by simp) move
  | answer move =>
      refine h.task_move ?_ move
      rintro ⟨rfl⟩
      exact calm rfl

end Consistent
end DuplexRpc.Channel
