import DuplexRpc.Proofs.Channel.TaskMove

/-!
# Links

What a step of a channel is to its links: whether it opens one, loses one or ends the reading of
one, and when it hands a payload over.
-/

namespace DuplexRpc.Channel

open DuplexRpc.Telemetry

/-- The task has a link that it may still read. -/
def Task.listens : Task → Bool
  | .resetting | .announcingOpen | .serving | .writing _ | .delivering _ => true
  | _ => false

/-- The task has announced its link and may still read it. -/
def Task.connected : Task → Bool
  | .announcingOpen | .serving | .writing _ | .delivering _ => true
  | _ => false

/-- The task may still open a link, and every earlier one is lost. -/
def Task.unlinked : Task → Bool
  | .absent | .attempting | .dialing | .reportingRefusal _ | .announcingLoss | .consulting _
  | .sleeping _ => true
  | _ => false

/-- The channel is told what its link yields. -/
def Move.reads : Move → Bool
  | .answer (.received _) | .answer (.readFailed _) | .answer .ended => true
  | _ => false

def Occurrence.opens : Occurrence → Bool
  | .entered .resetting => true
  | _ => false

def Occurrence.delivering? : Occurrence → Option String
  | .entered (.delivering text) => some text
  | _ => none

variable {c moved : Channel} {m : Move} {a : Option Answer} {readings : List Reading}
  {seen : List Occurrence}

/-! ## The connection task -/

namespace TaskMove

theorem listens (move : TaskMove c a moved readings) (later : moved.task.listens) :
    c.task.listens ∧ moved.task ≠ .resetting ∨ c.task = .dialing ∧ moved.task = .resetting := by
  cases move with
  | link task alive => exact .inr ⟨task, rfl⟩
  | reset task | serve task | take _ _ task | receive _ task | wrote _ task | delivered _ task =>
      simp [task, Task.listens]
  | _ => cases later

theorem connected (move : TaskMove c a moved readings) (later : moved.task.connected) :
    c.task.connected ∨ moved.task = .announcingOpen := by
  cases move with
  | reset task => exact .inr rfl
  | serve task | take _ _ task | receive _ task | wrote _ task | delivered _ task =>
      simp [task, Task.connected]
  | _ => cases later

theorem unlinked (move : TaskMove c a moved readings) (later : moved.task.unlinked) :
    c.task.unlinked ∨ moved.task = .announcingLoss := by
  cases move with
  | lose task alive => exact .inr rfl
  | attempt task | refused _ task | setBack _ task | consult task | sleep _ _ task | wake _ task =>
      simp [task, Task.unlinked]
  | _ => cases later

theorem closes (move : TaskMove c a moved readings) (closes : .state .closed ∈ readings) :
    moved.state = .closed := by
  cases move with
  | giveUp attempts task alive => rfl
  | attempt task alive => split at closes <;> simp at closes
  | reset task => split at closes <;> simp at closes
  | _ => simp at closes

/-- The task delivers only what was received, on a link of an open channel. -/
theorem delivers (move : TaskMove c a moved readings) {text : String}
    (delivers : moved.task = .delivering text) :
    a = some (.received text) ∧ c.task = .serving ∧ c.state ≠ .closed := by
  cases move with
  | receive payload task alive => exact ⟨by simpa using delivers, task, alive⟩
  | _ => cases delivers

theorem uncrashed (move : TaskMove c a moved readings) : c.task ≠ .crashed := by
  intro crashed
  cases move <;> simp_all [Task.looksUp, Task.unguarded]

end TaskMove

/-! ## What a step shows -/

theorem countP_opens_arrival (c : Channel) (readings : List Reading) :
    (c.arrival readings).countP Occurrence.opens = if c.task matches .resetting then 1 else 0 := by
  have silent : (readings.map Occurrence.recorded).countP Occurrence.opens = 0 := by
    simp [Occurrence.opens]
  cases task : c.task <;> simp [arrival, Occurrence.opens, announcement?, task, silent]

theorem delivering_arrival (c : Channel) (readings : List Reading) :
    (c.arrival readings).filterMap Occurrence.delivering? =
      match c.task with
      | .delivering text => [text]
      | _ => [] := by
  have silent : (readings.map Occurrence.recorded).filterMap Occurrence.delivering? = [] := by
    simp [Occurrence.delivering?]
  cases task : c.task <;>
    simp [arrival, Occurrence.delivering?, announcement?, task, silent]

/-- What a step is to the links: it opens one, it loses one, or it leaves them as they are. -/
inductive Passes (c moved : Channel) (seen : List Occurrence) : Prop where
  | opens (before : c.task = .dialing) (after : moved.task = .resetting)
      (counted : seen.countP Occurrence.opens = 1) (quiet : .announced .disconnect ∉ seen)
  | loses (after : moved.task = .announcingLoss) (uncounted : seen.countP Occurrence.opens = 0)
      (announced : .announced .disconnect ∈ seen)
  | keeps (uncounted : seen.countP Occurrence.opens = 0) (quiet : .announced .disconnect ∉ seen)
      (listens : moved.task.listens → c.task.listens)
      (unlinked : moved.task.unlinked → c.task.unlinked)
      (connected : moved.task.connected → c.task.connected ∨ .announced .connect ∈ seen)

theorem announced_mem_arrival (c : Channel) (readings : List Reading) (event : Event) :
    .announced event ∈ c.arrival readings ↔ c.announcement? = some event := by
  simp [arrival, eq_comm]

theorem announcement?_eq_disconnect (c : Channel) :
    c.announcement? = some .disconnect ↔ c.task = .announcingLoss := by
  cases task : c.task <;> simp [announcement?, task]

theorem TaskMove.passes (move : TaskMove c a moved readings) :
    Passes c moved (moved.arrival readings) := by
  by_cases opens : moved.task = .resetting
  · have before : c.task = .dialing := by
      rcases move.listens (by simp [opens, Task.listens]) with ⟨-, other⟩ | ⟨before, -⟩
      · exact absurd opens other
      · exact before
    refine .opens before opens ?_ ?_
    · simp [countP_opens_arrival, opens]
    · simp [announced_mem_arrival, announcement?_eq_disconnect, opens]
  have uncounted : (moved.arrival readings).countP Occurrence.opens = 0 := by
    rw [countP_opens_arrival]
    cases task : moved.task <;> simp_all
  by_cases loses : moved.task = .announcingLoss
  · refine .loses loses uncounted ?_
    rw [announced_mem_arrival, announcement?_eq_disconnect]
    exact loses
  · refine .keeps uncounted ?_ ?_ ?_ ?_
    · rwa [announced_mem_arrival, announcement?_eq_disconnect]
    · intro later
      rcases move.listens later with ⟨before, -⟩ | ⟨-, after⟩
      · exact before
      · exact absurd after opens
    · exact fun later => (move.unlinked later).resolve_right loses
    · intro later
      rcases move.connected later with before | after
      · exact .inl before
      · exact .inr (by simp [announced_mem_arrival, announcement?, after])

theorem Step.passes (absent : c.started = false → c.task = .absent) (move : Step c m moved seen) :
    Passes c moved seen := by
  cases move with
  | proceed move | answer move => exact move.passes
  | started first =>
      refine .keeps rfl (by simp) nofun (fun _ => ?_) nofun
      simp [absent first, Task.unlinked]
  | _ => exact .keeps rfl (by simp) id id .inl

theorem Step.closes (move : Step c m moved seen) (closes : .recorded (.state .closed) ∈ seen) :
    moved.state = .closed := by
  cases move with
  | proceed move | answer move => exact move.closes (by simpa [arrival] using closes)
  | close alive => rfl
  | _ => simp at closes

theorem Step.crashed (absent : c.started = false → c.task = .absent) (crashed : c.task = .crashed)
    (move : Step c m moved seen) :
    moved.task = .crashed ∧ .announced .disconnect ∉ seen := by
  cases move with
  | proceed move | answer move => exact absurd crashed move.uncrashed
  | started first => cases (absent first).symm.trans crashed
  | _ => exact ⟨crashed, by simp⟩

/-- What ends the reading of a link. -/
theorem TaskMove.leaves (move : TaskMove c a moved readings) (listens : c.task.listens)
    (ended : moved.task.listens = false) :
    (∃ answer, a = some answer ∧ (Move.answer answer).reads) ∨
      .recorded (.error "write") ∈ moved.arrival readings ∨
      (.entered .hangingUp ∈ moved.arrival readings ∧ moved.state = .closed) ∨
      moved.task = .crashed := by
  cases move with
  | readFailed fault task => exact .inl ⟨_, rfl, rfl⟩
  | lose task alive =>
      rcases task with ⟨task, rfl⟩ | ⟨fault, task, -⟩
      · exact .inl ⟨_, rfl, rfl⟩
      · simp [task, Task.listens] at listens
  | writeFailed payload fault task => simp [arrival]
  | hangUp task closed => exact .inr (.inr (.inl ⟨by simp, closed⟩))
  | crash task => exact .inr (.inr (.inr rfl))
  | quit task closed => cases point : c.task <;> simp_all [Task.looksUp, Task.listens]
  | finish task => rcases task with task | task <;> simp [task, Task.listens] at listens
  | reset task | serve task | take _ _ task | receive _ task | wrote _ task | delivered _ task
  | link task =>
      cases ended
  | attempt task | refused _ task | setBack _ task | consult task | sleep _ _ task | wake _ task
  | giveUp _ task | exhausted _ task =>
      simp [task, Task.listens] at listens

theorem Step.leaves (absent : c.started = false → c.task = .absent) (listens : c.task.listens)
    (ended : moved.task.listens = false) (move : Step c m moved seen) :
    m.reads = true ∨ .recorded (.error "write") ∈ seen ∨
      (.entered .hangingUp ∈ seen ∧ moved.state = .closed) ∨ moved.task = .crashed := by
  cases move with
  | proceed move =>
      rcases move.leaves listens ended with ⟨answer, same, -⟩ | cut
      · cases same
      · exact .inr cut
  | answer move =>
      rcases move.leaves listens ended with ⟨answer, same, reads⟩ | cut
      · cases same
        exact .inl reads
      · exact .inr cut
  | started first => simp [absent first, Task.listens] at listens
  | _ => cases listens.symm.trans ended

/-- Nothing is handed over but what a link was read for. -/
theorem Step.delivers_nothing (move : Step c m moved seen) (other : m.reads = false) :
    seen.filterMap Occurrence.delivering? = [] := by
  cases move with
  | proceed move =>
      rw [delivering_arrival]
      split
      · rename_i text delivers
        cases (move.delivers delivers).1
      · rfl
  | answer move =>
      rw [delivering_arrival]
      split
      · rename_i text delivers
        cases (move.delivers delivers).1
        cases other
      · rfl
  | _ => simp [Occurrence.delivering?]

theorem Step.serving_of_delivering (move : Step c m moved seen) {text : String}
    (delivers : .entered (.delivering text) ∈ seen) :
    c.task = .serving ∧ c.state ≠ .closed ∧ seen.countP Occurrence.opens = 0 := by
  cases move with
  | proceed move | answer move =>
      have after : moved.task = .delivering text := by simpa [eq_comm] using delivers
      obtain ⟨-, serving, alive⟩ := move.delivers after
      exact ⟨serving, alive, by simp [countP_opens_arrival, after]⟩
  | _ => simp at delivers

end DuplexRpc.Channel
