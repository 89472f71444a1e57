import DuplexRpc.Backoff
import DuplexRpc.Proofs.Channel.Representation

/-!
# Retries

What a run shows of its retries is a list of turns: attempts and what came of them, the loss of
links, what the strategy was asked and what it answered, and delays.  Each turn carries the number
of failures since the channel was last open.  Few turns can follow each other, and the task stands
where the last one left it, so the list says when the strategy is asked, with which number, and
what its answer leads to.
-/

namespace DuplexRpc.Channel

open DuplexRpc.Backoff DuplexRpc.Telemetry

inductive Mark where
  | dialed
  /-- An attempt was refused, or a link was lost. -/
  | failed
  /-- A link opened, and the strategy is told. -/
  | opened
  | consulted (attempt : Nat)
  | slept (delay : Nat)
  | woke
  | gaveUp (attempts : Nat)

def Task.mark? : Task → Option Mark
  | .attempting => some .woke
  | .dialing => some .dialed
  | .reportingRefusal _ | .announcingLoss => some .failed
  | .resetting => some .opened
  | .consulting attempt => some (.consulted attempt)
  | .sleeping delay => some (.slept delay)
  | .reportingExhaustion attempts => some (.gaveUp attempts)
  | _ => none

def Occurrence.mark? : Occurrence → Option Mark
  | .entered task => task.mark?
  | _ => none

def marks (seen : List Occurrence) : List Mark := seen.filterMap Occurrence.mark?

structure Turn where
  mark : Mark
  /-- Failures since the channel was last open, this turn included. -/
  failures : Nat

/-- A channel begins as if it had waited. -/
def Turn.start : Turn := ⟨.woke, 0⟩

def Turn.advance (t : Turn) : Mark → Turn
  | .failed => ⟨.failed, t.failures + 1⟩
  | .opened => ⟨.opened, 0⟩
  | mark => ⟨mark, t.failures⟩

def Turn.follow (t : Turn) : List Mark → List Turn
  | [] => []
  | mark :: marks => t.advance mark :: (t.advance mark).follow marks

def turns (seen : List Occurrence) : List Turn := Turn.start.follow (marks seen)

/-- What a turn leads to, if `advice attempt` tells which delays the strategy may answer. -/
inductive Turn.Next (advice : Nat → Option Nat → Prop) : Turn → Turn → Prop where
  | dial {k : Nat} : Next advice ⟨.woke, k⟩ ⟨.dialed, k⟩
  | refuse {k : Nat} : Next advice ⟨.dialed, k⟩ ⟨.failed, k + 1⟩
  | link {k : Nat} : Next advice ⟨.dialed, k⟩ ⟨.opened, 0⟩
  | lose : Next advice ⟨.opened, 0⟩ ⟨.failed, 1⟩
  | consult {k : Nat} :
      Next advice ⟨.failed, k + 1⟩ ⟨.consulted (min k maxAttempts), k + 1⟩
  | sleep {k delay : Nat} (advised : advice (min k maxAttempts) (some delay)) :
      Next advice ⟨.consulted (min k maxAttempts), k + 1⟩ ⟨.slept delay, k + 1⟩
  | wake {k delay : Nat} : Next advice ⟨.slept delay, k⟩ ⟨.woke, k⟩
  | giveUp {k : Nat} (advised : advice (min k maxAttempts) none) :
      Next advice ⟨.consulted (min k maxAttempts), k + 1⟩
        ⟨.gaveUp (min k maxAttempts), k + 1⟩

/-- The task stands where the turn left it, or it is not going to retry any more. -/
def Stands (c : Channel) (t : Turn) : Prop :=
  match c.task with
  | .absent => t = .start ∧ c.attempts = 0
  | .attempting => ∃ k, t = ⟨.woke, k⟩ ∧ c.attempts = min k maxAttempts
  | .dialing => ∃ k, t = ⟨.dialed, k⟩ ∧ c.attempts = min k maxAttempts
  | .reportingRefusal _ => ∃ k, t = ⟨.failed, k + 1⟩ ∧ c.attempts = min k maxAttempts
  | .resetting | .announcingOpen | .serving | .writing _ | .delivering _ | .reportingLoss _ =>
      t = ⟨.opened, 0⟩ ∧ c.attempts = 0
  | .announcingLoss => t = ⟨.failed, 1⟩ ∧ c.attempts = 0
  | .consulting attempt =>
      ∃ k, t = ⟨.consulted (min k maxAttempts), k + 1⟩ ∧ attempt = min k maxAttempts ∧
        c.attempts = min k maxAttempts
  | .sleeping delay => ∃ k, t = ⟨.slept delay, k + 1⟩ ∧ c.attempts = min k maxAttempts
  | .reportingExhaustion _ | .announcingClose | .hangingUp | .finished | .crashed => True

/-- The strategy answers nothing but what the advice allows. -/
def Advised (advice : Nat → Option Nat → Prop) (c : Channel) (moves : List Move) : Prop :=
  ∀ before delay after, moves = before ++ .answer (.delay delay) :: after →
    ∀ attempt, (c.run before).1.task = .consulting attempt → advice attempt delay

variable {advice : Nat → Option Nat → Prop} {c moved : Channel} {t : Turn} {m : Move}
  {a : Option Answer} {readings : List Reading} {seen : List Occurrence}

@[simp] theorem marks_nil : marks [] = [] := rfl

@[simp] theorem marks_append (seen later : List Occurrence) :
    marks (seen ++ later) = marks seen ++ marks later :=
  List.filterMap_append

@[simp] theorem marks_cons (shown : Occurrence) (seen : List Occurrence) :
    marks (shown :: seen) = shown.mark?.toList ++ marks seen := by
  cases mark : shown.mark? <;> simp [marks, mark]

@[simp] theorem marks_arrival (c : Channel) (readings : List Reading) :
    marks (c.arrival readings) = c.task.mark?.toList := by
  have unrecorded : marks (readings.map .recorded) = [] := by
    simp [marks, Occurrence.mark?]
  cases event : c.announcement? <;> simp [arrival, unrecorded, Occurrence.mark?, event]

theorem follow_mark (t : Turn) (marks : List Mark) : (t.follow marks).map (·.mark) = marks := by
  induction marks generalizing t with
  | nil => rfl
  | cons mark marks ih =>
      have own : (t.advance mark).mark = mark := by cases mark <;> rfl
      simp [Turn.follow, own, ih]

/-! ## One move -/

/-- A move leads to the next turn, or it leaves the task standing where the last one left it. -/
def Goes (advice : Nat → Option Nat → Prop) (t : Turn) (moved : Channel) :
    Option Mark → Prop
  | none => moved.Stands t
  | some mark => Turn.Next advice t (t.advance mark) ∧ moved.Stands (t.advance mark)

theorem Goes.consult {k : Nat} (task : c.task = .consulting c.attempts)
    (counted : c.attempts = min k maxAttempts) :
    Goes advice ⟨.failed, k + 1⟩ c (some (.consulted c.attempts)) := by
  refine ⟨?_, ?_⟩
  · simp only [Turn.advance, counted]
    exact .consult
  · simp only [Stands, task, Turn.advance]
    exact ⟨k, by rw [counted], counted, counted⟩

theorem Stands.task_move (h : c.Stands t)
    (advised : ∀ attempt delay, c.task = .consulting attempt → a = some (.delay delay) →
      advice attempt delay)
    (move : TaskMove c a moved readings) : Goes advice t moved moved.task.mark? := by
  cases move with
  | quit | hangUp | finish | exhausted | crash => trivial
  | attempt task =>
      obtain ⟨k, rfl, counted⟩ := by simpa only [Stands, task] using h
      exact ⟨.dial, k, rfl, counted⟩
  | link task =>
      obtain ⟨k, rfl, counted⟩ := by simpa only [Stands, task] using h
      exact ⟨.link, rfl, rfl⟩
  | refused fault task =>
      obtain ⟨k, rfl, counted⟩ := by simpa only [Stands, task] using h
      exact ⟨.refuse, k, rfl, counted⟩
  | setBack fault task =>
      obtain ⟨k, rfl, counted⟩ := by simpa only [Stands, task] using h
      exact .consult rfl counted
  | lose task =>
      obtain ⟨rfl, successful⟩ : t = ⟨.opened, 0⟩ ∧ c.attempts = 0 := by
        rcases task with ⟨task, -⟩ | ⟨fault, task, -⟩ <;> simpa only [Stands, task] using h
      exact ⟨.lose, rfl, successful⟩
  | consult task =>
      obtain ⟨rfl, successful⟩ := by simpa only [Stands, task] using h
      exact .consult rfl (successful.trans (Nat.zero_min _).symm)
  | sleep attempt delay task =>
      obtain ⟨k, rfl, rfl, counted⟩ := by simpa only [Stands, task] using h
      exact ⟨.sleep (advised _ _ task rfl), k, rfl, counted⟩
  | wake delay task =>
      obtain ⟨k, rfl, counted⟩ := by simpa only [Stands, task] using h
      refine ⟨.wake, k + 1, rfl, ?_⟩
      show min (c.attempts + 1) maxAttempts = min (k + 1) maxAttempts
      omega
  | giveUp attempts task =>
      obtain ⟨k, rfl, rfl, counted⟩ := by simpa only [Stands, task] using h
      exact ⟨.giveUp (advised _ _ task rfl), trivial⟩
  | reset task | serve task | take _ _ task | receive _ task | readFailed _ task | wrote _ task
  | writeFailed _ _ task | delivered _ task =>
      have linked : t = ⟨.opened, 0⟩ ∧ c.attempts = 0 := by simpa only [Stands, task] using h
      exact linked

theorem Stands.step (h : c.Stands t) (absent : c.started = false → c.task = .absent)
    (advised : ∀ attempt delay, c.task = .consulting attempt → m = .answer (.delay delay) →
      advice attempt delay)
    (move : Step c m moved seen) :
    ∃ mark : Option Mark, marks seen = mark.toList ∧ Goes advice t moved mark := by
  cases move with
  | proceed move =>
      exact ⟨_, marks_arrival _ _, h.task_move (by simp) move⟩
  | answer move =>
      refine ⟨_, marks_arrival _ _, h.task_move (fun attempt delay task same => ?_) move⟩
      cases same
      exact advised attempt delay task rfl
  | started first =>
      obtain ⟨rfl, successful⟩ := by simpa only [Stands, absent first] using h
      exact ⟨none, rfl, 0, rfl, successful⟩
  | idle | sendRefused | sendQueued | sendBuffered | startRefused | close => exact ⟨none, rfl, h⟩

/-! ## Every run -/

theorem Stands.run {moves : List Move} (h : c.Stands t) (placed : c.Placed)
    (advised : c.Advised advice moves) :
    let past := t.follow (marks (c.run moves).2)
    (t :: past).IsChain (Turn.Next advice) ∧ (c.run moves).1.Stands (past.getLastD t) := by
  induction moves generalizing c t with
  | nil => exact ⟨.singleton t, h⟩
  | cons m moves ih =>
      have step := Step.of_step c m
      have later : (c.step m).1.Advised advice moves := fun before delay after split =>
        advised (m :: before) delay after (by simp [split])
      have now : ∀ attempt delay, c.task = .consulting attempt → m = .answer (.delay delay) →
          advice attempt delay := fun attempt delay task same =>
        advised [] delay moves (by rw [same]; rfl) attempt task
      obtain ⟨mark, shown, goes⟩ := h.step placed.absent now step
      have rest : (c.run (m :: moves)).2 = (c.step m).2 ++ ((c.step m).1.run moves).2 := rfl
      have ends : (c.run (m :: moves)).1 = ((c.step m).1.run moves).1 := rfl
      simp only [rest, ends, marks_append, shown]
      cases mark with
      | none => exact ih goes (placed.step step) later
      | some mark =>
          obtain ⟨next, stands⟩ := goes
          obtain ⟨chain, ends⟩ := ih stands (placed.step step) later
          simp only [Option.toList_some, List.singleton_append, Turn.follow]
          exact ⟨.cons_cons next chain, by rwa [List.getLastD_cons]⟩

/-! ## What is due -/

/-- What the task does after a turn, as soon as its surroundings answer. -/
def Due (c : Channel) : Turn → Prop
  | ⟨.woke, _⟩ => c.task = .absent ∨ (c.step .proceed).1.task = .dialing
  | ⟨.dialed, _⟩ => c.task = .dialing
  | ⟨.opened, _⟩ => c.state = .open
  | ⟨.failed, k⟩ => (c.step (.answer .done)).1.task = .consulting (min (k - 1) maxAttempts)
  | ⟨.consulted attempt, _⟩ =>
      (∀ delay, (c.step (.answer (.delay (some delay)))).1.task = .sleeping delay) ∧
      (c.step (.answer (.delay none))).1.task = .reportingExhaustion attempt
  | ⟨.slept delay, _⟩ =>
      c.task = .sleeping delay ∧ (c.step (.answer .elapsed)).1.task = .attempting
  | ⟨.gaveUp _, _⟩ => False

theorem Stands.due (h : c.Stands t) (placed : c.Placed) (alive : c.state ≠ .closed)
    (calm : c.task ≠ .crashed) : c.Due t := by
  have possible := placed.mem_states alive
  cases task : c.task with
  | absent =>
      obtain ⟨rfl, -⟩ := by simpa only [Stands, task] using h
      exact .inl task
  | attempting =>
      obtain ⟨k, rfl, -⟩ := by simpa only [Stands, task] using h
      exact .inr (by simp [Channel.step, advance, proceed, attempt, transition, task, alive])
  | dialing =>
      obtain ⟨k, rfl, -⟩ := by simpa only [Stands, task] using h
      exact task
  | reportingRefusal fault =>
      obtain ⟨k, rfl, counted⟩ := by simpa only [Stands, task] using h
      simp [Due, Channel.step, advance, answer?, transition, Channel.consult, task, alive, counted]
  | announcingLoss =>
      obtain ⟨rfl, successful⟩ := by simpa only [Stands, task] using h
      simp [Due, Channel.step, advance, answer?, Channel.consult, task, alive, successful]
  | consulting attempt =>
      obtain ⟨k, rfl, rfl, -⟩ := by simpa only [Stands, task] using h
      simp [Due, Channel.step, advance, answer?, Channel.giveUp, shut, transition, task, alive]
  | sleeping delay =>
      obtain ⟨k, rfl, -⟩ := by simpa only [Stands, task] using h
      simp [Due, Channel.step, advance, answer?, task, alive]
  | resetting | announcingOpen | serving | writing | delivering | reportingLoss =>
      obtain ⟨rfl, -⟩ : t = ⟨.opened, 0⟩ ∧ c.attempts = 0 := by simpa only [Stands, task] using h
      show c.state = .open
      simpa [task, Task.states, alive] using possible
  | reportingExhaustion | announcingClose | hangingUp | finished =>
      simp [task, Task.states, alive] at possible
  | crashed => contradiction

/-! ## Openings -/

def Mark.opens : Mark → Bool
  | .opened => true
  | _ => false

def Happening.opens : Happening → Bool
  | .changed _ .open => true
  | _ => false

theorem openings_changes (before after : Lifecycle) :
    (changes before after).countP (·.opens) =
      if before ≠ after ∧ after = .open then 1 else 0 := by
  cases before <;> cases after <;> decide

theorem openings_struck (c : Channel) (a : Answer) :
    (c.struck a).countP (·.opens) = 0 := by
  unfold Channel.struck
  split
  case h_3 | h_4 | h_5 => split <;> rfl
  all_goals rfl

theorem TaskMove.openings (move : TaskMove c a moved readings) (placed : c.Placed) :
    moved.task.mark?.toList.countP (·.opens) = (changes c.state moved.state).countP (·.opens) := by
  rw [openings_changes]
  cases move with
  | link task alive =>
      have state : c.state = .connecting := by
        simpa [task, Task.states, alive] using placed.mem_states alive
      simp [state, Task.mark?, Mark.opens]
  | crash =>
      have task : c.crash.task = .crashed := rfl
      have state : c.crash.state = c.state := rfl
      simp [task, state, Task.mark?]
  | _ => simp [Task.mark?, Mark.opens]

theorem Step.openings (move : Step c m moved seen) (placed : c.Placed) :
    (marks seen).countP (·.opens) = (changes c.state moved.state).countP (·.opens) := by
  cases move with
  | proceed move | answer move => rw [marks_arrival, move.openings placed]
  | close => simp [openings_changes, Occurrence.mark?]
  | _ => simp [Occurrence.mark?]

theorem openings_happenings (c : Channel) (m : Move) :
    (c.happenings m).countP (·.opens) = (changes c.state (c.step m).1.state).countP (·.opens) := by
  cases m with
  | answer a => rw [happenings, List.countP_append, openings_struck, Nat.zero_add]
  | _ => rfl

/-- The strategy is told of an opening exactly when the channel opens. -/
theorem openings_run (placed : c.Placed) (moves : List Move) :
    (marks (c.run moves).2).countP (·.opens) = (c.chronicle moves).countP (·.opens) := by
  induction moves generalizing c with
  | nil => rfl
  | cons m moves ih =>
      have step := Step.of_step c m
      calc
        (marks (c.run (m :: moves)).2).countP (·.opens)
            = (marks (c.step m).2).countP (·.opens) +
                (marks ((c.step m).1.run moves).2).countP (·.opens) := by
              rw [← List.countP_append, ← marks_append]
              rfl
        _ = (c.happenings m).countP (·.opens) +
              ((c.step m).1.chronicle moves).countP (·.opens) := by
            rw [step.openings placed, openings_happenings, ih (placed.step step)]
        _ = (c.chronicle (m :: moves)).countP (·.opens) := by
            rw [← List.countP_append]
            rfl

theorem TaskMove.successful (move : TaskMove c a moved readings) (placed : c.Placed)
    (h : c.state = .open → c.attempts = 0) : moved.state = .open → moved.attempts = 0 := by
  cases move with
  | link => exact fun _ => rfl
  | wake delay task alive =>
      have state : c.state = .disconnected := by
        simpa [task, Task.states, alive] using placed.mem_states alive
      intro isOpen
      cases state.symm.trans isOpen
  | attempt | setBack | lose | giveUp =>
      intro isOpen
      cases isOpen
  | _ => exact h

theorem Step.successful (move : Step c m moved seen) (placed : c.Placed)
    (h : c.state = .open → c.attempts = 0) : moved.state = .open → moved.attempts = 0 := by
  cases move with
  | proceed move | answer move => exact move.successful placed h
  | close =>
      intro isOpen
      cases isOpen
  | _ => exact h

theorem run_successful (moves : List Move) :
    (run {} moves).1.state = .open → (run {} moves).1.attempts = 0 := by
  have kept : (run {} moves).1.Placed ∧
      ((run {} moves).1.state = .open → (run {} moves).1.attempts = 0) :=
    replay_keeps (fun c _ => Placed c ∧ (c.state = .open → c.attempts = 0))
      (fun c _ m _ ⟨placed, successful⟩ =>
        ⟨placed.step (.of_step c m), (Step.of_step c m).successful placed successful⟩)
      ⟨placed_fresh, nofun⟩
  exact kept.2

/-! ## Giving up -/

theorem reporting_of_gaveUp {task : Task} {attempts : Nat}
    (mark : task.mark? = some (.gaveUp attempts)) : task = .reportingExhaustion attempts := by
  cases task <;> simp_all [Task.mark?]

theorem Step.gaveUp {attempts : Nat} (move : Step c m moved seen) (placed : c.Placed)
    (mem : .gaveUp attempts ∈ marks seen) :
    moved.state = .closed ∧ .error (.reconnectExhausted attempts) ∈ announced seen := by
  have ended : moved.Placed := placed.step move
  cases move with
  | proceed move | answer move =>
      have task : moved.task = .reportingExhaustion attempts :=
        reporting_of_gaveUp (by simpa using mem)
      refine ⟨?_, by simp [announcement?, task]⟩
      simpa [task, Task.states] using ended.placed
  | _ => simp [Occurrence.mark?] at mem

theorem run_gaveUp (moves : List Move) (attempts : Nat)
    (mem : .gaveUp attempts ∈ marks (run {} moves).2) :
    (run {} moves).1.state = .closed ∧
      .error (.reconnectExhausted attempts) ∈ announced (run {} moves).2 := by
  have kept : (run {} moves).1.Placed ∧ ∀ attempts, .gaveUp attempts ∈ marks (run {} moves).2 →
      (run {} moves).1.state = .closed ∧
        .error (.reconnectExhausted attempts) ∈ announced (run {} moves).2 := by
    refine replay_keeps (fun c seen => Placed c ∧ ∀ attempts, .gaveUp attempts ∈ marks seen →
      c.state = .closed ∧ .error (.reconnectExhausted attempts) ∈ announced seen) ?_
      ⟨placed_fresh, by simp⟩
    rintro c seen m - ⟨placed, told⟩
    have step := Step.of_step c m
    refine ⟨placed.step step, fun attempts mem => ?_⟩
    rw [announced_append, List.mem_append]
    rcases List.mem_append.mp (marks_append _ _ ▸ mem) with before | now
    · obtain ⟨closed, announced⟩ := told attempts before
      exact ⟨step.closed closed, .inl announced⟩
    · obtain ⟨closed, announced⟩ := step.gaveUp placed now
      exact ⟨closed, .inr announced⟩
  exact kept.2 attempts mem

/-! ## A limited strategy -/

/-- What the failures can be at a turn if the strategy allows so many retries. -/
def Turn.Within (limit : Nat) : Turn → Prop
  | ⟨.woke, k⟩ | ⟨.dialed, k⟩ | ⟨.slept _, k⟩ => k ≤ limit
  | ⟨.opened, k⟩ => k = 0
  | ⟨.failed, k⟩ | ⟨.consulted _, k⟩ => k ≤ limit + 1
  | ⟨.gaveUp _, k⟩ => k = limit + 1

theorem Turn.Within.next {u : Turn} {limit : Nat} (bounded : limit ≤ maxAttempts)
    (allows : ∀ attempt delay, advice attempt (some delay) → attempt < limit)
    (refuses : ∀ attempt, advice attempt none → limit ≤ attempt)
    (next : Turn.Next advice t u) (h : t.Within limit) : u.Within limit := by
  cases next with
  | dial | consult | wake => exact h
  | link => rfl
  | refuse | lose => simp only [Turn.Within] at h ⊢; omega
  | sleep advised =>
      have retried := allows _ _ advised
      simp only [Turn.Within] at h ⊢
      omega
  | giveUp advised =>
      have exhausted := refuses _ advised
      simp only [Turn.Within] at h ⊢
      omega

theorem Turn.Within.bounds {limit : Nat} (h : t.Within limit) :
    t.failures ≤ limit + 1 ∧ (∀ delay, t.mark = .slept delay → t.failures ≤ limit) ∧
      ∀ attempts, t.mark = .gaveUp attempts → t.failures = limit + 1 := by
  obtain ⟨mark, failures⟩ := t
  cases mark <;> simp_all [Turn.Within] <;> omega

/-! ## The schedule -/

/-- Turns follow each other by the rules, and unless the channel was closed or its task panicked
the next one is due: the failure with the number `k` since the channel was last open has the
strategy asked once for the delay after `k - 1` retries; a delay is waited out before the one
attempt that it leads to; nothing leads to another attempt when the strategy gives up, and then the
channel is closed and reports as many retries.  The strategy is told of every opening, and an open
channel counts no failures.  A strategy that is limited to so many attempts gives up at the failure
after them, and at no other. -/
theorem retries_scheduled (advice : Nat → Option Nat → Prop) (moves : List Move)
    (advised : Advised advice {} moves) :
    let c := (run {} moves).1
    let seen := (run {} moves).2
    let past := turns seen
    (Turn.start :: past).IsChain (Turn.Next advice) ∧
    (c.state = .closed ∨ c.task = .crashed ∨ c.Due (past.getLastD .start)) ∧
    (∀ t ∈ past, ∀ attempts, t.mark = .gaveUp attempts →
      c.state = .closed ∧ .error (.reconnectExhausted attempts) ∈ announced seen) ∧
    past.countP (·.mark.opens) = (chronicle {} moves).countP (·.opens) ∧
    (c.state = .open → c.attempts = 0) ∧
    ∀ {α : Type} [Scale α] (b : Exponential α) (limit : Nat),
      b.maxAttempts = some limit → limit ≤ maxAttempts →
      (∀ attempt delay, advice attempt delay → ∃ drawn, delay = b.nextDelay attempt drawn) →
      ∀ t ∈ past, t.failures ≤ limit + 1 ∧
        (∀ delay, t.mark = .slept delay → t.failures ≤ limit) ∧
        ∀ attempts, t.mark = .gaveUp attempts → t.failures = limit + 1 := by
  intro c seen past
  have fresh : Stands {} .start := ⟨rfl, rfl⟩
  obtain ⟨chain, stands⟩ := fresh.run placed_fresh advised
  refine ⟨chain, ?due, ?gaveUp, ?openings, run_successful moves, ?limited⟩
  case due =>
      by_cases closed : c.state = .closed
      · exact .inl closed
      by_cases crashed : c.task = .crashed
      · exact .inr (.inl crashed)
      · exact .inr (.inr (stands.due (run_placed moves) closed crashed))
  case gaveUp =>
      intro t mem attempts mark
      refine run_gaveUp moves attempts ?_
      rw [← follow_mark .start (marks seen), ← mark]
      exact List.mem_map_of_mem mem
  case openings =>
      rw [← openings_run placed_fresh moves, ← follow_mark .start (marks (run {} moves).2),
        List.countP_map]
      rfl
  case limited =>
      intro α scale b limit limited bounded exponential t mem
      have allows : ∀ attempt delay, advice attempt (some delay) → attempt < limit := by
        intro attempt delay advised
        obtain ⟨drawn, answer⟩ := exponential attempt (some delay) advised
        by_contra exhausted
        have gives : b.givesUp attempt := by
          simpa [Exponential.givesUp, limited] using exhausted
        rw [(b.nextDelay_eq_none attempt drawn).mpr gives] at answer
        cases answer
      have refuses : ∀ attempt, advice attempt none → limit ≤ attempt := by
        intro attempt advised
        obtain ⟨drawn, answer⟩ := exponential attempt none advised
        simpa [Exponential.givesUp, limited] using
          (b.nextDelay_eq_none attempt drawn).mp answer.symm
      have within : ∀ t ∈ past, t.Within limit :=
        chain.cons_induction (·.Within limit) past
          (fun _ _ next h => h.next bounded allows refuses next) (Nat.zero_le limit)
      exact (within t mem).bounds

/-- A strategy that allows one retry, asked again after it. -/
theorem retries_scheduled_once :
    let b : Exponential Float := { Exponential.standard with maxAttempts := some 1 }
    let advice := fun attempt delay => ∃ drawn, delay = b.nextDelay attempt drawn
    let moves := [.start, .proceed, .answer (.refused .timeout), .answer .done,
      .answer (.delay (some (b.baseDelay 0))), .answer .elapsed, .proceed,
      .answer (.refused .timeout), .answer .done, .answer (.delay none)]
    let past := turns (run {} moves).2
    Advised advice {} moves ∧ past.getLast? = some ⟨.gaveUp 1, 2⟩ ∧
      (Turn.start :: past).IsChain (Turn.Next advice) ∧ (run {} moves).1.state = .closed ∧
      ∀ t ∈ past, t.failures ≤ 2 := by
  intro b advice moves past
  have advised : Advised advice {} moves := by
    intro before delay after split attempt task
    simp [moves, List.cons_eq_append_iff] at split
    obtain ⟨_, rfl, ⟨rfl, rfl, -⟩ | ⟨rfl, rfl, -⟩⟩ := split
    · obtain rfl : 0 = attempt := Task.consulting.inj task
      exact ⟨0, rfl⟩
    · obtain rfl : 1 = attempt := Task.consulting.inj task
      exact ⟨0, rfl⟩
  have last : past.getLast? = some ⟨.gaveUp 1, 2⟩ := rfl
  obtain ⟨chain, -, gaveUp, -, -, limited⟩ := retries_scheduled advice moves advised
  have bounds := limited b 1 rfl (by decide) fun _ _ advised => advised
  have mem : ⟨.gaveUp 1, 2⟩ ∈ past := List.mem_of_getLast? last
  exact ⟨advised, last, chain, (gaveUp _ mem 1 rfl).1, fun t mem => (bounds t mem).1⟩

end DuplexRpc.Channel
