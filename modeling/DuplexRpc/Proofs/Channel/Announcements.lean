import DuplexRpc.Proofs.Channel.Chronicle
import DuplexRpc.Proofs.Channel.Consistency

/-!
# The events of a channel tell its history

Wherever the connection task stands, the events announced so far and the one that the task still
owes tell exactly of what is in the chronicle, and the chronicle is a walk through the phases that
leads to the phase of the channel.  What holds of the events of every walk therefore holds of the
events of every run.
-/

namespace DuplexRpc.Channel

open DuplexRpc.Telemetry

/-- The event that the task announces at a later point, while its change was made before. -/
def Task.owed : Task → List Event
  | .resetting => [.connect]
  | .reportingExhaustion _ => [.close]
  | _ => []

/-- The states in which the task can stand at a point. -/
def Task.states : Task → List Lifecycle
  | .absent | .dialing | .reportingRefusal _ => [.connecting, .closed]
  | .attempting => [.connecting, .disconnected, .closed]
  | .resetting => [.open]
  | .announcingOpen | .serving | .writing _ | .delivering _ | .reportingLoss _ => [.open, .closed]
  | .announcingLoss | .consulting _ | .sleeping _ => [.disconnected, .closed]
  | .reportingExhaustion _ | .announcingClose | .hangingUp | .finished => [.closed]
  | .crashed => [.connecting, .open, .disconnected, .closed]

def phase (c : Channel) : Phase :=
  match c.state, c.task with
  | .connecting, .reportingRefusal _ => .refused
  | .connecting, _ => .connecting
  | .open, .reportingLoss _ => .broken
  | .open, _ => .open
  | .disconnected, _ => .disconnected
  | .closed, _ => .closed

/-- What was announced in a run and what happened in it, at the channel where it ended. -/
structure Told (c : Channel) (events : List Event) (past : List Happening) : Prop where
  possible : c.state ∈ c.task.states
  absent : c.started = false → c.task = .absent
  walk : Phase.Walk .connecting past c.phase
  told : events ++ c.task.owed = tell past

@[simp] theorem announced_nil : announced [] = [] := rfl

@[simp] theorem announced_cons (shown : Occurrence) (seen : List Occurrence) :
    announced (shown :: seen) = shown.announced?.toList ++ announced seen := by
  cases h : shown.announced? <;> simp [announced, h]

@[simp] theorem announced_append (seen later : List Occurrence) :
    announced (seen ++ later) = announced seen ++ announced later :=
  List.filterMap_append

@[simp] theorem announced_arrival (c : Channel) (readings : List Reading) :
    announced (c.arrival readings) = c.announcement?.toList := by
  have silent : announced (readings.map .recorded) = [] := by
    simp [announced, Occurrence.announced?]
  cases event : c.announcement? <;> simp [arrival, Occurrence.announced?, event, silent]

@[simp] theorem changes_self (state : Lifecycle) : changes state state = [] := by
  simp [changes]

theorem changes_of_ne {before after : Lifecycle} (h : before ≠ after) :
    changes before after = [.changed before after] := by
  simp [changes, h]

/-! ## What strikes the task -/

variable {c moved : Channel} {a : Answer} {events : List Event} {past : List Happening}

theorem struck_of_unheard (unheard : c.answer? a = none) : c.struck a = [] := by
  unfold struck
  split <;> simp_all [answer?]

theorem idle_of_queued (task : c.task = .serving) (alive : c.state ≠ .closed)
    (empty : c.queued = []) : c.idle := by
  cases state : c.state <;> cases outlet : c.outlet <;>
    simp_all [idle, proceed, queued]

theorem next_of_closing (alive : c.state ≠ .closed) :
    Phase.Next c.phase (.changed c.state .closed) .closed := by
  cases state : c.state with
  | connecting =>
      cases task : c.task <;> simp only [phase, state, task] <;>
        first | exact .closeConnecting | exact .closeRefused
  | «open» =>
      cases task : c.task <;> simp only [phase, state, task] <;>
        first | exact .closeOpen | exact .closeBroken
  | disconnected => simpa only [phase, state] using .closeDisconnected
  | closed => contradiction

/-! ## One move -/

def strikes (c : Channel) (answer : Option Answer) : List Happening :=
  answer.toList.flatMap c.struck

theorem strikes_panicked (c : Channel) : c.strikes (some .panicked) = [] := by
  rw [strikes, Option.toList_some, List.flatMap_singleton]
  unfold struck
  split <;> simp_all

/-- A move announces what it owed before and what happens with it, less what it owes after. -/
structure Tells (c moved : Channel) (events : List Event) (past : List Happening) : Prop where
  possible : moved.state ∈ moved.task.states
  walk : Phase.Walk c.phase past moved.phase
  told : events ++ moved.task.owed = c.task.owed ++ tell past

theorem Tells.unmoved (possible : c.state ∈ c.task.states) (state : moved.state = c.state)
    (task : moved.task = c.task) (quiet : events = []) :
    Tells c moved events (changes c.state moved.state) where
  possible := by rwa [state, task]
  walk := by
    have phase : moved.phase = c.phase := by simp only [phase, state, task]
    rw [state, changes_self, phase]
    exact .nil
  told := by simp [state, task, quiet]

/-- A move that leaves the state and the phase as they are, and strikes nothing. -/
theorem Tells.of_still {news : List Happening} (state : moved.state = c.state)
    (possible : c.state ∈ moved.task.states) (phase : moved.phase = c.phase) (quiet : news = [])
    (owed : moved.announcement?.toList ++ moved.task.owed = c.task.owed) :
    Tells c moved moved.announcement?.toList (news ++ changes c.state moved.state) where
  possible := by rwa [state]
  walk := by
    rw [state, changes_self, quiet, phase]
    exact .nil
  told := by simpa [state, quiet] using owed

/-- On a closed channel nothing strikes a task that moves on, unless an attempt or a write was
under way. -/
theorem strikes_of_closed {answer : Option Answer} (closed : c.state = .closed)
    (refusal : ∀ fault, answer = some (.refused fault) → c.task = .dialing →
      moved.task = .reportingRefusal fault)
    (elsewhere : ∀ fault, moved.task ≠ .reportingRefusal fault)
    (writing : ∀ payload, c.task ≠ .writing payload) : c.strikes answer = [] := by
  cases answer with
  | none => rfl
  | some a =>
      rw [strikes, Option.toList_some, List.flatMap_singleton]
      unfold struck
      split
      case h_1 fault task => exact absurd (refusal fault rfl task) (elsewhere fault)
      all_goals simp_all [idle, proceed]

theorem Tells.task_move {answer : Option Answer} {readings : List Reading}
    (possible : c.state ∈ c.task.states) (move : TaskMove c answer moved readings)
    (refusal : ∀ fault, answer = some (.refused fault) → c.task = .dialing →
      moved.task = .reportingRefusal fault)
    (heard : c.task = .serving → answer = some .ended → c.idle)
    (calm : answer = some .panicked → c.task ≠ .resetting) :
    Tells c moved moved.announcement?.toList
      (c.strikes answer ++ changes c.state moved.state) := by
  cases move with
  | quit task closed =>
      have unstruck : c.strikes answer = [] := by
        refine strikes_of_closed closed refusal (by simp) fun payload writing => ?_
        simp [writing, Task.looksUp] at task
      refine .of_still rfl (by simp [closed, Task.states]) (by simp [phase, closed]) unstruck ?_
      cases point : c.task <;> simp_all [Task.looksUp, Task.owed, announcement?]
  | hangUp task closed =>
      have unstruck : c.strikes answer = [] := by
        refine strikes_of_closed closed refusal (by simp) fun payload writing => ?_
        simp [writing] at task
      refine .of_still rfl (by simp [closed, Task.states]) (by simp [phase, closed]) unstruck ?_
      rcases task with task | task <;> simp [task, Task.owed, announcement?]
  | finish task =>
      have closed : c.state = .closed := by
        rcases task with task | task <;> simpa [task, Task.states] using possible
      refine .of_still rfl (by simp [closed, Task.states]) (by simp [phase, closed]) ?_ ?_
      · rcases task with task | task <;> simp [strikes, struck, task]
      · rcases task with task | task <;> simp [task, Task.owed, announcement?]
  | attempt task alive =>
      have state : c.state = .connecting ∨ c.state = .disconnected := by
        simpa [task, Task.states, alive] using possible
      rcases state with state | state
      · exact .of_still state.symm (by simp [state, Task.states]) (by simp [phase, state, task]) rfl
          (by simp [task, Task.owed, announcement?])
      · refine ⟨by simp [Task.states], ?_, ?_⟩
        · simpa [strikes, changes, state, phase] using Phase.Walk.single .retry
        · simp [strikes, changes, state, task, announcement?, Task.owed, Happening.event?]
  | link task alive =>
      have state : c.state = .connecting := by
        simpa [task, Task.states, alive] using possible
      refine ⟨by simp [Task.states], ?_, ?_⟩
      · simpa [strikes, struck, changes, task, state, phase] using Phase.Walk.single .link
      · simp [strikes, struck, changes, state, task, announcement?, Task.owed, Happening.event?]
  | refused fault task =>
      have state : c.state = .connecting ∨ c.state = .closed := by
        simpa [task, Task.states] using possible
      refine ⟨by simpa [Task.states] using state, ?_, ?_⟩
      · rcases state with state | state
        · simpa [strikes, struck, task, state, phase] using Phase.Walk.single (.refuse fault)
        · simpa [strikes, struck, task, state, phase] using Phase.Walk.single (.failAttempt fault)
      · simp [strikes, struck, task, announcement?, Task.owed, Happening.event?]
  | setBack fault task alive =>
      have state : c.state = .connecting := by
        simpa [task, Task.states, alive] using possible
      refine ⟨by simp [Task.states], ?_, ?_⟩
      · simpa [strikes, struck, changes, task, state, phase] using Phase.Walk.single .setBack
      · simp [strikes, struck, changes, state, task, announcement?, Task.owed, Happening.event?]
  | reset task =>
      have state : c.state = .open := by simpa [task, Task.states] using possible
      exact .of_still rfl (by simp [state, Task.states]) (by simp [phase, state, task])
        (by simp [strikes, struck, task]) (by simp [task, Task.owed, announcement?])
  | serve task | take _ _ task _ _ | receive _ task _ _ | wrote _ task | delivered _ task =>
      exact .of_still rfl (by simpa [task, Task.states] using possible)
        (by cases state : c.state <;> simp [phase, state, task])
        (by simp [strikes, struck, task]) (by simp [task, Task.owed, announcement?])
  | consult task _ | sleep _ _ task =>
      exact .of_still rfl (by simpa [task, Task.states] using possible)
        (by cases state : c.state <;> simp [phase, state, task])
        (by simp [strikes, struck, task]) (by simp [task, Task.owed, announcement?])
  | wake delay task alive =>
      have state : c.state = .disconnected := by
        simpa [task, Task.states, alive] using possible
      exact .of_still rfl (by simp [state, Task.states]) (by simp [phase, state])
        (by simp [strikes, struck, task]) (by simp [task, Task.owed, announcement?])
  | exhausted attempts task =>
      have closed : c.state = .closed := by simpa [task, Task.states] using possible
      exact .of_still rfl (by simp [closed, Task.states]) (by simp [phase, closed])
        (by simp [strikes, struck, task]) (by simp [task, Task.owed, announcement?])
  | readFailed fault task alive empty =>
      have state : c.state = .open := by simpa [task, Task.states, alive] using possible
      have idle : c.idle := idle_of_queued task alive empty
      refine ⟨by simp [Task.states, state], ?_, ?_⟩
      · simpa [strikes, struck, task, idle, state, phase] using
          Phase.Walk.single (.breakReading fault)
      · simp [strikes, struck, task, idle, announcement?, Task.owed, Happening.event?]
  | writeFailed payload fault task =>
      have state : c.state = .open ∨ c.state = .closed := by
        simpa [task, Task.states] using possible
      refine ⟨by simpa [Task.states] using state, ?_, ?_⟩
      · rcases state with state | state
        · simpa [strikes, struck, task, state, phase] using Phase.Walk.single (.breakWriting fault)
        · simpa [strikes, struck, task, state, phase] using Phase.Walk.single (.failWriting fault)
      · simp [strikes, struck, task, announcement?, Task.owed, Happening.event?]
  | lose task alive =>
      rcases task with ⟨task, rfl⟩ | ⟨fault, task, rfl⟩
      · have state : c.state = .open := by simpa [task, Task.states, alive] using possible
        have idle : c.idle := heard task rfl
        refine ⟨by simp [Task.states], ?_, ?_⟩
        · simpa [strikes, struck, changes, task, idle, state, phase] using
            Phase.Walk.cons .finish (.single .leave)
        · simp [strikes, struck, changes, task, idle, state, announcement?, Task.owed,
            Happening.event?]
      · have state : c.state = .open := by simpa [task, Task.states, alive] using possible
        refine ⟨by simp [Task.states], ?_, ?_⟩
        · simpa [strikes, struck, changes, task, state, phase] using Phase.Walk.single .lose
        · simp [strikes, struck, changes, task, state, announcement?, Task.owed,
            Happening.event?]
  | giveUp attempts task alive =>
      have state : c.state = .disconnected := by
        simpa [task, Task.states, alive] using possible
      refine ⟨by simp [Task.states], ?_, ?_⟩
      · simpa [strikes, struck, changes, task, state, phase] using
          Phase.Walk.cons (.exhaust attempts) (.single .giveUp)
      · simp [strikes, struck, changes, task, state, announcement?, Task.owed, Happening.event?]
  | crash task =>
      have calm : c.task ≠ .resetting := calm rfl
      refine .of_still rfl (by cases state : c.state <;> simp [crash, Task.states]) ?_
        c.strikes_panicked ?_
      · cases point : c.task <;> simp [point, Task.unguarded] at task <;>
          cases state : c.state <;> simp [phase, crash, state, point]
      · cases point : c.task <;> simp_all [Task.unguarded, crash, Task.owed, announcement?]

theorem Tells.close (possible : c.state ∈ c.task.states) (alive : c.state ≠ .closed)
    (waits : c.task ≠ .resetting) :
    Tells c { c with state := .closed, published := .closed, buffer := [], outlet := .none }
      [.close] [.changed c.state .closed] where
  possible := by
    change .closed ∈ c.task.states
    cases task : c.task with
    | resetting => contradiction
    | _ => simp [Task.states]
  walk := .single (next_of_closing alive)
  told := by
    have paid : c.task.owed = [] := by
      cases task : c.task <;> simp_all [Task.states, Task.owed]
    cases state : c.state <;> simp_all [Happening.event?]

theorem refusal_of_heard {result : Channel × List Reading} (heard : c.answer? a = some result) :
    ∀ fault, some a = some (.refused fault) → c.task = .dialing →
      result.1.task = .reportingRefusal fault := by
  rintro fault ⟨rfl⟩ task
  simp only [answer?, task, Option.some.injEq] at heard
  rw [← heard]

theorem Tells.answer (possible : c.state ∈ c.task.states) (a : Answer)
    (calm : a = .panicked → c.task ≠ .resetting) :
    Tells c (c.step (.answer a)).1 (announced (c.step (.answer a)).2)
      (c.happenings (.answer a)) := by
  cases heard : c.answer? a with
  | none =>
      have stays : c.step (.answer a) = (c, []) := by simp [Channel.step, advance, heard]
      rw [happenings, struck_of_unheard heard, List.nil_append, stays]
      exact .unmoved possible rfl rfl rfl
  | some result =>
      have moved : c.step (.answer a) = (result.1, result.1.arrival result.2) := by
        simp [Channel.step, advance, heard]
      have idle : c.task = .serving → some a = some .ended → c.idle := by
        rintro task ⟨rfl⟩
        by_contra busy
        simp [answer?, task, busy] at heard
      have tells := Tells.task_move possible (.of_answer heard) (refusal_of_heard heard) idle
        fun same => calm (Option.some.inj same)
      simpa [happenings, moved, strikes] using tells

theorem Tells.proceed (possible : c.state ∈ c.task.states) :
    Tells c (c.step .proceed).1 (announced (c.step .proceed).2) (c.happenings .proceed) := by
  cases goes : c.proceed with
  | none =>
      have stays : c.step .proceed = (c, []) := by simp [Channel.step, advance, goes]
      change Tells c _ _ (changes c.state (c.step .proceed).1.state)
      rw [stays]
      exact .unmoved possible rfl rfl rfl
  | some result =>
      have moved : c.step .proceed = (result.1, result.1.arrival result.2) := by
        simp [Channel.step, advance, goes]
      have tells := Tells.task_move possible (.of_proceed goes) (by simp) (by simp) (by simp)
      simpa [happenings, moved, strikes] using tells

/-- A move that would come between the opening of a link and its announcement. -/
def Move.interrupts : Move → Bool
  | .close | .answer .panicked => true
  | _ => false

theorem Tells.owner {m : Move} {seen : List Occurrence} (possible : c.state ∈ c.task.states)
    (absent : c.started = false → c.task = .absent) (waits : m.interrupts → c.task ≠ .resetting)
    (owner : m ≠ .proceed ∧ ∀ a, m ≠ .answer a) (move : Step c m moved seen) :
    Tells c moved (announced seen) (changes c.state moved.state) := by
  cases move with
  | idle | sendRefused | sendQueued | sendBuffered | startRefused =>
      exact .unmoved possible rfl rfl rfl
  | started first alive =>
      have task := absent first
      have state : c.state = .connecting := by
        simpa [task, Task.states, alive] using possible
      refine ⟨by simp [state, Task.states], ?_, ?_⟩
      · simpa [phase, state, task] using Phase.Walk.nil
      · simp [task, Task.owed, Occurrence.announced?]
  | close alive =>
      rw [changes_of_ne alive]
      simpa [Occurrence.announced?] using Tells.close possible alive (waits rfl)
  | proceed => exact absurd rfl owner.1
  | answer => exact absurd rfl (owner.2 _)

theorem Tells.step {m : Move} (possible : c.state ∈ c.task.states)
    (absent : c.started = false → c.task = .absent)
    (waits : m.interrupts → c.task ≠ .resetting) :
    Tells c (c.step m).1 (announced (c.step m).2) (c.happenings m) := by
  cases m with
  | answer a =>
      refine .answer possible a ?_
      rintro rfl
      exact waits rfl
  | proceed => exact .proceed possible
  | send | start | close => exact .owner possible absent waits (by simp) (.of_step c _)

/-! ## Every run -/

theorem told_fresh : Told {} [] [] := ⟨by simp [Task.states], fun _ => rfl, .nil, rfl⟩

theorem Task.absent_of_step {m : Move} {seen : List Occurrence}
    (absent : c.started = false → c.task = .absent) (move : Step c m moved seen) :
    moved.started = false → moved.task = .absent := by
  cases move with
  | proceed move | answer move =>
      exact fun first => absurd (absent (move.started_eq ▸ first)) move.present
  | startRefused | started => simp
  | _ => exact absent

theorem Told.step {m : Move} (h : c.Told events past)
    (waits : m.interrupts → c.task ≠ .resetting) :
    (c.step m).1.Told (events ++ announced (c.step m).2) (past ++ c.happenings m) := by
  have tells := Tells.step h.possible h.absent waits
  refine ⟨tells.possible, Task.absent_of_step h.absent (.of_step c m), h.walk.append tells.walk, ?_⟩
  calc
    events ++ announced (c.step m).2 ++ (c.step m).1.task.owed
        = events ++ c.task.owed ++ tell (c.happenings m) := by simp [tells.told]
    _ = tell (past ++ c.happenings m) := by simp [h.told]

/-- The task runs through from the opening of a link to its announcement.  It does not wait there,
so nobody closes the channel; it only tells the strategy, which neither calls back nor panics. -/
def Uninterrupted (c : Channel) (moves : List Move) : Prop :=
  ∀ before m after, moves = before ++ m :: after → m.interrupts →
    (c.run before).1.task ≠ .resetting

theorem Told.run {moves : List Move} (h : c.Told events past)
    (uninterrupted : c.Uninterrupted moves) :
    (c.run moves).1.Told (events ++ announced (c.run moves).2) (past ++ c.chronicle moves) := by
  induction moves generalizing c events past with
  | nil => simpa [Channel.run, chronicle] using h
  | cons m moves ih =>
      have waits : m.interrupts → c.task ≠ .resetting := uninterrupted [] m moves rfl
      have later : (c.step m).1.Uninterrupted moves := fun before next after split =>
        uninterrupted (m :: before) next after (by simp [split])
      simpa [Channel.run, replay_cons, chronicle] using ih (h.step waits) later

theorem phase_settled (c : Channel) : c.phase ≠ .ended ∧ c.phase ≠ .exhausted := by
  cases state : c.state <;> cases task : c.task <;> simp [phase, state, task]

/-- What a run announced, with what its task still owes, tells of everything that happened in it and
of nothing else: one connecting for each opening, one disconnecting for each loss, one error for
each failure, one closing.  Connecting and disconnecting alternate, nothing but errors follows the
closing, and a failed link, an ended link and a strategy that gives up are followed by what they
lead to. -/
theorem events_tell_history (moves : List Move) (uninterrupted : Uninterrupted {} moves) :
    let c := (run {} moves).1
    let events := announced (run {} moves).2
    let past := chronicle {} moves
    events ++ c.task.owed = tell past ∧
    (false :: ups events).IsChain (· ≠ ·) ∧
    (∀ before after, events = before ++ .close :: after →
      ∀ event ∈ after, ∃ fault, event = .error fault) ∧
    ∀ before h after, past = before ++ h :: after → h.LeadsTo after := by
  intro c events past
  have h : c.Told events past := told_fresh.run uninterrupted
  refine ⟨h.told, ?alternate, ?last, ?leads⟩
  case alternate =>
      have whole : (false :: (ups events ++ ups c.task.owed)).IsChain (· ≠ ·) := by
        simpa [← h.told, Phase.linked] using h.walk.alternates
      rw [← List.cons_append] at whole
      exact (List.isChain_append.mp whole).1
  case last =>
      rintro before after split event later
      have told : tell past = before ++ .close :: (after ++ c.task.owed) := by
        rw [← h.told, split, List.append_assoc, List.cons_append]
      exact h.walk.closes_once told event (List.mem_append_left _ later)
  case leads =>
      intro before happening after split
      obtain ⟨p, -, rest⟩ := Phase.Walk.split (split ▸ h.walk)
      exact rest.leads c.phase_settled

/-- A link fails, a second one opens, and the listener of its opening closes the channel. -/
theorem second_link_closed_while_announced :
    let moves := [.send "a", .start, .proceed, .answer .linked, .answer .done, .answer .done,
      .proceed, .answer (.writeFailed (.transport "reset")), .answer .done, .answer .done,
      .answer (.delay (some 1)), .answer .elapsed, .proceed, .answer .linked, .answer .done,
      .close, .answer .done, .proceed, .answer .done]
    Uninterrupted {} moves ∧
      announced (run {} moves).2 =
        [.connect, .error (.transport "reset"), .disconnect, .connect, .close] ∧
      announced (run {} moves).2 = tell (chronicle {} moves) ∧
      (false :: ups (announced (run {} moves).2)).IsChain (· ≠ ·) := by
  intro moves
  have uninterrupted : Uninterrupted {} moves := by
    intro before m after split interrupts
    cases m with
    | close =>
        obtain rfl : before = moves.take 15 := by
          simp [moves, List.cons_eq_append_iff] at split
          exact split.1
        change Task.announcingOpen ≠ .resetting
        simp
    | answer a =>
        cases a with
        | panicked => simp [moves, List.cons_eq_append_iff] at split
        | _ => cases interrupts
    | _ => cases interrupts
  have paid : (run {} moves).1.task.owed = [] := rfl
  obtain ⟨told, alternate, -, -⟩ := events_tell_history moves uninterrupted
  exact ⟨uninterrupted, rfl, by simpa [paid] using told, alternate⟩

end DuplexRpc.Channel
