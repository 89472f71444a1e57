import DuplexRpc.Proofs.Channel.Links
import DuplexRpc.Proofs.Channel.Retries
import DuplexRpc.Proofs.Telemetry.Readings

/-!
# Counted reconnections

An attempt is counted as a reconnection when it begins, unless it is the first; an opening is
counted as one when the strategy was told of it, unless the channel was never open before.  The two
conditions differ after a first attempt that failed: the opening that ends the failures belongs to
an attempt that was counted and is not counted itself.  An opening over which the strategy panics
is not counted either, and no other one follows it.
-/

namespace DuplexRpc.Channel

open DuplexRpc.Telemetry

/-- An attempt has not opened a link until it does. -/
def Mark.settle (past : List Bool) : Mark → List Bool
  | .dialed => past ++ [false]
  | .opened => past.dropLast ++ [true]
  | _ => past

/-- For each attempt in their order, whether the channel came to be open by it. -/
def outcomes (seen : List Occurrence) : List Bool := (marks seen).foldl Mark.settle []

/-- Telling the strategy of an opening begins at one point of the task and is over at another. -/
def Task.untold (was : Bool) : Task → Bool
  | .resetting => true
  | .announcingOpen => false
  | _ => was

def Occurrence.untold (was : Bool) : Occurrence → Bool
  | .entered task => task.untold was
  | _ => was

/-- The strategy was not told of the last opening yet, or it panicked over it. -/
def untold (seen : List Occurrence) : Bool := seen.foldl Occurrence.untold false

/-- The opening that is counted only when the strategy was told of it. -/
def uncounted (c : Channel) (seen : List Occurrence) : Nat :=
  if c.openedBefore && untold seen then 1 else 0

def Mark.dials : Mark → Bool
  | .dialed => true
  | _ => false

theorem untold_append (seen later : List Occurrence) :
    untold (seen ++ later) = later.foldl Occurrence.untold (untold seen) :=
  List.foldl_append

theorem untold_arrival (c : Channel) (readings : List Reading) (was : Bool) :
    (c.arrival readings).foldl Occurrence.untold was = c.task.untold was := by
  have recorded : (readings.map .recorded).foldl Occurrence.untold was = was := by
    induction readings with
    | nil => rfl
    | cons reading readings ih => exact ih
  cases event : c.announcement? <;> simp [arrival, recorded, Occurrence.untold, event]

theorem outcomes_append (seen later : List Occurrence) :
    outcomes (seen ++ later) = (marks later).foldl Mark.settle (outcomes seen) := by
  simp [outcomes]

/-- What the task's point says of the attempts so far. -/
def Tried (c : Channel) (past : List Bool) : Prop :=
  match c.task with
  | .absent => past = [] ∧ c.openedBefore = false ∧ c.attempts = 0
  | .attempting => past = [] ↔ c.openedBefore = false ∧ c.attempts = 0
  | .dialing => ∃ earlier, past = earlier ++ [false]
  | .finished => True
  | _ => past ≠ []

/-- The attempts and the openings of a run, with what the counters show of them. -/
structure Tally (c : Channel) (past : List Bool) (pending : Bool) (retries successes : Nat) :
    Prop where
  tried : c.Tried past
  retried : retries = past.length - 1
  opened : past.count true = (if c.openedBefore then successes + 1 else 0) +
    if pending then 1 else 0
  fresh : c.openedBefore = false → successes = 0
  begun : c.task = .resetting → pending = true
  ended : pending = true → c.task = .resetting ∨ c.task = .crashed

variable {c moved : Channel} {m : Move} {a : Option Answer} {readings : List Reading}
  {seen : List Occurrence} {past : List Bool} {pending : Bool} {retries successes : Nat}

theorem Tally.told (h : Tally c past pending retries successes) (settled : c.task ≠ .resetting)
    (uncrashed : c.task ≠ .crashed) : pending = false := by
  by_contra untold
  rcases h.ended (by simpa using untold) with resetting | crashed
  · exact settled resetting
  · exact uncrashed crashed

/-- A move between two points of an attempt, of a link or of a delay. -/
theorem Tally.keep (h : Tally c past pending retries successes) (settled : c.task ≠ .resetting)
    (uncrashed : c.task ≠ .crashed) (after : moved.task ≠ .resetting)
    (openedBefore : moved.openedBefore = c.openedBefore) (tried : moved.Tried past) :
    Tally moved past pending retries successes where
  tried := tried
  retried := h.retried
  opened := by
    rw [openedBefore]
    exact h.opened
  fresh := by
    rw [openedBefore]
    exact h.fresh
  begun := fun resetting => absurd resetting after
  ended := by simp [h.told settled uncrashed]

theorem Tally.attempt (h : Tally c past pending retries successes) (task : c.task = .attempting) :
    Tally { c with state := .connecting, published := .connecting, task := .dialing }
      (past ++ [false]) pending (retries + if c.openedBefore || 0 < c.attempts then 1 else 0)
      successes where
  tried := ⟨past, rfl⟩
  retried := by
    have tried : past = [] ↔ c.openedBefore = false ∧ c.attempts = 0 := by
      simpa only [Tried, task] using h.tried
    rw [h.retried, List.length_append, List.length_singleton, Nat.add_sub_cancel]
    by_cases first : past = []
    · obtain ⟨unopened, calm⟩ := tried.mp first
      simp [first, unopened, calm]
    · -- An attempt that was made has opened the channel or left a failure behind.
      have counted : c.openedBefore || 0 < c.attempts := by
        by_contra uncounted
        exact first (tried.mpr (by simpa using uncounted))
      have some : 0 < past.length := List.length_pos_iff.mpr first
      rw [if_pos counted]
      omega
  opened := by simpa using h.opened
  fresh := h.fresh
  begun := nofun
  ended := by simp [h.told (by simp [task]) (by simp [task])]

theorem Tally.link (h : Tally c past pending retries successes) (task : c.task = .dialing) :
    Tally
      { c with
        state := .open, published := .open, attempts := 0, outlet := .queue c.buffer,
        buffer := [], task := .resetting }
      (past.dropLast ++ [true]) true retries successes := by
  have told := h.told (by simp [task]) (by simp [task])
  obtain ⟨earlier, rfl⟩ : ∃ earlier, past = earlier ++ [false] := by
    simpa only [Tried, task] using h.tried
  constructor
  case tried => simp [Tried]
  case retried => simpa using h.retried
  case opened => simpa [told] using h.opened
  case fresh => exact h.fresh
  case begun => exact fun _ => rfl
  case ended => exact fun _ => .inl rfl

theorem Tally.reset (h : Tally c past pending retries successes) (task : c.task = .resetting) :
    Tally { c with openedBefore := true, task := .announcingOpen } past false retries
      (successes + if c.openedBefore then 1 else 0) where
  tried := by simpa only [Tried, task] using h.tried
  retried := h.retried
  opened := by
    have opened := h.opened
    have fresh := h.fresh
    have begun := h.begun task
    cases before : c.openedBefore <;> simp_all
  fresh := nofun
  begun := nofun
  ended := nofun

theorem Tried.ne_nil (tried : c.Tried past) (unguarded : c.task.unguarded) : past ≠ [] := by
  cases task : c.task with
  | dialing =>
      obtain ⟨earlier, rfl⟩ := by simpa only [Tried, task] using tried
      simp
  | resetting | serving | writing | delivering | consulting | hangingUp =>
      simpa only [Tried, task] using tried
  | _ => simp [task, Task.unguarded] at unguarded

/-- A panic over an opening leaves it uncounted. -/
theorem Tally.crash (h : Tally c past pending retries successes) (unguarded : c.task.unguarded) :
    Tally c.crash past pending retries successes where
  tried := h.tried.ne_nil unguarded
  retried := h.retried
  opened := h.opened
  fresh := h.fresh
  begun := nofun
  ended := fun _ => .inr rfl

theorem Tally.task_move (h : Tally c past pending retries successes)
    (move : TaskMove c a moved readings) :
    Tally moved (moved.task.mark?.toList.foldl Mark.settle past) (moved.task.untold pending)
      (retries + total .reconnectionAttempts readings)
      (successes + total .reconnectionSuccess readings) := by
  have tried := h.tried
  have uncrashed := move.uncrashed
  cases move with
  | attempt task alive =>
      have attempt := h.attempt task
      split <;> simp_all [Task.mark?, Mark.settle, Task.untold, Reading.instrument]
  | link task alive =>
      simpa [Task.mark?, Mark.settle, Task.untold, Reading.instrument] using h.link task
  | reset task =>
      have reset := h.reset task
      split <;> simp_all [Task.mark?, Task.untold, Reading.instrument]
  | quit task closed =>
      have settled : c.task ≠ .resetting := by
        intro resetting
        simp [resetting, Task.looksUp] at task
      exact h.keep settled uncrashed (by simp) rfl trivial
  | hangUp task closed =>
      have some : past ≠ [] := by
        refine tried.ne_nil ?_
        rcases task with task | task <;> simp [task, Task.unguarded]
      refine h.keep ?_ uncrashed (by simp) rfl some
      rcases task with task | task <;> simp [task]
  | crash task => exact h.crash task
  | finish task =>
      refine h.keep ?_ uncrashed (by simp) rfl trivial
      rcases task with task | task <;> simp [task]
  | refused fault task =>
      obtain ⟨earlier, rfl⟩ := by simpa only [Tried, task] using tried
      exact h.keep (by simp [task]) uncrashed (by simp) rfl (by simp [Tried])
  | lose task alive =>
      have some : past ≠ [] := by
        rcases task with ⟨task, -⟩ | ⟨_, task, -⟩ <;> simpa only [Tried, task] using tried
      refine h.keep ?_ uncrashed (by simp) rfl some
      rcases task with ⟨task, -⟩ | ⟨_, task, -⟩ <;> simp [task]
  | wake delay task alive =>
      have some : past ≠ [] := by simpa only [Tried, task] using tried
      exact h.keep (by simp [task]) uncrashed (by simp) rfl (by simp [Tried, some, maxAttempts])
  | setBack _ task | serve task | take _ _ task | receive _ task | readFailed _ task
  | wrote _ task | writeFailed _ _ task | delivered _ task | consult task | sleep _ _ task
  | giveUp _ task | exhausted _ task =>
      have some : past ≠ [] := by simpa only [Tried, task] using tried
      exact h.keep (by simp [task]) uncrashed (by simp) rfl some

theorem Tally.step (h : Tally c past pending retries successes)
    (absent : c.started = false → c.task = .absent) (move : Step c m moved seen) :
    Tally moved ((marks seen).foldl Mark.settle past) (seen.foldl Occurrence.untold pending)
      (retries + total .reconnectionAttempts (recorded seen))
      (successes + total .reconnectionSuccess (recorded seen)) := by
  cases move with
  | proceed move | answer move =>
      rw [marks_arrival, recorded_arrival, untold_arrival]
      exact h.task_move move
  | started first =>
      have task := absent first
      have tried : past = [] ∧ c.openedBefore = false ∧ c.attempts = 0 := by
        simpa only [Tried, task] using h.tried
      exact h.keep (by simp [task]) (by simp [task]) nofun rfl (iff_of_true tried.1 tried.2)
  | idle | sendRefused | sendQueued | sendBuffered | startRefused | close =>
      exact ⟨h.tried, h.retried, h.opened, h.fresh, h.begun, h.ended⟩

theorem Tried.settle (tried : c.Tried past) (move : TaskMove c a moved readings) :
    let later := moved.task.mark?.toList.foldl Mark.settle past
    later.length = past.length + moved.task.mark?.toList.countP (·.dials) ∧
      later.count true = past.count true + moved.task.mark?.toList.countP (·.opens) := by
  cases move with
  | link task alive =>
      obtain ⟨earlier, rfl⟩ := by simpa only [Tried, task] using tried
      simp [Task.mark?, Mark.settle, Mark.dials, Mark.opens]
  | crash =>
      have task : c.crash.task = .crashed := rfl
      simp [task, Task.mark?]
  | _ => simp [Task.mark?, Mark.settle, Mark.dials, Mark.opens]

theorem Tried.step (tried : c.Tried past) (move : Step c m moved seen) :
    let later := (marks seen).foldl Mark.settle past
    later.length = past.length + (marks seen).countP (·.dials) ∧
      later.count true = past.count true + (marks seen).countP (·.opens) := by
  cases move with
  | proceed move | answer move =>
      rw [marks_arrival]
      exact tried.settle move
  | _ => exact ⟨rfl, rfl⟩

/-! ## Every run -/

/-- What a run shows of its attempts. -/
structure Shown (c : Channel) (seen : List Occurrence) : Prop where
  placed : c.Placed
  tally : Tally c (outcomes seen) (untold seen) (total .reconnectionAttempts (recorded seen))
    (total .reconnectionSuccess (recorded seen))
  attempts : (outcomes seen).length = (marks seen).countP (·.dials)
  openings : (outcomes seen).count true = (marks seen).countP (·.opens)

theorem Shown.step (h : Shown c seen) (m : Move) :
    Shown (c.step m).1 (seen ++ (c.step m).2) := by
  have step := Step.of_step c m
  obtain ⟨attempts, openings⟩ := h.tally.tried.step step
  constructor
  case placed => exact h.placed.step step
  case tally =>
      rw [outcomes_append, untold_append, recorded_append, total_append, total_append]
      exact h.tally.step h.placed.absent step
  case attempts => rw [outcomes_append, marks_append, List.countP_append, attempts, h.attempts]
  case openings => rw [outcomes_append, marks_append, List.countP_append, openings, h.openings]

theorem run_shown (moves : List Move) : Shown (run {} moves).1 (run {} moves).2 :=
  replay_keeps Shown (fun _ _ m _ h => h.step m)
    ⟨placed_fresh, ⟨⟨rfl, rfl, rfl⟩, rfl, rfl, fun _ => rfl, nofun, nofun⟩, rfl, rfl⟩

theorem Tally.successes_add_uncounted (h : Tally c past (untold seen) retries successes) :
    successes + c.uncounted seen = past.count true - 1 := by
  rw [h.opened, uncounted]
  cases before : c.openedBefore with
  | false =>
      rw [h.fresh before]
      cases untold seen <;> rfl
  | true =>
      simp only [Bool.true_and, if_true]
      omega

theorem count_tail (past : List Bool) :
    past.tail.count true =
      past.count true - 1 + if past.head? = some false ∧ true ∈ past then 1 else 0 := by
  cases past with
  | nil => rfl
  | cons first later =>
      cases first with
      | true => simp
      | false =>
          by_cases reopened : true ∈ later
          · simp [reopened]
          · simp [reopened, List.count_eq_zero_of_not_mem reopened]

/-- How often the connector was asked for a link. -/
def connects (seen : List Occurrence) : Nat := (marks seen).countP (·.dials)

theorem retries_run (moves : List Move) :
    total .reconnectionAttempts (recorded (run {} moves).2) =
      connects (run {} moves).2 - 1 := by
  have shown := run_shown moves
  rw [shown.tally.retried, shown.attempts, connects]

theorem Tally.uncounted_cases (h : Tally c past (untold seen) retries successes) :
    c.uncounted seen = 0 ∨ c.task = .resetting ∨ c.task = .crashed := by
  by_cases pending : untold seen = true
  · exact .inr (h.ended pending)
  · exact .inl (by simp [uncounted, pending])

/-- The counter of attempts shows every attempt but the first.  The counter of successes shows every
opening but the first, once the strategy was told of it, so it never shows more than the other; of
the attempts after the first that opened it misses one when the first attempt failed and a later one
did not. -/
theorem reconnections_counted (moves : List Move) :
    let c := (run {} moves).1
    let seen := (run {} moves).2
    let past := outcomes seen
    let retries := total .reconnectionAttempts (recorded seen)
    let successes := total .reconnectionSuccess (recorded seen)
    past.length = connects seen ∧
    past.count true = (chronicle {} moves).countP (·.opens) ∧
    retries = past.length - 1 ∧
    successes + c.uncounted seen = past.count true - 1 ∧
    (c.uncounted seen = 0 ∨ c.task = .resetting ∨ c.task = .crashed) ∧
    past.tail.count true =
      successes + c.uncounted seen + (if past.head? = some false ∧ true ∈ past then 1 else 0) ∧
    successes ≤ retries := by
  intro c seen past retries successes
  obtain ⟨-, tally, attempts, openings⟩ := run_shown moves
  have counted := tally.successes_add_uncounted
  have every : past.count true ≤ past.length := List.count_le_length
  refine ⟨attempts, ?openings, tally.retried, counted, tally.uncounted_cases, ?missed, ?bounded⟩
  case openings => rw [openings, openings_run placed_fresh moves]
  case missed => rw [counted, count_tail]
  case bounded =>
      calc
        successes ≤ past.count true - 1 := Nat.le.intro counted
        _ ≤ past.length - 1 := Nat.sub_le_sub_right every 1
        _ = retries := tally.retried.symm

/-- The first attempt fails and the second one opens. -/
theorem second_attempt_opens_uncounted :
    let moves := [.start, .proceed, .answer (.refused .timeout), .answer .done,
      .answer (.delay (some 0)), .answer .elapsed, .proceed, .answer .linked, .answer .done,
      .answer .done]
    let seen := (run {} moves).2
    (run {} moves).1.state = .open ∧ (run {} moves).1.uncounted seen = 0 ∧
      outcomes seen = [false, true] ∧ total .reconnectionAttempts (recorded seen) = 1 ∧
      total .reconnectionSuccess (recorded seen) ≠ (outcomes seen).tail.count true := by
  decide

end DuplexRpc.Channel
