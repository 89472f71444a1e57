import DuplexRpc.Proofs.Channel.Closed
import DuplexRpc.Proofs.Channel.Consistency

/-!
# Payloads in transit

Every payload that a channel accepted was taken for writing, waits in the queue of the current
link, or waits in the buffer, and the three in this order list the accepted payloads in the order
in which they were sent.  Nothing is lost, doubled or overtaken by another, however often the link
is lost in between.
-/

namespace DuplexRpc.Channel

open DuplexRpc.Telemetry

variable {c moved : Channel} {seen : List Occurrence} {m : Move}

/-- The accepted payloads that nobody took for writing. -/
def pending (c : Channel) : List String := c.queued ++ c.buffer

theorem Consistent.queued_eq_nil (h : c.Consistent) (state : c.state ≠ .open) :
    c.queued = [] := by
  simp [queued, h.detached state]

/-- The task takes from the front of what is pending, and otherwise only moves it. -/
theorem TaskMove.pending_eq {a : Option Answer} {readings : List Reading} (h : c.Consistent)
    (calm : a ≠ some .panicked) (alive : moved.state ≠ .closed)
    (move : TaskMove c a moved readings) : moved.task.holding ++ moved.pending = c.pending := by
  cases move with
  | link task _ =>
      have unlinked : c.queued = [] :=
        h.queued_eq_nil (h.not_open (by simp [task, Task.serves]))
      have buffered : c.pending = c.buffer := by
        simp [pending, unlinked]
      rw [buffered]
      simp [pending, queued, Task.holding]
  | take payload rest task _ outlet =>
      simp [pending, queued, outlet, Task.holding]
  | lose task _ =>
      by_cases isOpen : c.state = .open
      · simp [pending, queued, h.unbuffered isOpen, Task.holding]
      · simp [pending, queued, h.detached isOpen, Task.holding]
  | giveUp attempts task _ => exact absurd rfl alive
  | crash task => contradiction
  | _ => rfl

theorem Step.pending_eq (h : c.Consistent) (calm : m ≠ .answer .panicked)
    (alive : moved.state ≠ .closed) (move : Step c m moved seen) :
    taken seen ++ moved.pending = c.pending ++ accepted seen := by
  cases move with
  | idle => simp
  | sendRefused | startRefused | started =>
      simp [Occurrence.taken?, Occurrence.accepted?, pending, queued]
  | sendQueued payload payloads isOpen outlet =>
      simp [Occurrence.taken?, Occurrence.accepted?, pending, queued, outlet,
        h.unbuffered isOpen]
  | sendBuffered payload _ _ =>
      simp [Occurrence.taken?, Occurrence.accepted?, pending, queued]
  | close _ => exact absurd rfl alive
  | proceed move =>
      simpa using move.pending_eq h (by simp) alive
  | answer move =>
      simpa using move.pending_eq h (by simpa using calm) alive

theorem Step.silent (closed : moved.state = .closed) (move : Step c m moved seen) :
    taken seen = [] ∧ accepted seen = [] := by
  cases move with
  | sendQueued payload payloads isOpen outlet => cases closed.symm.trans isOpen
  | sendBuffered payload alive detached => exact absurd closed alive
  | proceed move =>
      cases move with
      | take payload rest task alive outlet => exact absurd closed alive
      | _ => simp [Task.holding]
  | answer move => cases move <;> simp [Task.holding, crash]
  | _ => exact ⟨rfl, rfl⟩

structure Conserved (c : Channel) (seen : List Occurrence) : Prop where
  consistent : c.Consistent
  inOrder : c.state ≠ .closed → taken seen ++ c.pending = accepted seen
  ahead : taken seen <+: accepted seen

theorem conserved_fresh : Conserved {} [] := ⟨consistent_fresh, fun _ => rfl, List.prefix_rfl⟩

theorem Conserved.step {more : List Occurrence} (h : c.Conserved seen)
    (calm : m ≠ .answer .panicked) (move : Step c m moved more) :
    moved.Conserved (seen ++ more) := by
  have consistent : moved.Consistent := h.consistent.step calm move
  have inOrder : moved.state ≠ .closed →
      taken (seen ++ more) ++ moved.pending = accepted (seen ++ more) := by
    intro alive
    calc
      taken (seen ++ more) ++ moved.pending
          = taken seen ++ (taken more ++ moved.pending) := by simp
      _ = taken seen ++ (c.pending ++ accepted more) := by
          rw [move.pending_eq h.consistent calm alive]
      _ = (taken seen ++ c.pending) ++ accepted more := by simp
      _ = accepted (seen ++ more) := by
          rw [h.inOrder (move.alive alive), accepted_append]
  refine ⟨consistent, inOrder, ?_⟩
  -- Closing forgets what was pending, so of the order only the prefix is left.
  by_cases closed : moved.state = .closed
  · obtain ⟨untaken, unaccepted⟩ := move.silent closed
    simpa [untaken, unaccepted] using h.ahead
  · exact ⟨moved.pending, inOrder closed⟩

theorem run_conserved {moves : List Move} (calm : .answer .panicked ∉ moves) :
    (run {} moves).1.Conserved (run {} moves).2 := by
  refine replay_keeps Conserved ?_ conserved_fresh
  intro c seen m taken h
  have calm : m ≠ .answer .panicked := fun same => calm (same ▸ taken)
  exact h.step calm (.of_step c m)

/-- Until the channel is closed, what was taken for writing, what is queued and what is buffered
are the payloads that were accepted, in this order; afterwards what was taken is where they begin,
and nothing more is taken. -/
theorem payloads_conserved (moves : List Move) (calm : .answer .panicked ∉ moves) :
    let c := (run {} moves).1
    let seen := (run {} moves).2
    (c.state ≠ .closed → taken seen ++ c.queued ++ c.buffer = accepted seen) ∧
    (c.state = .closed →
      taken seen <+: accepted seen ∧ ∀ later, taken (c.run later).2 = []) := by
  intro c seen
  have conserved : c.Conserved seen := run_conserved calm
  refine ⟨fun alive => ?_, fun closed => ⟨conserved.ahead, fun later => ?_⟩⟩
  · rw [List.append_assoc]
    exact conserved.inOrder alive
  · exact (Inert.run closed (run_emptyIfClosed moves) later).untaken

/-- A link that fails while it writes, with one payload still queued and another that is sent
while the failure is announced. -/
theorem payloads_conserved_failed_write :
    let moves := [.send "a", .send "b", .start, .proceed, .answer .linked, .answer .done,
      .answer .done, .proceed, .answer (.writeFailed .connectionClosed), .send "c",
      .answer .done]
    .answer .panicked ∉ moves ∧ (run {} moves).1.state = .disconnected ∧
      taken (run {} moves).2 ++ (run {} moves).1.queued ++ (run {} moves).1.buffer =
        accepted (run {} moves).2 ∧
      accepted (run {} moves).2 = ["a", "b", "c"] := by
  intro moves
  have calm : .answer .panicked ∉ moves := by simp [moves]
  have state : (run {} moves).1.state = .disconnected := rfl
  have alive : (run {} moves).1.state ≠ .closed := by simp [state]
  exact ⟨calm, state, (payloads_conserved moves calm).1 alive, rfl⟩

end DuplexRpc.Channel
