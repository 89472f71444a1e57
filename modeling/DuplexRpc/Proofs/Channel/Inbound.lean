import Mathlib.Logic.Function.Basic
import DuplexRpc.Proofs.Channel.Announcements
import DuplexRpc.Proofs.Channel.Closed
import DuplexRpc.Proofs.Channel.Links

/-!
# Inbound frames

A channel with the links that it opened.  Links yield frames at any time, whether or not they are
read, and keep them in order until they are.  Only the last link is read, a frame at a time, and a
frame is taken off it when the connection task does something with it: it delivers a payload, and
anything else ends the reading.
-/

namespace DuplexRpc.Channel

open DuplexRpc.Telemetry

variable {c moved : Channel} {m : Move} {a : Option Answer} {readings : List Reading}
  {seen : List Occurrence}

/-! ## Links -/

/-- What a link yields when it is read. -/
inductive Frame where
  | payload (text : String)
  | failure (fault : Fault)
  /-- The stream is over. -/
  | finish

def Frame.answer : Frame → Answer
  | .payload text => .received text
  | .failure fault => .readFailed fault
  | .finish => .ended

def Frame.isPayload : Frame → Bool
  | .payload _ => true
  | _ => false

theorem Frame.eq_payload {frame : Frame} (kind : frame.isPayload) :
    ∃ text, frame = .payload text := by
  cases frame with
  | payload text => exact ⟨text, rfl⟩
  | _ => cases kind

/-- The payloads before the first failure or the end. -/
def payloads : List Frame → List String
  | .payload text :: frames => text :: payloads frames
  | _ => []

structure Wired where
  channel : Channel := {}
  /-- Links that were opened.  They are numbered from one, and the last one is the current one. -/
  links : Nat := 0
  /-- What each link holds that was not read. -/
  inbox : Nat → List Frame := fun _ => []

inductive Act where
  | yield (link : Nat) (frame : Frame)
  | move (m : Move) (other : m.reads = false)
  /-- The channel looks at what is first on its link. -/
  | read

inductive Sight where
  | yielded (link : Nat) (frame : Frame)
  /-- The channel showed this while that was the last link. -/
  | shown (link : Nat) (o : Occurrence)

namespace Wired

def move (w : Wired) (m : Move) : Wired × List Sight :=
  let (channel, seen) := w.channel.step m
  let links := w.links + seen.countP Occurrence.opens
  ({ w with channel, links }, seen.map (.shown links))

def step (w : Wired) : Act → Wired × List Sight
  | .yield link frame =>
      ({ w with inbox := Function.update w.inbox link (w.inbox link ++ [frame]) },
        [.yielded link frame])
  | .move m _ => w.move m
  | .read =>
      match w.inbox w.links with
      | [] => (w, [])
      | frame :: rest =>
          if (w.channel.answer? frame.answer).isSome then
            ({ w with inbox := Function.update w.inbox w.links rest }).move (.answer frame.answer)
          else (w, [])

def run : Wired → List Act → Wired × List Sight := replay step

end Wired

def Sight.yielded? (k : Nat) : Sight → Option Frame
  | .yielded link frame => if link = k then some frame else none
  | .shown _ _ => none

def Sight.delivering? (k : Nat) : Sight → Option String
  | .yielded _ _ => none
  | .shown link o => if link = k then o.delivering? else none

def Sight.recorded? : Sight → Option Reading
  | .yielded _ _ => none
  | .shown _ o => o.recorded?

/-- The frames that a link yielded. -/
def yielded (k : Nat) (seen : List Sight) : List Frame := seen.filterMap (·.yielded? k)

/-- The payloads from a link that were handed over. -/
def handed (k : Nat) (seen : List Sight) : List String := seen.filterMap (·.delivering? k)

theorem yielded_append (k : Nat) (seen later : List Sight) :
    yielded k (seen ++ later) = yielded k seen ++ yielded k later :=
  List.filterMap_append

theorem handed_append (k : Nat) (seen later : List Sight) :
    handed k (seen ++ later) = handed k seen ++ handed k later :=
  List.filterMap_append

theorem yielded_shown (k link : Nat) (seen : List Occurrence) :
    yielded k (seen.map (.shown link)) = [] := by
  simp [yielded, Sight.yielded?]

theorem handed_shown (k link : Nat) (seen : List Occurrence) :
    handed k (seen.map (.shown link)) =
      if link = k then seen.filterMap Occurrence.delivering? else [] := by
  by_cases own : link = k <;>
    simp [handed, Sight.delivering?, own, List.filterMap_map]

/-! ## Where a link stands -/

theorem mem_shown {past : List Sight} {k link : Nat} {o : Occurrence} :
    .shown k o ∈ past ++ seen.map (.shown link) ↔ .shown k o ∈ past ∨ k = link ∧ o ∈ seen := by
  simp [eq_comm, and_comm]

namespace Wired

variable {w : Wired} {past : List Sight}

/-- What was announced of the links so far, by where the task stands. -/
structure Placed (w : Wired) (seen : List Sight) : Prop where
  absent : w.channel.started = false → w.channel.task = .absent
  opened : w.channel.task.listens → 0 < w.links
  bounded : ∀ k o, .shown k o ∈ seen → k ≤ w.links
  closed : ∀ k, .shown k (.recorded (.state .closed)) ∈ seen → w.channel.state = .closed
  connected : w.channel.task.connected → .shown w.links (.announced .connect) ∈ seen
  unlost : w.channel.task.listens → .shown w.links (.announced .disconnect) ∉ seen
  lost : ∀ k, 0 < k → k < w.links ∨ k = w.links ∧ w.channel.task.unlinked →
    .shown k (.announced .disconnect) ∈ seen

theorem placed_fresh : Wired.Placed {} [] where
  absent := fun _ => rfl
  opened := nofun
  bounded := by simp
  closed := by simp
  connected := nofun
  unlost := by simp
  lost k positive placed := by
    have earlier : k < 0 ∨ k = 0 := placed.imp_right And.left
    omega

/-- A link is read when there is nothing else to do. -/
theorem answer?_frame_isSome (frame : Frame) :
    (c.answer? frame.answer).isSome ↔ c.task = .serving ∧ c.idle := by
  cases task : c.task <;> cases frame <;> by_cases idle : c.idle <;>
    simp [answer?, Frame.answer, task, idle]

theorem Placed.move (h : w.Placed past) (m : Move) :
    (w.move m).1.Placed (past ++ (w.move m).2) := by
  have step := Step.of_step w.channel m
  have passes := step.passes h.absent
  simp only [Wired.move]
  constructor
  case absent => exact Task.absent_of_step h.absent step
  case opened =>
      intro later
      cases passes with
      | opens before after counted => exact Nat.lt_add_left _ (counted ▸ Nat.one_pos)
      | loses after => simp [after, Task.listens] at later
      | keeps _ _ listens => exact Nat.lt_add_right _ (h.opened (listens later))
  case bounded =>
      intro k o shown
      rcases mem_shown.mp shown with earlier | ⟨rfl, -⟩
      · exact Nat.le_add_right_of_le (h.bounded k o earlier)
      · exact Nat.le_refl _
  case closed =>
      intro k shown
      rcases mem_shown.mp shown with earlier | ⟨-, now⟩
      · exact step.closed (h.closed k earlier)
      · exact step.closes now
  case connected =>
      intro later
      cases passes with
      | opens _ after => simp [after, Task.connected] at later
      | loses after => simp [after, Task.connected] at later
      | keeps uncounted _ _ _ connected =>
          rw [mem_shown, uncounted]
          rcases connected later with before | now
          · exact .inl (h.connected before)
          · exact .inr ⟨rfl, now⟩
  case unlost =>
      intro later shown
      rcases mem_shown.mp shown with earlier | ⟨-, now⟩
      · cases passes with
        | opens before after counted quiet =>
            rw [counted] at earlier
            have bound : w.links + 1 ≤ w.links := h.bounded _ _ earlier
            omega
        | loses after => simp [after, Task.listens] at later
        | keeps uncounted quiet listens =>
            rw [uncounted] at earlier
            exact h.unlost (listens later) earlier
      · cases passes with
        | opens _ _ _ quiet | keeps _ quiet => exact quiet now
        | loses after => simp [after, Task.listens] at later
  case lost =>
      intro k positive placed
      rw [mem_shown]
      cases passes with
      | opens before after counted quiet =>
          have earlier : k < w.links ∨ k = w.links := by
            simp only [counted, after, Task.unlinked, Bool.false_eq_true, and_false, or_false]
              at placed
            omega
          refine .inl (h.lost k positive ?_)
          exact earlier.imp_right fun same => ⟨same, by simp [before, Task.unlinked]⟩
      | loses after uncounted announced =>
          rw [uncounted] at placed ⊢
          rcases placed with earlier | ⟨same, -⟩
          · exact .inl (h.lost k positive (.inl earlier))
          · exact .inr ⟨same, announced⟩
      | keeps uncounted quiet listens unlinked =>
          rw [uncounted] at placed
          exact .inl (h.lost k positive (placed.imp_right (.imp_right unlinked)))

theorem Placed.unread (h : w.Placed past) (inbox : Nat → List Frame) :
    Wired.Placed { w with inbox } past := by
  constructor
  · exact h.absent
  · exact h.opened
  · exact h.bounded
  · exact h.closed
  · exact h.connected
  · exact h.unlost
  · exact h.lost

theorem Placed.yield (h : w.Placed past) (link : Nat) (frame : Frame) :
    w.Placed (past ++ [.yielded link frame]) := by
  constructor
  · exact h.absent
  · exact h.opened
  · simpa using h.bounded
  · simpa using h.closed
  · simpa using h.connected
  · simpa using h.unlost
  · simpa using h.lost

/-! ## When the reading of a link ends -/

/-- A link that was opened and is not read any more. -/
def Left (w : Wired) (k : Nat) : Prop :=
  0 < k ∧ (k < w.links ∨ k = w.links ∧ w.channel.task.listens = false)

/-- What else than a failure to read it or its end may end the reading of a link: a failed write, a
closing, or a panic of the handler, of the strategy or of the link itself. -/
def Cut (w : Wired) (past : List Sight) (k : Nat) : Prop :=
  .shown k (.recorded (.error "write")) ∈ past ∨
    (.shown k (.entered .hangingUp) ∈ past ∧ w.channel.state = .closed) ∨
    (w.channel.task = .crashed ∧ .shown k (.announced .disconnect) ∉ past)

variable {k : Nat}

theorem Left.move (left : w.Left k) (h : w.Placed past) (m : Move) : (w.move m).1.Left k := by
  obtain ⟨positive, before⟩ := left
  refine ⟨positive, ?_⟩
  simp only [Wired.move]
  cases (Step.of_step w.channel m).passes h.absent with
  | opens _ _ counted =>
      rw [counted]
      omega
  | loses after uncounted =>
      rw [uncounted, after]
      exact before.imp_right fun same => ⟨same.1, rfl⟩
  | keeps uncounted _ listens =>
      rw [uncounted]
      refine before.imp_right fun same => ⟨same.1, ?_⟩
      simpa [same.2] using listens

theorem links_move (h : w.Placed past) (landed : w.channel.task ≠ .dialing) :
    (w.move m).1.links = w.links := by
  cases (Step.of_step w.channel m).passes h.absent with
  | opens before => exact absurd before landed
  | loses _ uncounted | keeps uncounted =>
      simp only [Wired.move, uncounted]
      rfl

theorem ne_dialing_of_listens {t : Task} (listens : t.listens) : t ≠ .dialing := by
  rintro rfl
  cases listens

/-- Only the current link can be left, by a step that ends its reading. -/
theorem left_of_move (h : w.Placed past) (m : Move) (left : (w.move m).1.Left k) :
    w.Left k ∨ k = w.links ∧ w.channel.task.listens ∧
      (w.move m).1.channel.task.listens = false := by
  obtain ⟨positive, after⟩ := left
  by_cases listens : w.channel.task.listens
  · rw [links_move h (ne_dialing_of_listens listens)] at after
    rcases after with earlier | ⟨current, ended⟩
    · exact .inl ⟨positive, .inl earlier⟩
    · exact .inr ⟨current, listens, ended⟩
  · have earlier : k < w.links ∨ k = w.links := by
      simp only [Wired.move] at after
      cases (Step.of_step w.channel m).passes h.absent with
      | opens _ now counted =>
          simp only [counted, now, Task.listens, Bool.true_eq_false, and_false, or_false] at after
          omega
      | loses _ uncounted | keeps uncounted =>
          rw [uncounted] at after
          exact after.imp_right And.left
    exact .inl ⟨positive, earlier.imp_right fun current => ⟨current, by simpa using listens⟩⟩

theorem Cut.move (cut : w.Cut past k) (h : w.Placed past) (m : Move) :
    (w.move m).1.Cut (past ++ (w.move m).2) k := by
  have step := Step.of_step w.channel m
  rcases cut with wrote | ⟨hungUp, closed⟩ | ⟨crashed, unlost⟩
  · exact .inl (List.mem_append_left _ wrote)
  · exact .inr (.inl ⟨List.mem_append_left _ hungUp, step.closed closed⟩)
  · obtain ⟨still, quiet⟩ := step.crashed h.absent crashed
    refine .inr (.inr ⟨still, fun shown => ?_⟩)
    rcases mem_shown.mp shown with earlier | ⟨-, now⟩
    · exact unlost earlier
    · exact quiet now

/-- A step that reads nothing and ends the reading of a link cuts it. -/
theorem cut_of_move (h : w.Placed past) (other : m.reads = false)
    (listens : w.channel.task.listens) (ended : (w.move m).1.channel.task.listens = false) :
    (w.move m).1.Cut (past ++ (w.move m).2) w.links := by
  have step := Step.of_step w.channel m
  have same : (w.move m).1.links = w.links := links_move h (ne_dialing_of_listens listens)
  rcases step.leaves h.absent listens ended with reads | wrote | ⟨hungUp, closed⟩ | crashed
  · cases other.symm.trans reads
  · exact .inl (mem_shown.mpr (.inr ⟨same.symm, wrote⟩))
  · exact .inr (.inl ⟨mem_shown.mpr (.inr ⟨same.symm, hungUp⟩), closed⟩)
  · refine .inr (.inr ⟨crashed, fun shown => ?_⟩)
    rcases mem_shown.mp shown with earlier | ⟨-, now⟩
    · exact h.unlost listens earlier
    · cases step.passes h.absent with
      | opens _ _ _ quiet | keeps _ quiet => exact quiet now
      | loses after => cases after.symm.trans crashed

/-! ## What was read of a link -/

/-- What a link yielded was handed over, or ended the reading, or was not read. -/
def Conserved (w : Wired) (past : List Sight) (k : Nat) : Prop :=
  ∃ stop : Option Frame,
    yielded k past = (handed k past).map .payload ++ (stop.toList ++ w.inbox k) ∧
    (∀ frame ∈ stop, frame.isPayload = false ∧ w.Left k) ∧
    (w.Left k → stop = none → w.Cut past k)

theorem conserved_fresh (k : Nat) : Wired.Conserved {} [] k := by
  refine ⟨none, rfl, by simp, fun left _ => ?_⟩
  obtain ⟨positive, placed⟩ := left
  have none : k < 0 ∨ k = 0 := placed.imp_right And.left
  omega

theorem Conserved.yield (conserved : w.Conserved past k) (link : Nat) (frame : Frame) :
    (w.step (.yield link frame)).1.Conserved (past ++ [.yielded link frame]) k := by
  obtain ⟨stop, whole, ends, cut⟩ := conserved
  refine ⟨stop, ?_, ends, fun left none => ?_⟩
  · rw [yielded_append, handed_append, whole]
    by_cases own : k = link
    · subst own
      simp [Wired.step, yielded, handed, Sight.yielded?, Sight.delivering?]
    · simp [Wired.step, yielded, handed, Sight.yielded?, Sight.delivering?, own, Ne.symm own]
  · simpa [Wired.Cut, Wired.step] using cut left none

/-- A step that hands over nothing from a link and does not end its reading without a cut. -/
theorem Conserved.move (conserved : w.Conserved past k) (h : w.Placed past)
    (none : handed k (w.move m).2 = [])
    (ended : (w.move m).1.Left k → w.Left k ∨ (w.move m).1.Cut (past ++ (w.move m).2) k) :
    (w.move m).1.Conserved (past ++ (w.move m).2) k := by
  obtain ⟨stop, whole, ends, cut⟩ := conserved
  refine ⟨stop, ?_, ?_, fun left unstopped => ?_⟩
  · rw [yielded_append, handed_append, none, Wired.move, yielded_shown, List.append_nil,
      List.append_nil]
    exact whole
  · intro frame stopped
    obtain ⟨kind, left⟩ := ends frame stopped
    exact ⟨kind, left.move h m⟩
  · rcases ended left with before | cut
    · exact (cut before unstopped).move h m
    · exact cut

theorem handed_move (other : m.reads = false) : handed k (w.move m).2 = [] := by
  rw [Wired.move, handed_shown, (Step.of_step w.channel m).delivers_nothing other]
  split <;> rfl

theorem Conserved.move_other (conserved : w.Conserved past k) (h : w.Placed past)
    (other : m.reads = false) : (w.move m).1.Conserved (past ++ (w.move m).2) k := by
  refine conserved.move h (handed_move other) fun left => ?_
  rcases left_of_move h m left with before | ⟨rfl, listens, ended⟩
  · exact .inl before
  · exact .inr (cut_of_move h other listens ended)

/-- The current link yields a payload to a task that has nothing else to do. -/
theorem move_payload (serving : w.channel.task = .serving) (idle : w.channel.idle)
    (text : String) :
    w.move (.answer (.received text)) =
      ({ w with channel := { w.channel with task := .delivering text } },
        [.shown w.links (.entered (.delivering text))]) := by
  simp [Wired.move, Channel.step, advance, answer?, serving, idle, arrival, announcement?,
    Occurrence.opens]

/-- The current link yields a failure or its end to such a task. -/
theorem move_ending {frame : Frame} (serving : w.channel.task = .serving) (idle : w.channel.idle)
    (ending : frame.isPayload = false) :
    handed k (w.move (.answer frame.answer)).2 = [] ∧
      (w.move (.answer frame.answer)).1.channel.task.listens = false := by
  obtain ⟨alive, -⟩ := queued_of_idle serving idle
  cases frame with
  | payload text => cases ending
  | failure fault =>
      simp [Wired.move, Channel.step, advance, answer?, Frame.answer, serving, idle, arrival,
        announcement?, Occurrence.opens, handed, Sight.delivering?, Occurrence.delivering?,
        Task.listens]
  | finish =>
      simp [Wired.move, Channel.step, advance, answer?, Frame.answer, serving, idle, arrival,
        announcement?, Occurrence.opens, handed, Sight.delivering?, Occurrence.delivering?,
        Task.listens, loseLink, alive]

theorem handed_of_ne (other : (w.move m).1.links ≠ k) : handed k (w.move m).2 = [] := by
  simp only [Wired.move] at other ⊢
  rw [handed_shown, if_neg other]

/-- The task takes a frame off the current link. -/
theorem Conserved.take (conserved : w.Conserved past k) (h : w.Placed past) {frame : Frame}
    {rest : List Frame} (first : w.inbox w.links = frame :: rest)
    (serving : w.channel.task = .serving) (idle : w.channel.idle) :
    let left : Wired := { w with inbox := Function.update w.inbox w.links rest }
    (left.move (.answer frame.answer)).1.Conserved
      (past ++ (left.move (.answer frame.answer)).2) k := by
  intro left
  have placed : left.Placed past := h.unread _
  have listens : w.channel.task.listens := by simp [serving, Task.listens]
  have same : (left.move (.answer frame.answer)).1.links = w.links :=
    links_move placed (ne_dialing_of_listens listens)
  by_cases own : k = w.links
  · subst own
    obtain ⟨stop, whole, ends, -⟩ := conserved
    -- The link is still read, so nothing has ended the reading yet.
    have unstopped : stop = none := by
      cases stop with
      | none => rfl
      | some frame =>
          have left := (ends frame rfl).2
          rcases left.2 with earlier | ⟨-, ended⟩
          · exact absurd earlier (Nat.lt_irrefl _)
          · cases listens.symm.trans ended
    rw [unstopped, first] at whole
    cases kind : frame.isPayload with
    | true =>
        obtain ⟨text, rfl⟩ := Frame.eq_payload kind
        simp only [Frame.answer, move_payload (w := left) serving idle text]
        refine ⟨none, ?_, by simp, fun ended => ?_⟩
        · rw [yielded_append, handed_append, whole]
          simp [left, yielded, handed, Sight.yielded?, Sight.delivering?, Occurrence.delivering?]
        · obtain ⟨-, earlier | ⟨-, ended⟩⟩ := ended
          · exact absurd earlier (Nat.lt_irrefl _)
          · cases ended
    | false =>
        obtain ⟨none, ended⟩ := move_ending (k := w.links) (w := left) serving idle kind
        refine ⟨some frame, ?_, ?_, fun _ other => by cases other⟩
        · rw [yielded_append, handed_append, none, Wired.move, yielded_shown, List.append_nil,
            List.append_nil, whole]
          simp [left]
        · rintro frame ⟨⟩
          exact ⟨kind, h.opened listens, .inr ⟨same.symm, ended⟩⟩
  · have untouched : left.Conserved past k := by
      obtain ⟨stop, whole, ends, cut⟩ := conserved
      refine ⟨stop, ?_, ends, cut⟩
      rw [whole]
      simp [left, own]
    refine untouched.move placed (handed_of_ne (same ▸ Ne.symm own)) fun ended => ?_
    rcases left_of_move placed _ ended with before | ⟨current, -⟩
    · exact .inl before
    · exact absurd current own

/-! ## Every run -/

structure Inbound (w : Wired) (past : List Sight) : Prop where
  placed : w.Placed past
  conserved : ∀ k, w.Conserved past k

theorem Inbound.step (h : w.Inbound past) (act : Act) :
    (w.step act).1.Inbound (past ++ (w.step act).2) := by
  cases act with
  | yield link frame =>
      exact ⟨(h.placed.unread _).yield link frame, fun k => (h.conserved k).yield link frame⟩
  | move m other =>
      exact ⟨h.placed.move m, fun k => (h.conserved k).move_other h.placed other⟩
  | read =>
      have idle : w.Inbound (past ++ []) := by rwa [List.append_nil]
      simp only [Wired.step]
      split
      · exact idle
      · rename_i frame rest first
        split
        · rename_i answered
          obtain ⟨serving, free⟩ := (answer?_frame_isSome frame).mp answered
          exact ⟨(h.placed.unread _).move _,
            fun k => (h.conserved k).take h.placed first serving free⟩
        · exact idle

theorem run_inbound (acts : List Act) : (run {} acts).1.Inbound (run {} acts).2 :=
  replay_keeps Inbound (fun _ _ act _ h => h.step act) ⟨placed_fresh, conserved_fresh⟩

theorem payloads_append (texts : List String) (frames : List Frame) :
    payloads (texts.map .payload ++ frames) = texts ++ payloads frames := by
  induction texts with
  | nil => rfl
  | cons text texts ih => simp [payloads, ih]

theorem payloads_of_ending {frame : Frame} (ending : frame.isPayload = false)
    (frames : List Frame) : payloads (frame :: frames) = [] := by
  cases frame with
  | payload text => cases ending
  | _ => rfl

theorem Conserved.handed_leads (conserved : w.Conserved past k) :
    handed k past <+: payloads (yielded k past) := by
  obtain ⟨stop, whole, -, -⟩ := conserved
  rw [whole, payloads_append]
  exact List.prefix_append _ _

/-- Everything before the end of a link was handed over, if its reading got that far. -/
theorem Conserved.handed_eq (conserved : w.Conserved past k) (left : w.Left k) :
    ((∃ frame ∈ yielded k past, frame.isPayload = false) ∧
      handed k past = payloads (yielded k past)) ∨ w.Cut past k := by
  obtain ⟨stop, whole, ends, cut⟩ := conserved
  cases stop with
  | none => exact .inr (cut left rfl)
  | some frame =>
      have ending := (ends frame rfl).1
      refine .inl ⟨⟨frame, by simp [whole], ending⟩, ?_⟩
      rw [whole, payloads_append]
      simp [payloads_of_ending ending]

theorem Placed.of_delivering (h : w.Placed past) {text : String}
    (delivers : .shown k (.entered (.delivering text)) ∈ (w.move m).2) :
    k = w.links ∧ .shown k (.announced .connect) ∈ past ∧
      (∀ j, 0 < j → j < k → .shown j (.announced .disconnect) ∈ past) ∧
      ∀ j, .shown j (.recorded (.state .closed)) ∉ past := by
  have moved : (w.move m).2 = (w.channel.step m).2.map
      (.shown (w.links + (w.channel.step m).2.countP Occurrence.opens)) := rfl
  rw [moved, List.mem_map] at delivers
  obtain ⟨o, shown, same⟩ := delivers
  obtain ⟨last, rfl⟩ := Sight.shown.inj same
  obtain ⟨serving, alive, uncounted⟩ :=
    (Step.of_step w.channel m).serving_of_delivering shown
  rw [uncounted] at last
  obtain rfl : w.links = k := last
  refine ⟨rfl, h.connected (by simp [serving, Task.connected]), ?_, fun j closed => ?_⟩
  · exact fun j positive earlier => h.lost j positive (.inl earlier)
  · exact alive (h.closed j closed)

theorem Placed.of_step_delivering (h : w.Placed past) {act : Act} {text : String}
    (delivers : .shown k (.entered (.delivering text)) ∈ (w.step act).2) :
    k = w.links ∧ .shown k (.announced .connect) ∈ past ∧
      (∀ j, 0 < j → j < k → .shown j (.announced .disconnect) ∈ past) ∧
      ∀ j, .shown j (.recorded (.state .closed)) ∉ past := by
  cases act with
  | yield link frame => simp [Wired.step] at delivers
  | move m other => exact h.of_delivering delivers
  | read =>
      simp only [Wired.step] at delivers
      split at delivers
      · cases delivers
      · rename_i frame rest first
        split at delivers
        · exact (h.unread (Function.update w.inbox w.links rest)).of_delivering delivers
        · cases delivers

/-- What was handed over from a link is a prefix, in order, of the payloads that it yielded before
its first failure or its end.  It is all of them when the link is left, unless a failed write, a
closing or a panic ended the reading before.  A payload is handed over as soon as it
is first on its link and there is nothing to write, and it is handed over only from the last link
after its opening was announced and the losses of all links before it were, and before the channel
is closed. -/
theorem payloads_handed_in_order (acts : List Act) :
    let w := (run {} acts).1
    let seen := (run {} acts).2
    (∀ k, handed k seen <+: payloads (yielded k seen)) ∧
    (∀ k, w.Left k →
      ((∃ frame ∈ yielded k seen, frame.isPayload = false) ∧
        handed k seen = payloads (yielded k seen)) ∨ w.Cut seen k) ∧
    (w.channel.task = .serving → w.channel.state ≠ .closed → w.channel.queued = [] →
      ∀ text rest, w.inbox w.links = .payload text :: rest →
        (w.step .read).2 = [.shown w.links (.entered (.delivering text))]) ∧
    (∀ act k text, .shown k (.entered (.delivering text)) ∈ (w.step act).2 →
      k = w.links ∧ .shown k (.announced .connect) ∈ seen ∧
      (∀ j, 0 < j → j < k → .shown j (.announced .disconnect) ∈ seen) ∧
      ∀ j, .shown j (.recorded (.state .closed)) ∉ seen) := by
  intro w seen
  have inbound : w.Inbound seen := run_inbound acts
  refine ⟨fun k => (inbound.conserved k).handed_leads,
    fun k left => (inbound.conserved k).handed_eq left, ?_,
    fun act k text delivers => inbound.placed.of_step_delivering delivers⟩
  intro serving alive empty text rest first
  have idle := idle_of_queued serving alive empty
  have answered : (w.channel.answer? (Frame.payload text).answer).isSome :=
    (answer?_frame_isSome _).mpr ⟨serving, idle⟩
  let left : Wired := { w with inbox := Function.update w.inbox w.links rest }
  have taken : w.step .read = left.move (.answer (.received text)) := by
    simp only [Wired.step, first, answered, if_true]
    rfl
  rw [taken]
  exact congrArg Prod.snd (move_payload (w := left) serving idle text)

/-- The handler panics over the first of two payloads.  The second one stays on the link, although
no write failed and nobody closed the channel. -/
theorem second_payload_lost_to_panic :
    let acts : List Act := [
      .move .start rfl, .move .proceed rfl, .move (.answer .linked) rfl,
      .move (.answer .done) rfl, .move (.answer .done) rfl,
      .yield 1 (.payload "a"), .yield 1 (.payload "b"), .yield 1 .finish, .read,
      .move (.answer .panicked) rfl]
    let w := (run {} acts).1
    let seen := (run {} acts).2
    w.Left 1 ∧ payloads (yielded 1 seen) = ["a", "b"] ∧ handed 1 seen = ["a"] ∧
      .shown 1 (.recorded (.error "write")) ∉ seen ∧ w.channel.state = .open := by
  intro acts w seen
  refine ⟨⟨Nat.one_pos, .inr ⟨rfl, rfl⟩⟩, rfl, rfl, ?_, rfl⟩
  have readings : seen.filterMap Sight.recorded? = [.state .connecting, .state .open] := rfl
  intro failed
  have listed : .error "write" ∈ seen.filterMap Sight.recorded? :=
    List.mem_filterMap.mpr ⟨_, failed, rfl⟩
  simp [readings] at listed

end Wired

end DuplexRpc.Channel
