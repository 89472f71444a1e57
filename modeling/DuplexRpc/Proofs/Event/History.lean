import DuplexRpc.Event.Script
import DuplexRpc.Proofs.Replay

/-!
# The history of a script

A history lists what a script and its listeners do, in the order of time and at every depth: where
each emission begins, which listeners are called, and what came of each action when it was over.
Whatever is logged and answered can be read from the history.
-/

namespace DuplexRpc.Script

inductive Occurrence where
  | began (depth : Nat) (event : Event)
  | heard (depth : Nat) (event : Event) (listener : Nat)
  | panicked (depth : Nat) (listener : Nat)
  /-- An action is over.  Without a number it belongs to no listener. -/
  | did (depth : Nat) (running : Option Nat) (action : Action) (outcome : Outcome)

namespace Occurrence

def depth : Occurrence → Nat
  | .began depth _ | .heard depth _ _ | .panicked depth _ | .did depth _ _ _ => depth

def entry? : Occurrence → Option Entry
  | .began _ _ => none
  | .heard depth event listener => some (.heard event listener depth)
  | .panicked _ listener => some (.panicked listener)
  | .did _ running action outcome => running.map (.did · action outcome)

/-- What an action of the script itself came to. -/
def outcome? : Occurrence → Option Outcome
  | .did 0 _ _ outcome => some outcome
  | _ => none

end Occurrence

def entries (past : List Occurrence) : List Entry := past.filterMap Occurrence.entry?

def outcomes (past : List Occurrence) : List Outcome := past.filterMap Occurrence.outcome?

@[simp] theorem entries_append (past later : List Occurrence) :
    entries (past ++ later) = entries past ++ entries later :=
  List.filterMap_append

@[simp] theorem outcomes_append (past later : List Occurrence) :
    outcomes (past ++ later) = outcomes past ++ outcomes later :=
  List.filterMap_append

@[simp] theorem entries_began (depth : Nat) (event : Event) (later : List Occurrence) :
    entries (.began depth event :: later) = entries later := rfl

namespace Stage

section

variable (perform : Program → Action → Stage → Outcome × Stage)
  (inner : Program → Action → Stage → List Occurrence) (depth : Nat) (program : Program)

/-- What a listener does, given what its actions do. -/
def bodyHistory : Body → Stage → List Occurrence
  | .done, _ => []
  | .act .panic _, _ => [.panicked depth program.number]
  | .act action next, s =>
      let (outcome, moved) := perform program action s
      inner program action s ++ .did depth program.number action outcome ::
        bodyHistory (next outcome) (moved.note (.did program.number action outcome))

end

section

variable (run : Program → Stage → Stage) (inner : Program → Stage → List Occurrence)
  (event : Event) (depth : Nat)

/-- What an emission does, given what its listeners do. -/
def callHistory : List (Listener Program) → Stage → List Occurrence
  | [], _ => []
  | target :: rest, s =>
      let s := s.hear event target.action.number depth
      .heard depth event target.action.number ::
        (inner target.action s ++ callHistory rest (run target.action s))

end

/-- What happens from the beginning of an action until it is over. -/
def history : (remaining : Nat) → (depth : Nat) → Action → Stage → List Occurrence
  | 0, depth, .emit emitter event, s =>
      .began depth event :: callHistory (fun _ s => s) (fun _ _ => []) event depth
        ((s.registry emitter).targets event.name) s
  | remaining + 1, depth, .emit emitter event, s =>
      let act (program : Program) := perform remaining (depth + 1) (some program)
      .began depth event ::
        callHistory (fun program s => runBody act program (program.body ⟨event, s.calls⟩) s)
          (fun program s => bodyHistory act (fun _ => history remaining (depth + 1)) (depth + 1)
            program (program.body ⟨event, s.calls⟩) s)
          event depth ((s.registry emitter).targets event.name) s
  | _, _, _, _ => []

/-- An action of the script itself, and everything that happens until it is over. -/
def play (levels : Nat) (s : Stage) (action : Action) : Stage × List Occurrence :=
  let (outcome, moved) := s.perform levels 0 none action
  ({ moved with log := [] }, s.history levels 0 action ++ [.did 0 none action outcome])

end Stage

def rehearse (levels : Nat) : Stage → List Action → Stage × List Occurrence :=
  replay (Stage.play levels)

/-! ## Depth -/

namespace Stage

variable {s : Stage} {program : Program} {depth remaining : Nat} {event : Event}
  {action : Action} {o : Occurrence}

/-- Only an emission makes anything else happen before it is over. -/
theorem history_eq_nil (quiet : ∀ emitter event, action ≠ .emit emitter event) :
    s.history remaining depth action = [] := by
  cases remaining <;> cases action <;> simp_all [history]

theorem depth_of_mem_bodyHistory {perform : Program → Action → Stage → Outcome × Stage}
    {inner : Program → Action → Stage → List Occurrence}
    (deep : ∀ program action s, ∀ o ∈ inner program action s, depth ≤ o.depth)
    {body : Body} (h : o ∈ bodyHistory perform inner depth program body s) :
    depth ≤ o.depth := by
  fun_induction bodyHistory perform inner depth program body s with
  | case1 => simp at h
  | case2 => simp_all [Occurrence.depth]
  | case3 s action next calm outcome moved acted ih =>
      obtain own | rfl | later := by simpa using h
      · exact deep _ _ _ o own
      · exact Nat.le_refl _
      · exact ih later

theorem of_mem_callHistory {run : Program → Stage → Stage}
    {inner : Program → Stage → List Occurrence}
    (deep : ∀ program s, ∀ o ∈ inner program s, depth < o.depth)
    {targets : List (Listener Program)} (h : o ∈ callHistory run inner event depth targets s) :
    depth < o.depth ∨ ∃ listener, o = .heard depth event listener := by
  induction targets generalizing s with
  | nil => simp [callHistory] at h
  | cons target rest ih =>
      obtain rfl | own | later := by simpa [callHistory] using h
      · exact .inr ⟨_, rfl⟩
      · exact .inl (deep _ _ o own)
      · exact ih later

theorem of_mem_history (h : o ∈ s.history remaining depth action) :
    depth < o.depth ∨ (∃ event, o = .began depth event) ∨
      ∃ event listener, o = .heard depth event listener := by
  induction remaining generalizing depth action s o with
  | zero =>
      cases action
      case emit emitter event =>
        obtain rfl | called := by simpa [history] using h
        · exact .inr (.inl ⟨event, rfl⟩)
        · exact (of_mem_callHistory (by simp) called).imp_right fun heard => .inr ⟨event, heard⟩
      all_goals simp [history] at h
  | succ remaining ih =>
      cases action
      case emit emitter event =>
        obtain rfl | called := by simpa [history] using h
        · exact .inr (.inl ⟨event, rfl⟩)
        · refine (of_mem_callHistory (fun program s o within => ?_) called).imp_right
            fun heard => .inr ⟨event, heard⟩
          refine depth_of_mem_bodyHistory (fun program action s o own => ?_) within
          obtain deeper | ⟨event, rfl⟩ | ⟨event, listener, rfl⟩ := ih own
          · exact Nat.le_of_lt deeper
          · exact Nat.le_refl _
          · exact Nat.le_refl _
      all_goals simp [history] at h

theorem depth_of_mem_history (h : o ∈ s.history remaining depth action) : depth ≤ o.depth := by
  obtain deeper | ⟨event, rfl⟩ | ⟨event, listener, rfl⟩ := of_mem_history h
  · exact Nat.le_of_lt deeper
  · exact Nat.le_refl _
  · exact Nat.le_refl _

theorem outcomes_history : outcomes (s.history remaining 0 action) = [] := by
  refine List.filterMap_eq_nil_iff.mpr fun o within => ?_
  obtain deeper | ⟨event, rfl⟩ | ⟨event, listener, rfl⟩ := of_mem_history within
  · match o, deeper with
    | .did (_ + 1) _ _ _, _ | .began _ _, _ | .heard _ _ _, _ | .panicked _ _, _ => rfl
  · rfl
  · rfl

/-! ## What is logged and answered -/

theorem log_runBody {perform : Program → Action → Stage → Outcome × Stage}
    {inner : Program → Action → Stage → List Occurrence}
    (logs : ∀ program action s,
      (perform program action s).2.log = (entries (inner program action s)).reverse ++ s.log)
    (body : Body) (s : Stage) :
    (runBody perform program body s).log =
      (entries (bodyHistory perform inner depth program body s)).reverse ++ s.log := by
  fun_induction runBody perform program body s with
  | case1 => simp [bodyHistory, entries]
  | case2 => simp [bodyHistory, entries, Occurrence.entry?, note]
  | case3 action next s calm outcome moved acted ih =>
      have own := logs program action s
      simp only [acted] at own
      simp only [bodyHistory, acted, ih, entries_append, List.reverse_append]
      simp [entries, Occurrence.entry?, note, own]

theorem log_callAll {run : Program → Stage → Stage} {inner : Program → Stage → List Occurrence}
    (logs : ∀ program s, (run program s).log = (entries (inner program s)).reverse ++ s.log)
    (targets : List (Listener Program)) (s : Stage) :
    (callAll run event depth targets s).log =
      (entries (callHistory run inner event depth targets s)).reverse ++ s.log := by
  induction targets generalizing s with
  | nil => simp [callAll, callHistory, entries]
  | cons target rest ih =>
      simp only [callAll, callHistory, ih, logs, hear, note]
      simp [entries, Occurrence.entry?]

theorem log_perform (remaining depth : Nat) (running : Option Program) (action : Action)
    (s : Stage) :
    (s.perform remaining depth running action).2.log =
      (entries (s.history remaining depth action)).reverse ++ s.log := by
  induction remaining generalizing depth running action s with
  | zero =>
      cases action
      case emit emitter event =>
        have called (targets : List (Listener Program)) :
            (callAll (fun _ s => s) event depth targets s).log =
              (entries (callHistory (fun _ s => s) (fun _ _ => []) event depth targets
                s)).reverse ++ s.log :=
          log_callAll (by simp [entries]) targets s
        simpa [perform, history] using called _
      case off emitter listener =>
        unfold perform history
        split <;> simp [entries, setRegistry]
      all_goals simp [perform, history, entries, setRegistry]
  | succ remaining ih =>
      cases action
      case emit emitter event =>
        let act (program : Program) := perform remaining (depth + 1) (some program)
        let ran (program : Program) (s : Stage) : Stage :=
          runBody act program (program.body ⟨event, s.calls⟩) s
        let does (program : Program) (s : Stage) : List Occurrence :=
          bodyHistory act (fun _ => history remaining (depth + 1)) (depth + 1) program
            (program.body ⟨event, s.calls⟩) s
        have logs (program : Program) (s : Stage) :
            (ran program s).log = (entries (does program s)).reverse ++ s.log :=
          log_runBody (fun program => ih (depth + 1) (some program)) _ s
        have called (targets : List (Listener Program)) :
            (callAll ran event depth targets s).log =
              (entries (callHistory ran does event depth targets s)).reverse ++ s.log :=
          log_callAll logs targets s
        simpa [perform, history] using called _
      case off emitter listener =>
        unfold perform history
        split <;> simp [entries, setRegistry]
      all_goals simp [perform, history, entries, setRegistry]

end Stage

/-- A run shows the entries and the outcomes of its history, and nothing else. -/
theorem run_eq (script : List Action) (s : Stage) (fresh : s.log = []) :
    (run script s).flatMap (·.2) = entries (rehearse maxDepth s script).2 ∧
      (run script s).map (·.1) = outcomes (rehearse maxDepth s script).2 := by
  induction script generalizing s with
  | nil => simp [run, rehearse, entries, outcomes]
  | cons action rest ih =>
      have logged := s.log_perform maxDepth 0 none action
      obtain ⟨shown, answered⟩ := ih (s.play maxDepth action).1 rfl
      have own : entries (s.play maxDepth action).2 =
          (s.perform maxDepth 0 none action).2.log.reverse := by
        simp [Stage.play, logged, fresh, entries, Occurrence.entry?]
      have answer : outcomes (s.play maxDepth action).2 =
          [(s.perform maxDepth 0 none action).1] := by
        simp only [Stage.play, outcomes_append, Stage.outcomes_history, List.nil_append]
        rfl
      simp only [rehearse, replay_cons, entries_append, outcomes_append, own, answer] at shown ⊢
      exact ⟨congrArg (_ ++ ·) shown, congrArg (_ :: ·) answered⟩

end DuplexRpc.Script
