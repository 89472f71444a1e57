import DuplexRpc.Proofs.Client.Listeners
import DuplexRpc.Proofs.Client.Owner

/-!
# Who hears of a lost link

An owner is told that a link was lost only because a dispatch took its request out of the table.
Followed backwards, the fault leads to a dispatch of a loss that came to the client's own listener
while the request was outstanding, and only a client that rejects has that listener.
-/

namespace DuplexRpc.Client

open DuplexRpc.Correlator DuplexRpc.Json DuplexRpc.Wire

variable {ω : Type} {policy : PendingPolicy} {s : Session ω} {r : RequestId}

/-- The link was lost, and the owner of the request is still to hear of it. -/
def Lost (s : Session ω) (r : RequestId) : Prop :=
  s.stage? r = some (.settled (.error .disconnected))

def Rejecting (s : Session ω) (fault : Fault) (r : RequestId) : Prop :=
  ∃ d ∈ s.dispatches, ∃ requests targets,
    d.stage = .rejecting fault requests targets ∧ r ∈ requests.map (·.id)

/-- The dispatch has come to a listener that rejects everything outstanding. -/
def AtOwn (s : Session ω) (k : Nat) (fault : Fault) : Prop :=
  ∃ d listener targets, s.dispatches[k]? = some d ∧ d.stage = .calling (listener :: targets) ∧
    listener.action = .rejectOutstanding fault

theorem Advance.rejecting {fault : Fault} {k : Nat} {d : Dispatch ω} {moved : Session ω}
    (advance : Advance s k d moved) (found : s.dispatches[k]? = some d)
    (h : Rejecting moved fault r) :
    Rejecting s fault r ∨ (AtOwn s k fault ∧ r ∈ s.outstanding) := by
  obtain ⟨other, mem, requests, targets, stage, listed⟩ := h
  have known : d ∈ s.dispatches := List.mem_of_getElem? found
  have kept (before : other ∈ s.dispatches) :
      Rejecting s fault r ∨ (AtOwn s k fault ∧ r ∈ s.outstanding) :=
    .inl ⟨other, before, requests, targets, stage, listed⟩
  cases advance with
  | finished => exact kept mem
  | lookUp | pass | leave =>
      rcases mem_enter mem with before | rfl
      · exact kept before
      · cases stage
  | drain given before action =>
      rcases mem_enter mem with other | rfl
      · exact kept other
      · cases stage
        exact .inr ⟨⟨d, _, _, found, before, action⟩, listed⟩
  | reject given request before =>
      rcases mem_enter mem with other | rfl
      · exact kept other
      · cases stage
        exact .inl ⟨d, known, _, _, before, List.mem_cons_of_mem _ listed⟩

theorem mem_dispatches_step {m : Move ω} {d : Dispatch ω} (other : ∀ k, m ≠ .dispatch k)
    (mem : d ∈ (s.step m).1.dispatches) : d ∈ s.dispatches ∨ d.stage = .begun := by
  have announced {s : Session ω} {events : List Event} (mem : d ∈ (s.announce events).dispatches) :
      d ∈ s.dispatches ∨ d.stage = .begun := by
    rcases mem_announce mem with mem | ⟨event, -, rfl⟩
    · exact .inl mem
    · exact .inr rfl
  cases m with
  | dispatch k => exact absurd rfl (other k)
  | channel m => exact announced mem
  | receive text => exact announced mem
  | handOver id =>
      simp only [Session.step, Session.handOver] at mem
      split at mem
      · exact .inl mem
      · split at mem <;> exact .inl mem
  | withdraw id =>
      simp only [Session.step, Session.withdraw] at mem
      split at mem <;> exact .inl mem
  | limit | poll | drop | off =>
      simp only [Session.step] at mem
      split at mem <;> exact .inl mem
  | register | settle | on => exact .inl mem

theorem rejecting_step {fault : Fault} {m : Move ω} (h : Rejecting (s.step m).1 fault r) :
    Rejecting s fault r ∨ ∃ k, m = .dispatch k ∧ AtOwn s k fault ∧ r ∈ s.outstanding := by
  by_cases dispatches : ∃ k, m = .dispatch k
  · obtain ⟨k, rfl⟩ := dispatches
    cases found : s.dispatches[k]? with
    | none =>
        have same : (s.step (.dispatch k)).1 = s := by simp [Session.step, Session.advance, found]
        exact .inl (same ▸ h)
    | some d =>
        exact ((Advance.of_found found).rejecting found h).imp_right fun own => ⟨k, rfl, own⟩
  · obtain ⟨d, mem, requests, targets, stage, listed⟩ := h
    rcases mem_dispatches_step (fun k same => dispatches ⟨k, same⟩) mem with mem | begun
    · exact .inl ⟨d, mem, requests, targets, stage, listed⟩
    · cases begun.symm.trans stage

/-- The owner of the request is yet to hear that a link was lost, or a dispatch is about to tell. -/
def Marked (s : Session ω) (r : RequestId) : Prop :=
  Lost s r ∨ s.stage? r = some (.refused .disconnected) ∨ Rejecting s .disconnected r

theorem outcomeOf_ne (m : Message) : outcomeOf m ≠ .error .disconnected := by
  unfold outcomeOf
  split <;> simp

theorem marked_step {m : Move ω} (sound : Sound s)
    (h : Marked (s.step m).1 r ∨ .error .disconnected ∈ collected r (s.step m).2) :
    Marked s r ∨ ∃ k, m = .dispatch k ∧ AtOwn s k .disconnected ∧ r ∈ s.outstanding := by
  have ticket := (Change.of_step s m).ticket r
  rcases h with (lost | refused | rejecting) | shown
  case inl.inr.inr => exact (rejecting_step rejecting).imp_left (.inr ∘ .inr)
  case inl.inl =>
      left
      cases ticket with
      | kept stage silent => exact .inl (stage.symm.trans lost)
      | registered before stage calling silent => cases stage.symm.trans lost
      | withdrawn call fault mem own refusal stage silent =>
          obtain ⟨before, -, same⟩ := Option.map_eq_some_iff.mp (stage.symm.trans lost)
          cases same
      | settled outcome before stage cause silent =>
          obtain rfl : outcome = .error .disconnected := by simpa using stage.symm.trans lost
          rcases cause with ⟨-, m, answer⟩ | ⟨fault, same, k, d, found, mem, requests, targets, going⟩
          · -- No response says that a link was lost.
            exact absurd answer.symm (outcomeOf_ne m)
          · cases same
            refine .inr (.inr ⟨d, List.mem_of_getElem? found, requests, targets, going, ?_⟩)
            simpa [Dispatch.rejectees, going] using mem
      | collected before outcome free has gives stage shown => cases stage.symm.trans lost
      | dropped free gone shown silent => cases gone.symm.trans lost
  case inl.inr.inl =>
      left
      cases ticket with
      | kept stage silent => exact .inr (.inl (stage.symm.trans refused))
      | registered before stage calling silent => cases stage.symm.trans refused
      | withdrawn call fault mem own refusal stage silent =>
          obtain rfl := (sound.refused call mem fault refusal).2
          obtain ⟨before, -, same⟩ := Option.map_eq_some_iff.mp (stage.symm.trans refused)
          cases same
      | settled outcome before stage cause silent => cases stage.symm.trans refused
      | collected before outcome free has gives stage shown => cases stage.symm.trans refused
      | dropped free gone shown silent => cases gone.symm.trans refused
  case inr =>
      left
      cases ticket with
      | collected before outcome free has gives stage told =>
          obtain rfl : Except.error Fault.disconnected = outcome := by simpa [told] using shown
          cases before with
          | waiting => cases gives
          | settled given =>
              obtain rfl : Except.error Fault.disconnected = given := gives
              exact .inl has
          | refused fault =>
              cases gives
              exact .inr (.inl has)
          | spent => simp [Gives, afterCompletion] at gives
      | kept _ silent | registered _ _ _ silent | withdrawn _ _ _ _ _ _ silent
      | settled _ _ _ _ silent | dropped _ _ _ silent => simp [silent] at shown

/-- The dispatch of a loss has come to the client's own listener. -/
def Reaches (s : Session ω) (k : Nat) : Prop :=
  ∃ d targets, s.dispatches[k]? = some d ∧ d.event = .disconnect ∧
    d.stage = .calling (rejecter :: targets)

theorem AtOwn.reaches {k : Nat} (h : AtOwn s k .disconnected) (ordered : Ordered policy s) :
    policy = .rejectOnDisconnect ∧ Reaches s k := by
  obtain ⟨d, listener, targets, found, stage, action⟩ := h
  obtain ⟨own, -⟩ := ordered.of_own found stage action
  rcases own?_eq_some own with ⟨-, rfl⟩ | ⟨policy, event, rfl⟩
  · cases action
  · exact ⟨policy, d, targets, found, event, stage⟩

/-- A dispatch of a loss came to the client's own listener while the request was outstanding. -/
def Struck (s : Session ω) (r : RequestId) (moves : List (Move ω)) : Prop :=
  ∃ first k rest, moves = first ++ .dispatch k :: rest ∧ Reaches (s.run first).1 k ∧
    r ∈ (s.run first).1.outstanding

theorem run_marked {moves : List (Move ω)} (sound : Sound s) (ordered : Ordered policy s)
    (h : Marked (s.run moves).1 r ∨ .error .disconnected ∈ collected r (s.run moves).2) :
    Marked s r ∨ (policy = .rejectOnDisconnect ∧ Struck s r moves) := by
  induction moves generalizing s with
  | nil => simpa [Session.run] using h.imp_right (by simp [Session.run])
  | cons m moves ih =>
      simp only [Session.run, replay_cons, collected_append, List.mem_append] at h
      have inner := ih (sound.step (.of_step s m)) (ordered.step (.of_step s m))
      have next : (Marked (s.step m).1 r ∨ .error .disconnected ∈ collected r (s.step m).2) ∨
          (policy = .rejectOnDisconnect ∧ Struck (s.step m).1 r moves) := by
        rcases h with marked | here | later
        · exact (inner (.inl marked)).imp_left .inl
        · exact .inl (.inr here)
        · exact (inner (.inr later)).imp_left .inl
      rcases next with here | ⟨policy, first, k, rest, rfl, own, listed⟩
      · rcases marked_step sound here with marked | ⟨k, rfl, own, listed⟩
        · exact .inl marked
        · obtain ⟨policy, reaches⟩ := own.reaches ordered
          exact .inr ⟨policy, [], k, moves, rfl, reaches, listed⟩
      · exact .inr ⟨policy, m :: first, k, rest, rfl, own, listed⟩

theorem unmarked_launch (policy : PendingPolicy) (requestTimeout : Option Time) :
    ¬Marked (Session.launch policy requestTimeout : Session ω) r := by
  rintro (lost | refused | ⟨d, mem, -⟩)
  · cases policy <;> cases lost
  · cases policy <;> cases refused
  · simp at mem

end DuplexRpc.Client
