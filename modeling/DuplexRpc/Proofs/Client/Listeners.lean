import Mathlib.Data.List.Basic
import DuplexRpc.Proofs.Client.Dispatching

/-!
# Who is called first

The client's own listeners are registered before every other and are not taken off unless the ids
of listeners come round to theirs.  A dispatch comes to the client's own listener for the event, if
there is one, before it comes to any observer.  Once it is past it, it rejects nothing more than
what it took out of the table.
-/

namespace DuplexRpc.Client

open DuplexRpc.Json DuplexRpc.Wire

variable {ω : Type} {policy : PendingPolicy} {s moved : Session ω} {seen : List Occurrence}

/-- The client's own listener for lost links. -/
def rejecter : Listener (Reaction ω) :=
  { id := ⟨2⟩, event := Event.disconnect.name, action := .rejectOutstanding .disconnected }

def own : PendingPolicy → List (Listener (Reaction ω))
  | .keepAcrossReconnect => [closer]
  | .rejectOnDisconnect => [closer, rejecter]

/-- The client's own listener for an event. -/
def own? (policy : PendingPolicy) (event : Event) : Option (Listener (Reaction ω)) :=
  (own policy).find? (·.event = event.name)

theorem own_filter (policy : PendingPolicy) (event : Event) :
    (own policy : List (Listener (Reaction ω))).filter (·.event = event.name) =
      (own? policy event).toList := by
  cases policy <;> cases event <;> rfl

theorem own?_eq_some {event : Event} {listener : Listener (Reaction ω)}
    (h : own? policy event = some listener) :
    (event = .close ∧ listener = closer) ∨
      (policy = .rejectOnDisconnect ∧ event = .disconnect ∧ listener = rejecter) := by
  cases policy <;> cases event <;> cases h <;> simp

def Observes (targets : List (Listener (Reaction ω))) : Prop :=
  ∀ listener ∈ targets, ∃ observer, listener.action = .observe observer

theorem Observes.subset {targets fewer : List (Listener (Reaction ω))} (h : Observes targets)
    (subset : fewer ⊆ targets) : Observes fewer :=
  fun listener mem => h listener (subset mem)

/-- The client's own listener can only be the first that is called. -/
def Dispatch.Ordered (policy : PendingPolicy) (d : Dispatch ω) : Prop :=
  match d.stage with
  | .begun => True
  | .calling targets =>
      Observes targets ∨ ∃ listener observers,
        own? policy d.event = some listener ∧ targets = listener :: observers ∧ Observes observers
  | .rejecting fault _ targets =>
      (own? (ω := ω) policy d.event).map (·.action) = some (.rejectOutstanding fault) ∧
        Observes targets

structure Ordered (policy : PendingPolicy) (s : Session ω) : Prop where
  listeners : ∃ first observers, s.client.listeners.listeners = first ++ observers ∧
    first.Sublist (own policy) ∧ (s.Roomy → first = own policy) ∧ Observes observers
  counted : s.Counted
  known : s.Roomy → ∀ listener ∈ (own policy : List (Listener (Reaction ω))),
    listener.id.value.toNat ≤ s.client.listeners.lastId.toNat
  issued : s.Roomy → ∀ id ∈ s.issued,
    ∀ listener ∈ (own policy : List (Listener (Reaction ω))), listener.id ≠ id
  dispatches : ∀ d ∈ s.dispatches, d.Ordered policy

namespace Ordered

theorem targets (h : Ordered policy s) (event : Event) :
    ∃ first observers, s.client.listeners.targets event.name = first ++ observers ∧
      (first = [] ∨ first = (own? policy event).toList) ∧
      (s.Roomy → first = (own? policy event).toList) ∧ Observes observers := by
  obtain ⟨first, observers, listeners, fewer, all, observe⟩ := h.listeners
  refine ⟨first.filter (·.event = event.name), observers.filter (·.event = event.name), ?_, ?_,
    fun room => ?_, observe.subset List.filter_sublist.subset⟩
  · rw [Registry.targets, listeners, List.filter_append]
  · have found := fewer.filter (·.event = event.name)
    rw [own_filter] at found
    cases own : own? (ω := ω) policy event with
    | none => simpa [own] using found
    | some listener => exact List.sublist_singleton.mp (by simpa [own] using found)
  · rw [all room, own_filter]

theorem of_dispatches (h : Ordered policy s)
    (listeners : moved.client.listeners = s.client.listeners) (issued : moved.issued = s.issued)
    (dispatches : ∀ d ∈ moved.dispatches, d ∈ s.dispatches ∨ d.Ordered policy) :
    Ordered policy moved where
  listeners := by
    rw [listeners, Session.Roomy.congr issued]
    exact h.listeners
  counted := h.counted.of_same listeners issued
  known room := listeners ▸ h.known ((Session.Roomy.congr issued).mp room)
  issued room := by
    rw [issued]
    exact h.issued ((Session.Roomy.congr issued).mp room)
  dispatches d mem := (dispatches d mem).elim (h.dispatches d) id

theorem of_announce (h : Ordered policy s) (events : List Event) :
    Ordered policy (s.announce events) := by
  refine h.of_dispatches rfl rfl fun d mem => ?_
  rcases mem_announce mem with mem | ⟨event, -, rfl⟩
  · exact .inl mem
  · exact .inr trivial

theorem of_enter (h : Ordered policy s) {k : Nat} {d : Dispatch ω} {stage : Dispatch.Stage ω}
    (ordered : Dispatch.Ordered policy { d with stage }) : Ordered policy (s.enter k d stage) := by
  refine h.of_dispatches rfl rfl fun other mem => ?_
  rcases mem_enter mem with mem | rfl
  · exact .inl mem
  · exact .inr ordered

theorem listen (h : Ordered policy s) (event : String) (observer : ω) :
    Ordered policy (s.listen event observer) where
  listeners := by
    obtain ⟨first, observers, listeners, fewer, all, observe⟩ := h.listeners
    refine ⟨first, observers ++ [⟨⟨s.client.listeners.lastId + 1⟩, event, .observe observer⟩], ?_,
      fewer, fun room => all room.of_listen, ?_⟩
    · simp [Session.listen, Client.listen, Registry.on, listeners]
    · intro listener mem
      rcases List.mem_append.mp mem with mem | mem
      · exact observe listener mem
      · obtain rfl := List.mem_singleton.mp mem
        exact ⟨observer, rfl⟩
  counted := h.counted.listen
  known room listener mem := by
    rw [h.counted.lastId_listen room]
    exact Nat.le_succ_of_le (h.known room.of_listen listener mem)
  issued room id mem listener own same := by
    rcases List.mem_append.mp mem with mem | mem
    · exact h.issued room.of_listen id mem listener own same
    · obtain rfl := List.mem_singleton.mp mem
      have known := h.known room.of_listen listener own
      rw [same] at known
      have last : (s.listen event observer).client.listeners.lastId.toNat ≤
          s.client.listeners.lastId.toNat := known
      rw [h.counted.lastId_listen room] at last
      exact Nat.not_succ_le_self _ last
  dispatches := h.dispatches

/-- Only an observer's listener is taken off. -/
theorem off (h : Ordered policy s) {id : ListenerId} (issued : id ∈ s.issued) :
    Ordered policy { s with client := (s.client.off id).2 } where
  listeners := by
    obtain ⟨first, observers, listeners, fewer, all, observe⟩ := h.listeners
    refine ⟨first.filter (·.id ≠ id), observers.filter (·.id ≠ id), ?_,
      List.filter_sublist.trans fewer, fun room => ?_, observe.subset List.filter_sublist.subset⟩
    · simp only [Client.off, Registry.off, listeners, List.filter_append]
    · rw [all room, List.filter_eq_self]
      intro listener mem
      simpa using h.issued room id issued listener mem
  counted := ⟨h.counted.begun, h.counted.bounded⟩
  known := h.known
  issued := h.issued
  dispatches := h.dispatches

/-- The dispatch that comes to the client's own listener. -/
theorem of_own (h : Ordered policy s) {k : Nat} {d : Dispatch ω} {fault : Fault}
    {listener : Listener (Reaction ω)} {targets : List (Listener (Reaction ω))}
    (found : s.dispatches[k]? = some d) (stage : d.stage = .calling (listener :: targets))
    (action : listener.action = .rejectOutstanding fault) :
    own? policy d.event = some listener ∧ Observes targets := by
  have ordered := h.dispatches d (List.mem_of_getElem? found)
  simp only [Dispatch.Ordered, stage] at ordered
  rcases ordered with observes | ⟨first, observers, own, called, observe⟩
  · obtain ⟨observer, observed⟩ := observes listener List.mem_cons_self
    cases action.symm.trans observed
  · obtain ⟨rfl, rfl⟩ := List.cons.inj called
    exact ⟨own, observe⟩

theorem of_rejecting (h : Ordered policy s) {k : Nat} {d : Dispatch ω} {fault : Fault}
    {requests : List PendingRequest} {targets : List (Listener (Reaction ω))}
    (found : s.dispatches[k]? = some d) (stage : d.stage = .rejecting fault requests targets) :
    (own? (ω := ω) policy d.event).map (·.action) = some (.rejectOutstanding fault) ∧
      Observes targets := by
  have ordered := h.dispatches d (List.mem_of_getElem? found)
  simpa only [Dispatch.Ordered, stage] using ordered

theorem step (h : Ordered policy s) (change : Change s moved seen) : Ordered policy moved := by
  cases change with
  | idle => exact h
  | channel | receive =>
      apply of_announce
      exact h.of_dispatches rfl rfl fun d mem => .inl mem
  | register | handOver | refuse | withdraw | settle | limit | poll | drop =>
      exact h.of_dispatches rfl rfl fun d mem => .inl mem
  | on event observer => exact h.listen event observer
  | off id own => exact h.off own
  | lookUp k d found stage =>
      apply h.of_enter
      obtain ⟨first, observers, targets, rfl | rfl, -, observe⟩ := h.targets d.event
      · simpa only [Dispatch.Ordered, targets] using .inl observe
      · simp only [Dispatch.Ordered, targets]
        cases own : own? (ω := ω) policy d.event with
        | none => exact .inl observe
        | some listener => exact .inr ⟨listener, observers, rfl, rfl, observe⟩
  | pass k d observer listener targets found stage action =>
      apply h.of_enter
      have ordered := h.dispatches d (List.mem_of_getElem? found)
      simp only [Dispatch.Ordered, stage] at ordered
      rcases ordered with observes | ⟨first, observers, own, called, observe⟩
      · exact .inl (observes.subset (List.subset_cons_self _ _))
      · obtain ⟨rfl, rfl⟩ := List.cons.inj called
        exact .inl observe
  | drain k d fault listener targets found stage action =>
      obtain ⟨own, observes⟩ := h.of_own found stage action
      refine of_enter ?_ ⟨by simp [own, action], observes⟩
      exact h.of_dispatches rfl rfl fun d mem => .inl mem
  | reject k d fault request requests targets found stage =>
      have rejecting := h.of_rejecting found stage
      refine of_enter ?_ rejecting
      exact h.of_dispatches rfl rfl fun d mem => .inl mem
  | leave k d fault targets found stage =>
      apply h.of_enter
      exact Or.inl (h.of_rejecting found stage).2

end Ordered

theorem ordered_launch (policy : PendingPolicy) (requestTimeout : Option Time) :
    Ordered policy (Session.launch policy requestTimeout : Session ω) where
  listeners := by
    refine ⟨own policy, [], ?_, List.Sublist.refl _, fun _ => rfl, nofun⟩
    cases policy <;> rfl
  counted := (listening_launch policy requestTimeout).counted
  known _ := by
    cases policy with
    | keepAcrossReconnect => exact List.forall_mem_singleton.mpr (Nat.le_refl 1)
    | rejectOnDisconnect =>
        exact List.forall_mem_cons.mpr
          ⟨Nat.le_succ 1, List.forall_mem_singleton.mpr (Nat.le_refl 2)⟩
  issued := by simp
  dispatches := by simp

theorem run_ordered (h : Ordered policy s) (moves : List (Move ω)) :
    Ordered policy (s.run moves).1 :=
  replay_keeps (fun s _ => Ordered policy s) (fun s _ m _ h => h.step (.of_step s m)) h

end DuplexRpc.Client
