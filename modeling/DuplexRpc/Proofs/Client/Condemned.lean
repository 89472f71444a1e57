import DuplexRpc.Proofs.Client.Outstanding

/-!
# Requests that are about to be rejected

The client's own listener takes every outstanding request out of the table and rejects one after
the other.  In between nobody else can settle them, and whatever happens, the listener comes to
each.
-/

namespace DuplexRpc.Client

open DuplexRpc.Correlator DuplexRpc.Json DuplexRpc.Wire

variable {ω : Type} {s moved : Session ω} {seen : List Occurrence} {r : RequestId}

theorem step_drain {k : Nat} {d : Dispatch ω} {fault : Fault} {listener : Listener (Reaction ω)}
    {targets : List (Listener (Reaction ω))} (found : s.dispatches[k]? = some d)
    (stage : d.stage = .calling (listener :: targets))
    (action : listener.action = .rejectOutstanding fault) :
    (s.step (.dispatch k)).1 =
      (s.correlate { s.client.correlator with pending := [] }).enter k d
        (.rejecting fault s.client.correlator.pending targets) := by
  simp [Session.step, Session.advance, found, Dispatch.advance, stage, action, Correlator.drain,
    Session.enter, Session.correlate]

/-- A dispatch is about to reject the request with this fault, nobody else can settle it any
more. -/
structure Condemned (fault : Fault) (s : Session ω) (k : Nat) (r : RequestId) : Prop where
  unlisted : r ∉ s.outstanding
  named : ∃ d requests targets, s.dispatches[k]? = some d ∧
    d.stage = .rejecting fault requests targets ∧ r ∈ requests.map (·.id)
  alone : ∀ (j : Nat) (d : Dispatch ω), s.dispatches[j]? = some d → r ∈ d.rejectees → j = k

namespace Condemned

variable {fault : Fault} {j k : Nat} {d : Dispatch ω} {stage : Dispatch.Stage ω}

theorem of_same (h : Condemned fault s k r) (unlisted : r ∉ moved.outstanding)
    (dispatches : moved.dispatches = s.dispatches) : Condemned fault moved k r where
  unlisted := unlisted
  named := dispatches ▸ h.named
  alone := dispatches ▸ h.alone

theorem of_announce (h : Condemned fault s k r) (events : List Event) :
    Condemned fault (s.announce events) k r where
  unlisted := h.unlisted
  named := by
    obtain ⟨d, requests, targets, found, rejecting, mem⟩ := h.named
    have bound : k < s.dispatches.length := (List.getElem?_eq_some_iff.mp found).1
    refine ⟨d, requests, targets, ?_, rejecting, mem⟩
    rw [Session.announce, List.getElem?_append_left bound]
    exact found
  alone j d found mem := by
    by_cases bound : j < s.dispatches.length
    · rw [Session.announce, List.getElem?_append_left bound] at found
      exact h.alone j d found mem
    · rw [Session.announce, List.getElem?_append_right (Nat.le_of_not_lt bound)] at found
      obtain ⟨event, -, rfl⟩ := List.mem_map.mp (List.mem_of_getElem? found)
      cases mem

theorem of_enter (h : Condemned fault s k r) (going : s.dispatches[j]? = some d) (other : j ≠ k)
    (untouched : r ∉ Dispatch.rejectees { d with stage }) :
    Condemned fault (s.enter j d stage) k r where
  unlisted := h.unlisted
  named := by
    obtain ⟨d, requests, targets, found, rejecting, mem⟩ := h.named
    refine ⟨d, requests, targets, ?_, rejecting, mem⟩
    rw [Session.enter, List.getElem?_set_ne other]
    exact found
  alone i entered found mem := by
    by_cases same : j = i
    · subst same
      obtain rfl : { d with stage } = entered :=
        Option.some.inj ((enter_getElem? going).symm.trans found)
      exact absurd mem untouched
    · rw [Session.enter, List.getElem?_set_ne same] at found
      exact h.alone i entered found mem

theorem of_enter_self (h : Condemned fault s k r) (found : s.dispatches[k]? = some d)
    (requests : List PendingRequest) (targets : List (Listener (Reaction ω)))
    (mem : r ∈ requests.map (·.id)) :
    Condemned fault (s.enter k d (.rejecting fault requests targets)) k r where
  unlisted := h.unlisted
  named := by
    exact ⟨{ d with stage := .rejecting fault requests targets }, requests, targets,
      enter_getElem? found, rfl, mem⟩
  alone i entered at_i rejects := by
    by_cases same : k = i
    · exact same.symm
    · rw [Session.enter, List.getElem?_set_ne same] at at_i
      exact h.alone i entered at_i rejects

theorem ne_of_not_rejecting (h : Condemned fault s k r) (found : s.dispatches[j]? = some d)
    (idle : r ∉ d.rejectees) : j ≠ k := by
  rintro rfl
  obtain ⟨own, requests, targets, at_j, rejecting, mem⟩ := h.named
  obtain rfl : own = d := Option.some.inj (at_j.symm.trans found)
  exact idle (by simpa [Dispatch.rejectees, rejecting] using mem)

theorem step (h : Condemned fault s k r) (change : Change s moved seen)
    (waiting : moved.stage? r = some .waiting) :
    (r = s.client.correlator.upcoming ∧ r ∈ moved.calling) ∨ Condemned fault moved k r := by
  cases change with
  | idle => exact .inr h
  | channel | receive =>
      right
      refine of_announce ?_ _
      exact h.of_same h.unlisted rfl
  | register method params =>
      by_cases own : r = s.client.correlator.upcoming
      · exact .inl ⟨own, by simp [Session.calling, own]⟩
      · refine .inr (h.of_same ?_ rfl)
        simpa [Session.outstanding, Session.correlate, own] using h.unlisted
  | handOver | refuse | on | off | limit => exact .inr (h.of_same h.unlisted rfl)
  | withdraw call fault mem refusal =>
      refine .inr (h.of_same ?_ rfl)
      simp only [Session.outstanding, Session.correlate, outstanding_refuse, List.mem_filter]
      exact fun listed => h.unlisted listed.1
  | settle m =>
      exact .inr (h.of_same
        (fun listed => h.unlisted ((mem_outstanding_settle _ r m).mp listed).1) rfl)
  | poll id now free =>
      exact .inr (h.of_same
        (fun listed => h.unlisted (outstanding_poll_subset _ id now listed)) rfl)
  | drop id free =>
      exact .inr (h.of_same
        (fun listed => h.unlisted (outstanding_drop_subset _ id listed)) rfl)
  | lookUp j d found stage | pass j d _ _ _ found stage _ | leave j d _ _ found stage =>
      have idle : r ∉ d.rejectees := by simp [Dispatch.rejectees, stage]
      exact .inr (h.of_enter found (h.ne_of_not_rejecting found idle)
        (by simp [Dispatch.rejectees]))
  | drain j d _ listener targets found stage action =>
      have idle : r ∉ d.rejectees := by simp [Dispatch.rejectees, stage]
      have other : j ≠ k := h.ne_of_not_rejecting found idle
      right
      refine of_enter ?_ found other h.unlisted
      exact h.of_same List.not_mem_nil rfl
  | reject j d given request requests targets found stage =>
      have deliver : Condemned fault (s.correlate
          (s.client.correlator.deliver request.id (.error given))) k r :=
        h.of_same h.unlisted rfl
      right
      by_cases same : j = k
      · subst same
        obtain ⟨own, requests', targets', at_j, rejecting, mem⟩ := h.named
        obtain rfl : own = d := Option.some.inj (at_j.symm.trans found)
        obtain ⟨rfl, rfl, rfl⟩ : fault = given ∧
            requests' = request :: requests ∧ targets' = targets := by
          simpa using rejecting.symm.trans stage
        by_cases first : r = request.id
        · -- The ticket has just got its outcome, so it cannot be waiting.
          subst first
          simp only [Session.stage?, Session.ticket?, Session.enter, Session.correlate,
            ticket?_deliver, if_true, Option.map_map] at waiting
          obtain ⟨before, -, stage⟩ := Option.map_eq_some_iff.mp waiting
          exact absurd stage (settle_ne_waiting _ before)
        · exact deliver.of_enter_self found requests targets' (by simpa [first] using mem)
      · refine of_enter deliver found same fun mem => same (h.alone j d found ?_)
        have mem : r ∈ requests.map (·.id) := mem
        simp only [Dispatch.rejectees, stage, List.map_cons, List.mem_cons]
        exact .inr mem

theorem fault_eq {given : Fault} {requests : List PendingRequest}
    {targets : List (Listener (Reaction ω))} (h : Condemned fault s k r)
    (found : s.dispatches[j]? = some d) (mem : r ∈ d.rejectees)
    (stage : d.stage = .rejecting given requests targets) : given = fault := by
  obtain rfl := h.alone j d found mem
  obtain ⟨own, requests', targets', at_j, rejecting, -⟩ := h.named
  obtain rfl : own = d := Option.some.inj (at_j.symm.trans found)
  obtain ⟨rfl, -, -⟩ : fault = given ∧ requests' = requests ∧ targets' = targets := by
    simpa using rejecting.symm.trans stage
  rfl

theorem unfinished (h : Condemned fault s k r) (found : s.dispatches[k]? = some d) :
    ¬d.finished := by
  obtain ⟨own, requests, targets, at_k, rejecting, -⟩ := h.named
  obtain rfl : own = d := Option.some.inj (at_k.symm.trans found)
  simp [Dispatch.finished, rejecting]

theorem of_drain {listener : Listener (Reaction ω)} {targets : List (Listener (Reaction ω))}
    (found : s.dispatches[k]? = some d) (stage : d.stage = .calling (listener :: targets))
    (action : listener.action = .rejectOutstanding fault) (listed : r ∈ s.outstanding)
    (alone : ∀ d ∈ s.dispatches, r ∉ d.rejectees) :
    Condemned fault (s.step (.dispatch k)).1 k r := by
  rw [step_drain found stage action]
  constructor
  · exact List.not_mem_nil
  · exact ⟨_, _, targets, enter_getElem? found, rfl, listed⟩
  · intro j other at_j rejects
    by_cases same : k = j
    · exact same.symm
    · rw [Session.enter, List.getElem?_set_ne same] at at_j
      exact absurd rejects (alone other (List.mem_of_getElem? at_j))

end Condemned

end DuplexRpc.Client
