import DuplexRpc.Proofs.Client.Condemned
import DuplexRpc.Proofs.Client.Tracing
import DuplexRpc.Proofs.Client.Undisturbed

/-!
# Requests that a lost link takes

A client that rejects on disconnect empties the table before any observer hears of the loss.  What
was in the table fails because the link was lost, unless its owner gives it up before the listener
comes to it.  What gets into the table later is none of that dispatch's business.
-/

namespace DuplexRpc.Client

open DuplexRpc.Correlator DuplexRpc.Json DuplexRpc.Wire

variable {ω : Type} {policy : PendingPolicy} {s moved : Session ω} {seen more : List Occurrence}
  {r : RequestId} {k : Nat} {d : Dispatch ω}

/-! ## A dispatch that nobody disturbs -/

theorem step_loss (ordered : Ordered .rejectOnDisconnect s) (room : s.Roomy)
    (found : s.dispatches[k]? = some d) (event : d.event = .disconnect)
    (stage : d.stage = .begun) :
    ∃ observers, Observes observers ∧
      (s.step (.dispatch k)).1 = s.enter k d (.calling (rejecter :: observers)) := by
  obtain ⟨first, observers, targets, -, all, observe⟩ := ordered.targets d.event
  have mine : (own? (ω := ω) .rejectOnDisconnect d.event).toList = [rejecter] := by
    rw [event]
    rfl
  rw [all room, mine, List.singleton_append] at targets
  refine ⟨observers, observe, ?_⟩
  simp [Session.step, Session.advance, found, Dispatch.advance, stage, targets, Session.enter]

theorem run_loss {observers : List (Listener (Reaction ω))} (found : s.dispatches[k]? = some d)
    (looked : (s.step (.dispatch k)).1 = s.enter k d (.calling (rejecter :: observers))) :
    (s.run (.replicate (1 + (1 + s.client.correlator.pending.length + 1)) (.dispatch k))).1 =
      { s with client := s.client.failAll .disconnected }.enter k d (.calling observers) := by
  have opened : s.advance k = s.enter k d (.calling (rejecter :: observers)) := looked
  calc
    _ = ((s.enter k d (.calling (rejecter :: observers))).run
          (.replicate (1 + s.client.correlator.pending.length + 1) (.dispatch k))).1 := by
        rw [run_dispatches, run_once, opened]
    _ = _ := run_own (s := s.enter k d (.calling (rejecter :: observers)))
        (enter_getElem? found) rfl rfl
    _ = _ := by simp [Session.enter]

/-! ## A dispatch past the client's own listener -/

/-- The dispatch comes to observers only, and the request is not among those it has to reject. -/
structure Spares (d : Dispatch ω) (r : RequestId) : Prop where
  begun : d.stage ≠ .begun
  rejectees : r ∉ d.rejectees
  targets : Observes d.targets

section

variable {targets : List (Listener (Reaction ω))}

theorem Spares.calling (h : Spares d r) (stage : d.stage = .calling targets) :
    Observes targets := by
  have observes := h.targets
  simpa only [Dispatch.targets, stage] using observes

theorem Spares.rejecting {fault : Fault} {requests : List PendingRequest} (h : Spares d r)
    (stage : d.stage = .rejecting fault requests targets) :
    r ∉ requests.map (·.id) ∧ Observes targets := by
  have others := h.rejectees
  have observes := h.targets
  simp only [Dispatch.rejectees, Dispatch.targets, stage] at others observes
  exact ⟨others, observes⟩

end

theorem Spares.step (h : Spares d r) (found : s.dispatches[k]? = some d)
    (change : Change s moved seen) :
    ∃ next, moved.dispatches[k]? = some next ∧ Spares next r := by
  have entered {s : Session ω} {j : Nat} {other : Dispatch ω} {stage : Dispatch.Stage ω}
      (found : s.dispatches[k]? = some d) (at_j : s.dispatches[j]? = some other)
      (goes : other = d → Spares { d with stage } r) :
      ∃ next, (s.enter j other stage).dispatches[k]? = some next ∧ Spares next r := by
    by_cases same : j = k
    · subst same
      obtain rfl : other = d := Option.some.inj (at_j.symm.trans found)
      exact ⟨_, enter_getElem? found, goes rfl⟩
    · refine ⟨d, ?_, h⟩
      rw [Session.enter, List.getElem?_set_ne same]
      exact found
  have announced (events : List Event) {s : Session ω} (found : s.dispatches[k]? = some d) :
      ∃ next, (s.announce events).dispatches[k]? = some next ∧ Spares next r := by
    have bound : k < s.dispatches.length := (List.getElem?_eq_some_iff.mp found).1
    refine ⟨d, ?_, h⟩
    rw [Session.announce, List.getElem?_append_left bound]
    exact found
  cases change with
  | channel | receive => exact announced _ found
  | lookUp j other at_j stage =>
      refine entered found at_j ?_
      rintro rfl
      exact absurd stage h.begun
  | pass j other observer listener targets at_j stage action =>
      refine entered found at_j ?_
      rintro rfl
      exact ⟨by simp, List.not_mem_nil, (h.calling stage).subset (List.subset_cons_self _ _)⟩
  | drain j other fault listener targets at_j stage action =>
      refine entered found at_j ?_
      rintro rfl
      -- The client's own listener is behind.
      obtain ⟨observer, observed⟩ := h.calling stage listener List.mem_cons_self
      cases action.symm.trans observed
  | reject j other fault request requests targets at_j stage =>
      refine entered found at_j ?_
      rintro rfl
      obtain ⟨others, observes⟩ := h.rejecting stage
      exact ⟨by simp, fun mem => others (List.mem_cons_of_mem _ mem), observes⟩
  | leave j other fault targets at_j stage =>
      refine entered found at_j ?_
      rintro rfl
      exact ⟨by simp, List.not_mem_nil, (h.rejecting stage).2⟩
  | _ => exact ⟨d, found, h⟩

theorem run_spares (h : Spares d r) (found : s.dispatches[k]? = some d) (moves : List (Move ω)) :
    ∃ next, (s.run moves).1.dispatches[k]? = some next ∧ Spares next r :=
  replay_keeps (fun (s : Session ω) _ => ∃ d, s.dispatches[k]? = some d ∧ Spares d r)
    (fun s _ m _ ⟨_, found, h⟩ => h.step found (.of_step s m)) ⟨d, found, h⟩

theorem Advance.spares (advance : Advance s k d moved) (h : Spares d r) :
    moved.ticket? r = s.ticket? r ∧ moved.outstanding = s.outstanding := by
  cases advance with
  | lookUp stage => exact absurd stage h.begun
  | finished | pass | leave => exact ⟨rfl, rfl⟩
  | drain fault stage action =>
      obtain ⟨observer, observed⟩ := h.calling stage _ List.mem_cons_self
      cases action.symm.trans observed
  | reject fault request stage =>
      obtain ⟨others, -⟩ := h.rejecting stage
      simp only [List.map_cons, List.mem_cons, not_or] at others
      simp [Session.ticket?, Session.outstanding, Session.enter, Session.correlate,
        ticket?_deliver, others.1]

/-- A step of such a dispatch leaves the request and its ticket alone. -/
theorem Spares.untouched (h : Spares d r) (found : s.dispatches[k]? = some d) :
    (s.step (.dispatch k)).1.ticket? r = s.ticket? r ∧
      (s.step (.dispatch k)).1.outstanding = s.outstanding :=
  (Advance.of_found found).spares h

/-! ## What was outstanding -/

theorem calling_step (change : Change s moved seen)
    (other : s.client.correlator.upcoming ≠ r) (calling : r ∈ moved.calling) : r ∈ s.calling := by
  cases change with
  | register method params =>
      simp only [Session.calling, List.map_append, List.mem_append] at calling
      rcases calling with calling | own
      · exact calling
      · exact absurd (List.mem_singleton.mp own).symm other
  | handOver | withdraw => exact (calling_filter.mp calling).1
  | refuse id closed => simpa only [Session.calling, calling_refuse] using calling
  | _ => exact calling

/-- How a request ends that the loss of a link took out of the table: by the given dispatch, or,
if its call was not over, by the refusal of its call. -/
structure Fallen (via : Option Nat) (unfinished : Prop) (r : RequestId) (s : Session ω)
    (seen : List Occurrence) : Prop where
  first : ∀ outcome ∈ (collected r seen).head?,
    outcome = .error .disconnected ∨ (via.isSome ∧ outcome = .error .timeout) ∨
      (unfinished ∧ outcome = .error .connectionClosed)
  calling : r ∈ s.calling → unfinished
  ends : (.dropped r ∈ seen ∧ s.stage? r = none) ∨ Lost s r ∨
    (unfinished ∧ s.stage? r = some (.refused .connectionClosed)) ∨
    (s.stage? r = some .spent ∧ collected r seen ≠ []) ∨
    ∃ k, via = some k ∧ s.stage? r = some .waiting ∧ Condemned .disconnected s k r

theorem Fallen.step {via : Option Nat} {unfinished : Prop} (h : Fallen via unfinished r s seen)
    (sound : Sound s) (other : s.client.correlator.upcoming ≠ r)
    (change : Change s moved more) : Fallen via unfinished r moved (seen ++ more) := by
  have calling : r ∈ moved.calling → unfinished := fun calling =>
    h.calling (calling_step change other calling)
  have silent (nothing : collected r more = []) :
      ∀ outcome ∈ (collected r (seen ++ more)).head?,
        outcome = .error .disconnected ∨ (via.isSome ∧ outcome = .error .timeout) ∨
          (unfinished ∧ outcome = .error .connectionClosed) :=
    first_collected h.first fun _ => by simp [nothing]
  cases change.ticket r with
  | kept stage nothing =>
      refine ⟨silent nothing, calling, ?_⟩
      rcases h.ends with ⟨dropped, gone⟩ | lost | ⟨own, refused⟩ | ⟨spent, gave⟩ |
        ⟨k, via, waiting, condemned⟩
      · exact .inl ⟨List.mem_append_left _ dropped, stage.trans gone⟩
      · exact .inr (.inl (stage.trans lost))
      · exact .inr (.inr (.inl ⟨own, stage.trans refused⟩))
      · exact .inr (.inr (.inr (.inl ⟨stage.trans spent, by simp [gave]⟩)))
      · rcases condemned.step change (stage.trans waiting) with ⟨again, -⟩ | condemned
        · exact absurd again.symm other
        · exact .inr (.inr (.inr (.inr ⟨k, via, stage.trans waiting, condemned⟩)))
  | registered before _ again nothing =>
      obtain ⟨t, has⟩ := Option.isSome_iff_exists.mp
        (sound.ticketed r (calling_step change other again))
      simp [Session.stage?, has] at before
  | withdrawn call fault mem own refusal stage nothing =>
      obtain rfl := (sound.refused call mem fault refusal).2
      refine ⟨silent nothing, calling, ?_⟩
      have unfinished : unfinished := h.calling (own ▸ List.mem_map_of_mem mem)
      cases has : s.stage? r with
      | some before => exact .inr (.inr (.inl ⟨unfinished, by simp [stage, has]⟩))
      | none =>
          rcases h.ends with ⟨dropped, -⟩ | lost | ⟨-, refused⟩ | ⟨spent, -⟩ | ⟨k, -, waiting, -⟩
          · exact .inl ⟨List.mem_append_left _ dropped, by simp [stage, has]⟩
          · cases has.symm.trans lost
          · cases has.symm.trans refused
          · cases has.symm.trans spent
          · cases has.symm.trans waiting
  | settled outcome before stage cause nothing =>
      refine ⟨silent nothing, calling, .inr (.inl ?_)⟩
      rcases h.ends with ⟨-, gone⟩ | lost | ⟨-, refused⟩ | ⟨spent, -⟩ | ⟨k, -, -, condemned⟩
      · cases before.symm.trans gone
      · cases before.symm.trans lost
      · cases before.symm.trans refused
      · cases before.symm.trans spent
      · -- Only the dispatch that took the request out of the table can settle it.
        rcases cause with ⟨listed, -⟩ | ⟨fault, rfl, j, d, found, mem, requests, targets, rejecting⟩
        · exact absurd listed condemned.unlisted
        · obtain rfl := condemned.fault_eq found mem rejecting
          exact stage
  | collected before outcome free has gives stage shown =>
      have gave : collected r (seen ++ more) ≠ [] := by simp [shown]
      refine ⟨first_collected h.first fun nothing given mem => ?_, calling,
        .inr (.inr (.inr (.inl ⟨stage, gave⟩)))⟩
      obtain rfl : given = outcome := by simpa [shown] using mem
      rcases h.ends with ⟨-, gone⟩ | lost | ⟨own, refused⟩ | ⟨-, earlier⟩ | ⟨k, rfl, waiting, -⟩
      · cases has.symm.trans gone
      · cases has.symm.trans lost
        exact .inl gives
      · cases has.symm.trans refused
        exact .inr (.inr ⟨own, gives⟩)
      · exact absurd nothing earlier
      · cases has.symm.trans waiting
        exact .inr (.inl ⟨rfl, gives⟩)
  | dropped free gone shown nothing =>
      exact ⟨silent nothing, calling, .inl ⟨List.mem_append_right _ shown, gone⟩⟩

theorem run_fallen {via : Option Nat} {unfinished : Prop} {moves : List (Move ω)}
    (sound : Sound s) (fallen : Fallen via unfinished r s seen) (once : Unrepeated s r moves) :
    Fallen via unfinished r (s.run moves).1 (seen ++ (s.run moves).2) := by
  induction moves generalizing s seen with
  | nil => simpa [Session.run] using fallen
  | cons m moves ih =>
      have change := Change.of_step s m
      have later : Unrepeated (s.step m).1 r moves := fun first rest split =>
        once (m :: first) rest (congrArg (m :: ·) split)
      have next := ih (sound.step change)
        (fallen.step sound (once [] (m :: moves) rfl) change) later
      rw [List.append_assoc] at next
      exact next

theorem Fallen.run {via : Option Nat} {unfinished : Prop} {moves : List (Move ω)}
    (h : Fallen via unfinished r s []) (sound : Sound s) (once : Unrepeated s r moves) :
    Fallen via unfinished r (s.run moves).1 (s.run moves).2 :=
  run_fallen sound h once

end DuplexRpc.Client
