import DuplexRpc.Proofs.Client.Dispatching

/-!
# Between any two steps

What holds of a client in the middle of any number of calls and dispatches.  A call is refused by
a closed channel only, and its ticket is there.  A ticket that waits has its request in the table
or among those that a dispatch is about to reject.  Once the client's own listener has emptied the
table for the closing, every request in it belongs to a call that is not over.
-/

namespace DuplexRpc.Client

open DuplexRpc.Correlator DuplexRpc.Json DuplexRpc.Wire

variable {ω : Type} {s moved : Session ω} {seen : List Occurrence}

theorem Change.closed (change : Change s moved seen)
    (closed : s.client.channel.state = .closed) : moved.client.channel.state = .closed := by
  cases change with
  | channel step => exact Channel.Step.closed closed step
  | handOver id alive step => exact absurd closed alive
  | _ => exact closed

/-! ## Calls in progress -/

def Refused (s : Session ω) : Prop :=
  ∀ call ∈ s.calls, ∀ fault, call.refusal = some fault →
    s.client.channel.state = .closed ∧ fault = .connectionClosed

theorem Refused.step (h : Refused s) (change : Change s moved seen) : Refused moved := by
  intro call mem fault refusal
  have kept : ∀ call ∈ s.calls, call.refusal = some fault →
      moved.client.channel.state = .closed ∧ fault = .connectionClosed := by
    intro call mem refusal
    obtain ⟨closed, same⟩ := h call mem fault refusal
    exact ⟨change.closed closed, same⟩
  cases change with
  | register method params =>
      simp only [List.mem_append, List.mem_singleton] at mem
      rcases mem with mem | rfl
      · exact kept call mem refusal
      · cases refusal
  | handOver id alive step => exact kept call (List.mem_filter.mp mem).1 refusal
  | withdraw own fault mem' refusal' => exact kept call (List.mem_filter.mp mem).1 refusal
  | refuse id closed =>
      obtain ⟨before, known, rfl⟩ := List.mem_map.mp mem
      split at refusal
      · cases refusal
        exact ⟨closed, rfl⟩
      · exact kept before known refusal
  | _ => exact kept call mem refusal

def Ticketed (s : Session ω) : Prop := ∀ id ∈ s.calling, (s.ticket? id).isSome

theorem calling_filter {calls : List Call} {r id : RequestId} :
    r ∈ (calls.filter (·.id ≠ id)).map (·.id) ↔ r ∈ calls.map (·.id) ∧ r ≠ id := by
  simp only [List.mem_map, List.mem_filter, decide_eq_true_eq]
  constructor
  · rintro ⟨call, ⟨mem, other⟩, rfl⟩
    exact ⟨⟨call, mem, rfl⟩, other⟩
  · rintro ⟨⟨call, mem, rfl⟩, other⟩
    exact ⟨call, ⟨mem, other⟩, rfl⟩

theorem calling_refuse {calls : List Call} (id : RequestId) (fault : Fault) :
    (calls.map fun call =>
        if call.id = id then { call with refusal := some fault } else call).map (·.id) =
      calls.map (·.id) := by
  rw [List.map_map]
  refine List.map_congr_left fun call _ => ?_
  show (if call.id = id then { call with refusal := some fault } else call).id = call.id
  split <;> rfl

theorem Ticketed.step (h : Ticketed s) (change : Change s moved seen) : Ticketed moved := by
  intro r mem
  cases change with
  | register method params =>
      simp only [Session.calling, List.map_append, List.mem_append] at mem
      simp only [Session.ticket?, Session.correlate, ticket?_register]
      rcases mem with mem | own
      · have known := h r mem
        simp only [Session.ticket?] at known
        simp [known]
      · have own : r = s.client.correlator.upcoming := by simpa using own
        simp [own]
  | handOver id alive step => exact h r (calling_filter.mp mem).1
  | refuse id closed =>
      rw [Session.calling, calling_refuse] at mem
      exact h r mem
  | withdraw call fault known refusal =>
      have before := h r (calling_filter.mp mem).1
      simp only [Session.ticket?, Session.correlate, ticket?_refuse] at before ⊢
      split <;> simpa using before
  | settle m =>
      have before := h r mem
      simp only [Session.ticket?, Session.correlate, ticket?_settle] at before ⊢
      split <;> simpa using before
  | limit id deadline free =>
      have before := h r mem
      simp only [Session.ticket?, Session.correlate, ticket?_limit] at before ⊢
      split <;> simpa using before
  | poll id now free =>
      have other : r ≠ id := fun same => free (same ▸ mem)
      have before := h r mem
      simp only [Session.ticket?, Session.correlate, ticket?_poll_ne other] at before ⊢
      exact before
  | drop id free =>
      have other : r ≠ id := fun same => free (same ▸ mem)
      have before := h r mem
      simp only [Session.ticket?, Session.correlate, ticket?_drop, other, if_false] at before ⊢
      exact before
  | reject k d fault request requests targets found stage =>
      have before := h r mem
      simp only [Session.ticket?, Session.enter, Session.correlate, ticket?_deliver] at before ⊢
      split <;> simpa using before
  | _ => exact h r mem

/-! ## Waiting tickets -/

theorem enter_mem {k : Nat} {d : Dispatch ω} {stage : Dispatch.Stage ω}
    (found : s.dispatches[k]? = some d) : { d with stage } ∈ (s.enter k d stage).dispatches :=
  List.mem_of_getElem? (enter_getElem? found)

/-- A dispatch that goes on takes no request away from those that are about to be rejected, but
those that it rejects itself. -/
theorem rejectees_enter {k : Nat} {d : Dispatch ω} {stage : Dispatch.Stage ω} {r : RequestId}
    (found : s.dispatches[k]? = some d)
    (kept : r ∈ d.rejectees → r ∈ Dispatch.rejectees { d with stage })
    (before : ∃ other ∈ s.dispatches, r ∈ other.rejectees) :
    ∃ other ∈ (s.enter k d stage).dispatches, r ∈ other.rejectees := by
  obtain ⟨other, mem, waits⟩ := before
  obtain ⟨j, at_j⟩ := List.mem_iff_getElem?.mp mem
  by_cases same : j = k
  · subst same
    obtain rfl : other = d := Option.some.inj (at_j.symm.trans found)
    exact ⟨_, enter_mem found, kept waits⟩
  · refine ⟨other, List.mem_of_getElem? (i := j) ?_, waits⟩
    rw [Session.enter, List.getElem?_set_ne (Ne.symm same)]
    exact at_j

def Attended (s : Session ω) : Prop :=
  ∀ r t, s.ticket? r = some t → t.stage = .waiting →
    r ∈ s.outstanding ∨ ∃ d ∈ s.dispatches, r ∈ d.rejectees

theorem Attended.step (h : Attended s) (change : Change s moved seen) : Attended moved := by
  intro r t has waiting
  cases change with
  | idle | handOver | refuse | on | off => exact h r t has waiting
  | channel | receive =>
      rcases h r t has waiting with listed | ⟨d, mem, waits⟩
      · exact .inl listed
      · exact .inr ⟨d, List.mem_append_left _ mem, waits⟩
  | register method params =>
      simp only [Session.ticket?, Session.correlate, ticket?_register] at has
      simp only [Session.outstanding, Session.correlate, outstanding_register]
      cases known : s.client.correlator.ticket? r with
      | some before =>
          obtain rfl : before = t := by simpa [known] using has
          rcases h r before known waiting with listed | waits
          · exact .inl (List.mem_append_left _ listed)
          · exact .inr waits
      | none =>
          have own : r = s.client.correlator.upcoming := by
            rw [known, Option.none_or] at has
            exact (Option.ite_none_right_eq_some.mp has).1
          exact .inl (by simp [own])
  | withdraw call fault known refusal =>
      simp only [Session.ticket?, Session.correlate, ticket?_refuse] at has
      split at has
      · obtain ⟨before, -, rfl⟩ := Option.map_eq_some_iff.mp has
        cases waiting
      · rename_i other
        rcases h r t has waiting with listed | waits
        · exact .inl (by simpa [Session.outstanding, Session.correlate, other] using listed)
        · exact .inr waits
  | settle m =>
      simp only [Session.ticket?, Session.correlate, ticket?_settle] at has
      split at has
      · obtain ⟨before, -, rfl⟩ := Option.map_eq_some_iff.mp has
        exact absurd waiting (settle_ne_waiting _ _)
      · rename_i unsettled
        rcases h r t has waiting with listed | waits
        · left
          rw [Session.outstanding, Session.correlate, mem_outstanding_settle]
          exact ⟨listed, fun response => unsettled ⟨response, listed⟩⟩
        · exact .inr waits
  | limit id deadline free =>
      simp only [Session.ticket?, Session.correlate, ticket?_limit] at has
      split at has
      · obtain ⟨before, had, rfl⟩ := Option.map_eq_some_iff.mp has
        exact h r before had waiting
      · exact h r t has waiting
  | poll id now free =>
      obtain ⟨had, kept⟩ := waiting_of_poll id has waiting
      rcases h r t had waiting with listed | waits
      · exact .inl (kept listed)
      · exact .inr waits
  | drop id free =>
      simp only [Session.ticket?, Session.correlate, ticket?_drop] at has
      split at has
      · cases has
      · rename_i other
        rcases h r t has waiting with listed | waits
        · exact .inl ((mem_outstanding_drop_ne other).mpr listed)
        · exact .inr waits
  | lookUp k d found stage | pass k d _ _ _ found stage _ | leave k d _ _ found stage =>
      rcases h r t has waiting with listed | waits
      · exact .inl listed
      · exact .inr (rejectees_enter found (by simp [Dispatch.rejectees, stage]) waits)
  | drain k d fault listener targets found stage action =>
      -- What leaves the table is what this dispatch has to reject from now on.
      rcases h r t has waiting with listed | waits
      · exact .inr ⟨_, enter_mem (by exact found), listed⟩
      · exact .inr (rejectees_enter (by exact found) (by simp [Dispatch.rejectees, stage]) waits)
  | reject k d fault request requests targets found stage =>
      simp only [Session.ticket?, Session.enter, Session.correlate, ticket?_deliver] at has
      split at has
      · obtain ⟨before, -, rfl⟩ := Option.map_eq_some_iff.mp has
        exact absurd waiting (settle_ne_waiting _ _)
      · rename_i other
        rcases h r t has waiting with listed | waits
        · exact .inl listed
        · refine .inr (rejectees_enter (by exact found) (fun waits => ?_) waits)
          simpa [Dispatch.rejectees, stage, other] using waits

/-! ## The emptied table -/

def Emptied (s : Session ω) : Prop := ∀ id ∈ s.outstanding, id ∈ s.calling

theorem Emptied.step (h : Emptied s) (closed : s.client.channel.state = .closed)
    (change : Change s moved seen) : Emptied moved := by
  intro r listed
  cases change with
  | handOver id alive step => exact absurd closed alive
  | register method params =>
      simp only [Session.outstanding, Session.correlate, outstanding_register, List.mem_append,
        List.mem_singleton] at listed
      simp only [Session.calling, List.map_append, List.mem_append]
      rcases listed with listed | own
      · exact .inl (h r listed)
      · exact .inr (by simp [own])
  | refuse id _ =>
      rw [Session.calling, calling_refuse]
      exact h r listed
  | withdraw call fault known refusal =>
      simp only [Session.outstanding, Session.correlate, outstanding_refuse, List.mem_filter]
        at listed
      exact calling_filter.mpr ⟨h r listed.1, by simpa using listed.2⟩
  | settle m => exact h r ((mem_outstanding_settle _ r m).mp listed).1
  | poll id now free => exact h r (outstanding_poll_subset _ id now listed)
  | drop id free => exact h r (outstanding_drop_subset _ id listed)
  | drain k d fault listener targets found stage action => cases listed
  | _ => exact h r listed

/-- The client's own listener is among those that a dispatch of the closing has still to come to,
or it emptied the table, unless the ids of listeners came round. -/
def Approached (s : Session ω) : Prop :=
  s.Roomy → ∀ d ∈ s.dispatches, d.closes → d.stage = .begun ∨ closer ∈ d.targets ∨ Emptied s

theorem Announced.closed (h : Announced s) {d : Dispatch ω} (mem : d ∈ s.dispatches)
    (closes : d.closes) : s.client.channel.state = .closed := by
  have announced : 0 < s.closings :=
    List.countP_pos_iff.mpr ⟨d.event, List.mem_map_of_mem mem, closes⟩
  have balance : s.closings + s.client.channel.task.owing = s.client.channel.state.due := h
  by_cases closed : s.client.channel.state = .closed
  · exact closed
  · simp only [Channel.Lifecycle.due, closed, if_false] at balance
    omega

theorem Approached.step (h : Approached s) (listening : Listening s) (announced : Announced s)
    (change : Change s moved seen) : Approached moved := by
  intro room other mem closes
  have room := change.roomy room
  have kept : ∀ d ∈ s.dispatches, d.closes →
      d.stage = .begun ∨ closer ∈ d.targets ∨ Emptied moved := by
    intro d mem closes
    rcases h room d mem closes with begun | ahead | emptied
    · exact .inl begun
    · exact .inr (.inl ahead)
    · exact .inr (.inr (emptied.step (announced.closed mem closes) change))
  cases change with
  | channel | receive =>
      rcases mem_announce mem with mem | ⟨event, -, rfl⟩
      · exact kept other mem closes
      · exact .inl rfl
  | lookUp k d found stage =>
      rcases mem_enter mem with mem | rfl
      · exact kept other mem closes
      · -- The client's own listener was never taken off, so the look-up finds it.
        refine .inr (.inl ?_)
        have named : d.event.name = Event.close.name := by
          rw [Dispatch.event_of_closes closes]
        simpa [Dispatch.targets, Registry.targets, named, closer] using listening.own room
  | pass k d observer listener targets found stage action =>
      rcases mem_enter mem with mem | rfl
      · exact kept other mem closes
      · rcases kept d (List.mem_of_getElem? found) closes with begun | ahead | emptied
        · cases begun.symm.trans stage
        · have apart : closer ≠ listener := by
            rintro rfl
            cases action
          exact .inr (.inl (by simpa [Dispatch.targets, stage, apart] using ahead))
        · exact .inr (.inr emptied)
  | drain k d fault listener targets found stage action =>
      -- Whoever emptied the table, nothing is in it now.
      refine .inr (.inr fun id listed => ?_)
      cases listed
  | reject k d fault request requests targets found stage =>
      rcases mem_enter mem with mem | rfl
      · exact kept other mem closes
      · rcases kept d (List.mem_of_getElem? found) closes with begun | ahead | emptied
        · cases begun.symm.trans stage
        · exact .inr (.inl (by simpa [Dispatch.targets, stage] using ahead))
        · exact .inr (.inr emptied)
  | leave k d fault targets found stage =>
      rcases mem_enter mem with mem | rfl
      · exact kept other mem closes
      · rcases kept d (List.mem_of_getElem? found) closes with begun | ahead | emptied
        · cases begun.symm.trans stage
        · exact .inr (.inl (by simpa [Dispatch.targets, stage] using ahead))
        · exact .inr (.inr emptied)
  | _ => exact kept other mem closes

/-! ## All of it -/

structure Sound (s : Session ω) : Prop where
  listening : Listening s
  announced : Announced s
  refused : Refused s
  ticketed : Ticketed s
  attended : Attended s
  approached : Approached s

theorem Sound.step (h : Sound s) (change : Change s moved seen) : Sound moved where
  listening := h.listening.step change
  announced := h.announced.step change
  refused := h.refused.step change
  ticketed := h.ticketed.step change
  attended := h.attended.step change
  approached := h.approached.step h.listening h.announced change

theorem sound_launch (policy : PendingPolicy) (requestTimeout : Option Time) :
    Sound (Session.launch policy requestTimeout : Session ω) where
  listening := listening_launch policy requestTimeout
  announced := by cases policy <;> rfl
  refused := by simp [Refused]
  ticketed := by simp [Ticketed, Session.calling]
  attended r t has := by cases policy <;> cases has
  approached := by simp [Approached]

theorem run_sound (h : Sound s) (moves : List (Move ω)) : Sound (s.run moves).1 :=
  replay_keeps (fun s _ => Sound s) (fun s _ m _ h => h.step (.of_step s m)) h

end DuplexRpc.Client
