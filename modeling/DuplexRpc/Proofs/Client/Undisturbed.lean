import DuplexRpc.Proofs.Client.Change

/-!
# Steps that nobody disturbs

The steps of a call, taken without a break, are a call.  The steps of a dispatch at the client's
own listener, taken without a break, reject everything outstanding at once.  A dispatch that is
left alone comes to its end.
-/

namespace DuplexRpc.Client

open DuplexRpc.Correlator DuplexRpc.Json DuplexRpc.Wire

variable {ω : Type} {s : Session ω}

/-! ## Calls -/

section Calls

variable {calls : List Call} {id : RequestId}

theorem ne_of_fresh (fresh : id ∉ calls.map (·.id)) : ∀ call ∈ calls, call.id ≠ id :=
  fun call mem same => fresh (List.mem_map.mpr ⟨call, mem, same⟩)

theorem find?_fresh (fresh : id ∉ calls.map (·.id)) :
    calls.find? (fun call => call.id = id && call.refusal.isNone) = none := by
  rw [List.find?_eq_none]
  intro call mem
  simp [ne_of_fresh fresh call mem]

theorem filter_fresh (fresh : id ∉ calls.map (·.id)) : calls.filter (·.id ≠ id) = calls := by
  rw [List.filter_eq_self]
  intro call mem
  simpa using ne_of_fresh fresh call mem

theorem map_fresh (fresh : id ∉ calls.map (·.id)) (fault : Fault) :
    (calls.map fun call => if call.id = id then { call with refusal := some fault } else call) =
      calls := by
  calc
    _ = calls.map (fun call => call) :=
        List.map_congr_left fun call mem => if_neg (ne_of_fresh fresh call mem)
    _ = calls := List.map_id' calls

theorem refusal?_fresh (fresh : id ∉ calls.map (·.id)) :
    (calls.findSome? fun call => if call.id = id then call.refusal else none) = none := by
  rw [List.findSome?_eq_none_iff]
  intro call mem
  exact if_neg (ne_of_fresh fresh call mem)

/-- A call that is registered, handed over and, if it is refused, withdrawn at once. -/
theorem withdraw_handOver (call : Call) (latest : s.calls = calls ++ [call])
    (fresh : call.id ∉ calls.map (·.id)) (unrefused : call.refusal = none) :
    (s.handOver call.id).withdraw call.id =
      match s.client.send (Correlator.requestMessage call.id call.method call.params) with
      | (.ok (), client, _) => { s with client, calls }
      | (.error fault, client, _) =>
          { s with
            client := { client with correlator := (client.correlator.refuse call.id fault).1 }
            calls } := by
  have found : s.calls.find? (fun other => other.id = call.id && other.refusal.isNone) =
      some call := by
    rw [latest, List.find?_append, find?_fresh fresh]
    simp [unrefused]
  have kept : s.calls.filter (·.id ≠ call.id) = calls := by
    rw [latest, List.filter_append, filter_fresh fresh]
    simp
  simp only [Session.handOver, found]
  cases s.client.send (Correlator.requestMessage call.id call.method call.params) with
  | mk result rest =>
      obtain ⟨client, readings⟩ := rest
      cases result with
      | ok =>
          simp only [kept, Session.withdraw, Session.refusal?, refusal?_fresh fresh]
      | error fault =>
          have refused : (s.calls.map fun other =>
              if other.id = call.id then { other with refusal := some fault } else other) =
              calls ++ [{ call with refusal := some fault }] := by
            rw [latest, List.map_append, map_fresh fresh]
            simp
          simp only [refused, Session.withdraw, Session.refusal?, List.findSome?_append,
            refusal?_fresh fresh, List.filter_append, filter_fresh fresh]
          simp [Session.correlate]

theorem run_call (method : String) (params : Option Value) (now : Time)
    (fresh : s.client.correlator.upcoming ∉ s.calling) :
    let id := s.client.correlator.upcoming
    let limit : Option (Move ω) :=
      s.client.requestTimeout.map fun timeout => .limit id (now + timeout)
    (s.run ([.register method params, .handOver id, .withdraw id] ++ limit.toList)).1 =
      { s with client := (s.client.call method params now).2.1 } := by
  intro id limit
  let registered : Session ω :=
    { s.correlate (s.client.correlator.register method).2 with
      calls := s.calls ++ [{ id, method, params }] }
  have called := withdraw_handOver (s := registered) { id, method, params } rfl fresh rfl
  have split : (s.run ([.register method params, .handOver id, .withdraw id] ++ limit.toList)).1 =
      (replay Session.step ((registered.handOver id).withdraw id) limit.toList).1 := by
    rw [Session.run, replay_append]
    rfl
  rw [split, called]
  have free : id ∉ s.calls.map (·.id) := fresh
  simp only [Client.call, Client.send, limit, registered, Session.correlate, register_fst]
  generalize Channel.send _ _ = sending
  obtain ⟨sent, channel, readings⟩ := sending
  cases timeout : s.client.requestTimeout with
  | none => cases sent <;> rfl
  | some timeout =>
      cases sent <;>
        simp [replay_cons, Session.step, Session.calling, Session.correlate, free, id]

end Calls

/-! ## Dispatches -/

section Dispatches

variable {k : Nat} {d : Dispatch ω} {fault : Fault} {requests : List PendingRequest}
  {listener : Listener (Reaction ω)} {targets : List (Listener (Reaction ω))}

theorem run_dispatches (first second : Nat) :
    (s.run (.replicate (first + second) (.dispatch k))).1 =
      ((s.run (.replicate first (.dispatch k))).1.run (.replicate second (.dispatch k))).1 := by
  rw [← List.replicate_append_replicate, Session.run, replay_append]

theorem run_once : (s.run (.replicate 1 (.dispatch k))).1 = s.advance k := rfl

theorem enter_enter {first second : Dispatch.Stage ω} :
    (s.enter k d first).enter k { d with stage := first } second = s.enter k d second := by
  simp [Session.enter, List.set_set]

theorem run_reject (found : s.dispatches[k]? = some d)
    (stage : d.stage = .rejecting fault requests targets) :
    (s.run (.replicate requests.length (.dispatch k))).1 =
      (s.correlate (s.client.correlator.reject fault requests)).enter k d
        (.rejecting fault [] targets) := by
  induction requests generalizing s d with
  | nil =>
      obtain ⟨bound, rfl⟩ := List.getElem?_eq_some_iff.mp found
      have same : { s.dispatches[k] with stage := .rejecting fault [] targets } =
          s.dispatches[k] := by rw [← stage]
      simp [Session.run, Session.enter, Session.correlate, Correlator.reject, same]
  | cons request requests ih =>
      let rejected : Session ω :=
        s.correlate (s.client.correlator.deliver request.id (.error fault))
      have advanced : s.advance k = rejected.enter k d (.rejecting fault requests targets) := by
        simp [Session.advance, found, Dispatch.advance, stage, Session.enter, rejected,
          Session.correlate]
      rw [List.length_cons, Nat.add_comm, run_dispatches, run_once, advanced,
        ih (enter_getElem? (s := rejected) found) rfl]
      simp [Session.enter, Session.correlate, Correlator.reject, rejected]

theorem advance_leave (found : s.dispatches[k]? = some d)
    (stage : d.stage = .rejecting fault [] targets) :
    s.advance k = s.enter k d (.calling targets) := by
  simp [Session.advance, found, Dispatch.advance, stage, Session.enter]

/-- A dispatch that comes to the client's own listener rejects everything outstanding. -/
theorem run_own (found : s.dispatches[k]? = some d)
    (stage : d.stage = .calling (listener :: targets))
    (action : listener.action = .rejectOutstanding fault) :
    (s.run (.replicate (1 + s.client.correlator.pending.length + 1) (.dispatch k))).1 =
      { s with client := s.client.failAll fault }.enter k d (.calling targets) := by
  let drained : Session ω := s.correlate { s.client.correlator with pending := [] }
  let rejected : Session ω :=
    drained.correlate (drained.client.correlator.reject fault s.client.correlator.pending)
  let requests := s.client.correlator.pending
  have opened : s.advance k = drained.enter k d (.rejecting fault requests targets) := by
    simp [Session.advance, found, Dispatch.advance, stage, action, Session.enter, drained,
      Session.correlate, Correlator.drain, requests]
  have emptied :
      ((drained.enter k d (.rejecting fault requests targets)).run
        (.replicate requests.length (.dispatch k))).1 =
      rejected.enter k d (.rejecting fault [] targets) := by
    rw [run_reject (enter_getElem? (s := drained) found) rfl]
    simp [Session.enter, Session.correlate, drained, rejected, requests]
  calc
    _ = ((drained.enter k d (.rejecting fault requests targets)).run
          (.replicate requests.length (.dispatch k))).1.advance k := by
        rw [run_dispatches, run_dispatches, run_once, run_once, opened]
    _ = (rejected.enter k d (.rejecting fault [] targets)).advance k := by rw [emptied]
    _ = rejected.enter k d (.calling targets) := by
        rw [advance_leave (enter_getElem? (s := rejected) found) rfl]
        simp [Session.enter]
    _ = _ := rfl

theorem run_calling (found : s.dispatches[k]? = some d) (stage : d.stage = .calling targets) :
    ∃ count, (s.run (.replicate count (.dispatch k))).1.dispatches[k]? =
      some { d with stage := .calling [] } := by
  induction targets generalizing s d with
  | nil => exact ⟨0, by rw [← stage]; exact found⟩
  | cons listener targets ih =>
      cases action : listener.action with
      | observe observer =>
          have passed : s.advance k = s.enter k d (.calling targets) := by
            simp [Session.advance, found, Dispatch.advance, stage, action, Session.enter]
          obtain ⟨count, finished⟩ := ih (enter_getElem? found) rfl
          refine ⟨1 + count, ?_⟩
          rw [run_dispatches, run_once, passed]
          exact finished
      | rejectOutstanding fault =>
          let failed : Session ω := { s with client := s.client.failAll fault }
          obtain ⟨count, finished⟩ := ih (enter_getElem? (s := failed) found) rfl
          refine ⟨1 + s.client.correlator.pending.length + 1 + count, ?_⟩
          rw [run_dispatches, run_own found stage action]
          exact finished

theorem run_finishes (found : s.dispatches[k]? = some d) :
    ∃ count, (s.run (.replicate count (.dispatch k))).1.dispatches[k]? =
      some { d with stage := .calling [] } := by
  cases stage : d.stage with
  | begun =>
      have begun : s.advance k =
          s.enter k d (.calling (s.client.listeners.targets d.event.name)) := by
        simp [Session.advance, found, Dispatch.advance, stage, Session.enter]
      obtain ⟨count, finished⟩ := run_calling (enter_getElem? found) rfl
      refine ⟨1 + count, ?_⟩
      rw [run_dispatches, run_once, begun]
      exact finished
  | calling targets => exact run_calling found stage
  | rejecting fault requests targets =>
      let rejected : Session ω := s.correlate (s.client.correlator.reject fault requests)
      have left : (rejected.enter k d (.calling targets)).dispatches[k]? =
          some { d with stage := .calling targets } := enter_getElem? (s := rejected) found
      obtain ⟨count, finished⟩ := run_calling left rfl
      refine ⟨requests.length + (1 + count), ?_⟩
      rw [run_dispatches, run_reject found stage, run_dispatches, run_once,
        advance_leave (enter_getElem? (s := rejected) found) rfl, enter_enter]
      exact finished

end Dispatches

end DuplexRpc.Client
