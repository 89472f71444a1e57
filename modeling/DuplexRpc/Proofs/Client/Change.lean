import DuplexRpc.Proofs.Channel.TaskMove
import DuplexRpc.Proofs.Client.Session

/-!
# What can happen to a client

One rule for each way a move changes a client in the middle of its calls and dispatches.  Whatever
a run of a client keeps is shown by going through these rules.
-/

namespace DuplexRpc.Client

open DuplexRpc.Json DuplexRpc.Wire

variable {ω : Type}

def Session.enter (s : Session ω) (k : Nat) (d : Dispatch ω) (stage : Dispatch.Stage ω) :
    Session ω :=
  { s with dispatches := s.dispatches.set k { d with stage } }

theorem enter_getElem? {s : Session ω} {k : Nat} {d : Dispatch ω}
    {stage : Dispatch.Stage ω} (found : s.dispatches[k]? = some d) :
    (s.enter k d stage).dispatches[k]? = some { d with stage } := by
  obtain ⟨bound, -⟩ := List.getElem?_eq_some_iff.mp found
  exact List.getElem?_set_self bound

/-- What a dispatch that goes on does to a client. -/
inductive Advance (s : Session ω) (k : Nat) (d : Dispatch ω) : Session ω → Prop where
  | lookUp (stage : d.stage = .begun) :
      Advance s k d (s.enter k d (.calling (s.client.listeners.targets d.event.name)))
  | finished (stage : d.stage = .calling []) : Advance s k d s
  | pass (observer : ω) {listener : Listener (Reaction ω)}
      {targets : List (Listener (Reaction ω))} (stage : d.stage = .calling (listener :: targets))
      (action : listener.action = .observe observer) :
      Advance s k d (s.enter k d (.calling targets))
  | drain (fault : Fault) {listener : Listener (Reaction ω)}
      {targets : List (Listener (Reaction ω))} (stage : d.stage = .calling (listener :: targets))
      (action : listener.action = .rejectOutstanding fault) :
      Advance s k d
        ((s.correlate { s.client.correlator with pending := [] }).enter k d
          (.rejecting fault s.client.correlator.pending targets))
  | reject (fault : Fault) (request : PendingRequest) {requests : List PendingRequest}
      {targets : List (Listener (Reaction ω))}
      (stage : d.stage = .rejecting fault (request :: requests) targets) :
      Advance s k d
        ((s.correlate (s.client.correlator.deliver request.id (.error fault))).enter k d
          (.rejecting fault requests targets))
  | leave (fault : Fault) {targets : List (Listener (Reaction ω))}
      (stage : d.stage = .rejecting fault [] targets) :
      Advance s k d (s.enter k d (.calling targets))

theorem Advance.of_found {s : Session ω} {k : Nat} {d : Dispatch ω}
    (found : s.dispatches[k]? = some d) : Advance s k d (s.advance k) := by
  unfold Session.advance
  rw [found]
  cases stage : d.stage with
  | begun =>
      simp only [Dispatch.advance, stage]
      exact .lookUp stage
  | calling targets =>
      cases targets with
      | nil =>
          obtain ⟨bound, rfl⟩ := List.getElem?_eq_some_iff.mp found
          simp only [Dispatch.advance, stage, List.set_getElem_self]
          exact .finished stage
      | cons listener targets =>
          cases action : listener.action with
          | observe observer =>
              simp only [Dispatch.advance, stage, action]
              exact .pass observer stage action
          | rejectOutstanding fault =>
              simp only [Dispatch.advance, stage, action]
              exact .drain fault stage action
  | rejecting fault requests targets =>
      cases requests with
      | nil =>
          simp only [Dispatch.advance, stage]
          exact .leave fault stage
      | cons request requests =>
          simp only [Dispatch.advance, stage]
          exact .reject fault request stage

inductive Change : Session ω → Session ω → List Occurrence → Prop where
  | idle {s : Session ω} : Change s s []
  | channel {s : Session ω} {m : Channel.Move} {channel : Channel}
      {seen : List Channel.Occurrence} (step : Channel.Step s.client.channel m channel seen) :
      Change s
        ({ s with client := { s.client with channel } }.announce
          (seen.filterMap Channel.Occurrence.announced?)) []
  | register {s : Session ω} (method : String) (params : Option Value) :
      Change s
        { s.correlate (s.client.correlator.register method).2 with
          calls := s.calls ++ [{ id := s.client.correlator.upcoming, method, params }] } []
  | handOver {s : Session ω} (id : RequestId) {payload : String} {channel : Channel}
      {seen : List Channel.Occurrence} (alive : s.client.channel.state ≠ .closed)
      (step : Channel.Step s.client.channel (.send payload) channel seen) :
      Change s
        { s with
          client := { s.client with channel }
          calls := s.calls.filter (·.id ≠ id) } []
  | refuse {s : Session ω} (id : RequestId) (closed : s.client.channel.state = .closed) :
      Change s
        { s with
          calls := s.calls.map fun call =>
            if call.id = id then { call with refusal := some .connectionClosed } else call } []
  | withdraw {s : Session ω} (call : Call) (fault : Fault) (mem : call ∈ s.calls)
      (refusal : call.refusal = some fault) :
      Change s
        { s.correlate (s.client.correlator.refuse call.id fault).1 with
          calls := s.calls.filter (·.id ≠ call.id) } []
  | receive {s : Session ω} (discarded : UInt64) (requests : List InboundRequest) :
      Change s
        ((s.correlate { s.client.correlator with discarded }).announce
          (requests.map .request)) []
  | settle {s : Session ω} (m : Message) :
      Change s (s.correlate (s.client.correlator.settle m).1) []
  | limit {s : Session ω} (id : RequestId) (deadline : Time) (free : id ∉ s.calling) :
      Change s (s.correlate (s.client.correlator.limit id deadline)) []
  | poll {s : Session ω} (id : RequestId) (now : Time) (free : id ∉ s.calling) :
      Change s (s.correlate (s.client.correlator.poll id now).2)
        (match (s.client.correlator.poll id now).1 with
        | .pending => []
        | .ready outcome => [.collected id outcome])
  | drop {s : Session ω} (id : RequestId) (free : id ∉ s.calling) :
      Change s (s.correlate (s.client.correlator.drop id)) [.dropped id]
  | on {s : Session ω} (event : String) (observer : ω) :
      Change s
        { s with
          client := (s.client.listen event observer).2
          issued := s.issued ++ [(s.client.listen event observer).1] } []
  | off {s : Session ω} (id : ListenerId) (own : id ∈ s.issued) :
      Change s { s with client := (s.client.off id).2 } []
  | lookUp {s : Session ω} (k : Nat) (d : Dispatch ω) (found : s.dispatches[k]? = some d)
      (stage : d.stage = .begun) :
      Change s (s.enter k d (.calling (s.client.listeners.targets d.event.name))) []
  | pass {s : Session ω} (k : Nat) (d : Dispatch ω) (observer : ω)
      (listener : Listener (Reaction ω)) (targets : List (Listener (Reaction ω)))
      (found : s.dispatches[k]? = some d) (stage : d.stage = .calling (listener :: targets))
      (action : listener.action = .observe observer) :
      Change s (s.enter k d (.calling targets)) []
  | drain {s : Session ω} (k : Nat) (d : Dispatch ω) (fault : Fault)
      (listener : Listener (Reaction ω)) (targets : List (Listener (Reaction ω)))
      (found : s.dispatches[k]? = some d) (stage : d.stage = .calling (listener :: targets))
      (action : listener.action = .rejectOutstanding fault) :
      Change s
        ((s.correlate { s.client.correlator with pending := [] }).enter k d
          (.rejecting fault s.client.correlator.pending targets)) []
  | reject {s : Session ω} (k : Nat) (d : Dispatch ω) (fault : Fault) (request : PendingRequest)
      (requests : List PendingRequest) (targets : List (Listener (Reaction ω)))
      (found : s.dispatches[k]? = some d)
      (stage : d.stage = .rejecting fault (request :: requests) targets) :
      Change s
        ((s.correlate (s.client.correlator.deliver request.id (.error fault))).enter k d
          (.rejecting fault requests targets)) []
  | leave {s : Session ω} (k : Nat) (d : Dispatch ω) (fault : Fault)
      (targets : List (Listener (Reaction ω))) (found : s.dispatches[k]? = some d)
      (stage : d.stage = .rejecting fault [] targets) :
      Change s (s.enter k d (.calling targets)) []

theorem refusal?_mem {s : Session ω} {id : RequestId} {fault : Fault}
    (h : s.refusal? id = some fault) :
    ∃ call ∈ s.calls, call.id = id ∧ call.refusal = some fault := by
  obtain ⟨call, mem, found⟩ := List.exists_of_findSome?_eq_some h
  split at found
  · rename_i own
    exact ⟨call, mem, own, found⟩
  · cases found

theorem correlator_handOver (s : Session ω) (id : RequestId) :
    (s.handOver id).client.correlator = s.client.correlator := by
  unfold Session.handOver
  split
  · rfl
  · simp only [Client.send]
    split <;> rename_i sent <;> simp only [Prod.mk.injEq] at sent <;>
      obtain ⟨-, rfl, -⟩ := sent <;> rfl

theorem Change.of_handOver (s : Session ω) (id : RequestId) : Change s (s.handOver id) [] := by
  unfold Session.handOver
  split
  · exact .idle
  · rename_i call found
    let payload := (Correlator.requestMessage id call.method call.params).encode
    have step := Channel.Step.of_send s.client.channel payload
    have verdict := s.client.channel.send_fst payload
    by_cases closed : s.client.channel.state = .closed
    · simp only [Client.send, Channel.send, closed]
      exact .refuse id closed
    · cases sent : s.client.channel.send payload with
      | mk result rest =>
          obtain ⟨channel, readings⟩ := rest
          have accepted : result = .ok () := by simpa [sent, closed] using verdict
          subst accepted
          simp only [Client.send, payload] at sent ⊢
          rw [sent]
          exact .handOver id closed (by simpa [Channel.step, payload, sent] using step)

theorem Change.of_withdraw (s : Session ω) (id : RequestId) : Change s (s.withdraw id) [] := by
  unfold Session.withdraw
  split
  · exact .idle
  · rename_i fault found
    obtain ⟨call, mem, rfl, refusal⟩ := refusal?_mem found
    exact .withdraw call fault mem refusal

theorem Change.of_advance (s : Session ω) (k : Nat) : Change s (s.advance k) [] := by
  cases found : s.dispatches[k]? with
  | none =>
      have same : s.advance k = s := by simp [Session.advance, found]
      rw [same]
      exact .idle
  | some d =>
      have advance := Advance.of_found found
      generalize s.advance k = moved at advance
      cases advance with
      | lookUp stage => exact .lookUp k d found stage
      | finished stage => exact .idle
      | pass observer stage action => exact .pass k d observer _ _ found stage action
      | drain fault stage action => exact .drain k d fault _ _ found stage action
      | reject fault request stage => exact .reject k d fault request _ _ found stage
      | leave fault stage => exact .leave k d fault _ found stage

theorem Change.of_step (s : Session ω) (m : Move ω) : Change s (s.step m).1 (s.step m).2 := by
  cases m with
  | channel m => exact .channel (.of_step s.client.channel m)
  | register method params => exact .register method params
  | handOver id => exact .of_handOver s id
  | withdraw id => exact .of_withdraw s id
  | receive text =>
      simp only [Session.step, Correlator.receive]
      cases Message.decode text with
      | error fault => exact .receive (s.client.correlator.discarded + 1) []
      | ok m =>
          have announced : ((some m).bind Correlator.announcement?).map (·.1) =
              m.inboundRequest?.map .request := by
            simp [Correlator.announcement?, Function.comp_def]
          simp only [announced, Option.toList_map]
          exact .receive s.client.correlator.discarded m.inboundRequest?.toList
  | settle m => exact .settle m
  | limit id deadline =>
      simp only [Session.step]
      split
      · exact .idle
      · rename_i free
        exact .limit id deadline free
  | poll id now =>
      simp only [Session.step]
      split
      · exact .idle
      · rename_i free
        exact .poll id now free
  | drop id =>
      simp only [Session.step]
      split
      · exact .idle
      · rename_i free
        exact .drop id free
  | on event observer => exact .on event observer
  | off id =>
      simp only [Session.step]
      split
      · rename_i own
        exact .off id own
      · exact .idle
  | dispatch k => exact .of_advance s k

end DuplexRpc.Client
