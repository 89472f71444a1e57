import DuplexRpc.Proofs.Client.Condemned

/-!
# Closing leaves no request unsettled

What becomes of the requests of a closed client.  A request whose call is not over is refused.  A
request that was outstanding when the client's own listener emptied the table fails when the
listener comes to it, unless its owner gives it up before.  Both fail because the connection is
closed, and nothing that anybody does afterwards changes that.
-/

namespace DuplexRpc.Client

open DuplexRpc.Correlator DuplexRpc.Json DuplexRpc.Wire

variable {ω : Type} {s moved : Session ω} {seen more : List Occurrence} {r : RequestId}

theorem Change.calling (change : Change s moved seen) (sound : Sound s)
    (closed : s.client.channel.state = .closed) (calling : r ∈ s.calling) :
    collected r seen = [] ∧
      (r ∈ moved.calling ∨ moved.stage? r = some (.refused .connectionClosed)) := by
  cases change with
  | handOver id alive step => exact absurd closed alive
  | register method params =>
      refine ⟨rfl, .inl ?_⟩
      simp only [Session.calling, List.map_append, List.mem_append]
      exact .inl calling
  | refuse id _ =>
      refine ⟨rfl, .inl ?_⟩
      rw [Session.calling, calling_refuse]
      exact calling
  | withdraw call fault mem refusal =>
      refine ⟨rfl, ?_⟩
      by_cases own : r = call.id
      · subst own
        obtain rfl := (sound.refused call mem fault refusal).2
        obtain ⟨t, has⟩ := Option.isSome_iff_exists.mp (sound.ticketed call.id calling)
        simp only [Session.ticket?] at has
        right
        simp [Session.stage?, Session.ticket?, Session.correlate, ticket?_refuse, has]
      · exact .inl (calling_filter.mpr ⟨calling, own⟩)
  | poll id now free =>
      have other : id ≠ r := fun same => free (same ▸ calling)
      refine ⟨?_, .inl calling⟩
      cases (s.client.correlator.poll id now).1 with
      | pending => rfl
      | ready outcome => simp [collected, Occurrence.outcome?, other]
  | drop id free => exact ⟨by simp [collected, Occurrence.outcome?], .inl calling⟩
  | _ => exact ⟨rfl, .inl calling⟩

theorem Change.absent (change : Change s moved seen) (gone : s.stage? r = none) :
    collected r seen = [] ∧ (r ∈ moved.calling ∨ moved.stage? r = none) := by
  cases change.ticket r with
  | kept stage silent => exact ⟨silent, .inr (stage.trans gone)⟩
  | registered before _ calling silent => exact ⟨silent, .inl calling⟩
  | withdrawn call fault mem own refusal stage silent =>
      exact ⟨silent, .inr (by simp [stage, gone])⟩
  | settled outcome before stage cause silent => cases gone.symm.trans before
  | collected before outcome free has gives stage shown => cases gone.symm.trans has
  | dropped free gone shown silent => exact ⟨silent, .inr gone⟩

/-- The ticket has nothing to give but the closing, or gave something before. -/
def Failed (s : Session ω) (r : RequestId) (gave : List CallOutcome) : Prop :=
  s.stage? r = some (.settled (.error .connectionClosed)) ∨
    s.stage? r = some (.refused .connectionClosed) ∨
    (s.stage? r = some .spent ∧ gave ≠ [])

theorem Failed.step {gave : List CallOutcome} (h : Failed s r gave) (sound : Sound s)
    (change : Change s moved seen) :
    ((.dropped r ∈ seen ∧ moved.stage? r = none) ∨ Failed moved r (gave ++ collected r seen)) ∧
      (gave = [] → ∀ outcome ∈ collected r seen, outcome = .error .connectionClosed) := by
  have present : s.stage? r ≠ none := by
    rcases h with stage | stage | ⟨stage, -⟩ <;> simp [stage]
  have settled : s.stage? r ≠ some .waiting := by
    rcases h with stage | stage | ⟨stage, -⟩ <;> simp [stage]
  cases change.ticket r with
  | kept stage silent => exact ⟨.inr (by simpa [Failed, stage, silent] using h), by simp [silent]⟩
  | registered before _ calling silent => exact absurd before present
  | withdrawn call fault mem own refusal stage silent =>
      obtain rfl := (sound.refused call mem fault refusal).2
      obtain ⟨before, has⟩ := Option.ne_none_iff_exists'.mp present
      exact ⟨.inr (.inr (.inl (by simp [stage, has]))), by simp [silent]⟩
  | settled outcome before stage cause silent => exact absurd before settled
  | collected before outcome free has gives stage shown =>
      refine ⟨.inr (.inr (.inr ⟨stage, by simp [shown]⟩)), ?_⟩
      intro nothing given mem
      obtain rfl : given = outcome := by simpa [shown] using mem
      rcases h with held | held | ⟨held, gave⟩
      · cases held.symm.trans has
        exact gives
      · cases held.symm.trans has
        exact gives
      · exact absurd nothing gave
  | dropped free gone shown silent => exact ⟨.inl ⟨shown, gone⟩, by simp [silent]⟩

/-- How a request of a closed client ends, if it did not end before: by the given dispatch, or by
the refusal of its call. -/
structure Fate (via : Option Nat) (r : RequestId) (s : Session ω) (seen : List Occurrence) :
    Prop where
  closed : s.client.channel.state = .closed
  first : ∀ outcome ∈ (collected r seen).head?,
    outcome = .error .connectionClosed ∨ (via.isSome ∧ outcome = .error .timeout)
  ends : r ∈ s.calling ∨ (.dropped r ∈ seen ∧ s.stage? r = none) ∨
    Failed s r (collected r seen) ∨
    ∃ k, via = some k ∧ s.stage? r = some .waiting ∧ Condemned .connectionClosed s k r

theorem Fate.step {via : Option Nat} (h : Fate via r s seen) (sound : Sound s)
    (change : Change s moved more) : Fate via r moved (seen ++ more) := by
  have closed := change.closed h.closed
  have refusals : ∀ call ∈ s.calls, ∀ fault, call.refusal = some fault →
      fault = .connectionClosed := fun call mem fault refusal =>
    (sound.refused call mem fault refusal).2
  have extend (gives : collected r seen = [] → ∀ outcome ∈ collected r more,
        outcome = .error .connectionClosed ∨ (via.isSome ∧ outcome = .error .timeout)) :
      ∀ outcome ∈ (collected r (seen ++ more)).head?,
        outcome = .error .connectionClosed ∨ (via.isSome ∧ outcome = .error .timeout) :=
    first_collected h.first gives
  have silent (nothing : collected r more = []) := extend fun _ => by simp [nothing]
  rcases h.ends with calling | ⟨dropped, gone⟩ | failed | ⟨k, rfl, waiting, condemned⟩
  · obtain ⟨nothing, stays | refused⟩ := change.calling sound h.closed calling
    · exact ⟨closed, silent nothing, .inl stays⟩
    · exact ⟨closed, silent nothing, .inr (.inr (.inl (.inr (.inl refused))))⟩
  · obtain ⟨nothing, calling | gone⟩ := change.absent gone
    · exact ⟨closed, silent nothing, .inl calling⟩
    · exact ⟨closed, silent nothing, .inr (.inl ⟨List.mem_append_left _ dropped, gone⟩)⟩
  · obtain ⟨ends, gives⟩ := failed.step sound change
    refine ⟨closed, extend fun nothing outcome mem => .inl (gives nothing outcome mem), ?_⟩
    · rcases ends with ⟨dropped, gone⟩ | failed
      · exact .inr (.inl ⟨List.mem_append_right _ dropped, gone⟩)
      · exact .inr (.inr (.inl (by simpa using failed)))
  · cases change.ticket r with
    | kept stage nothing =>
        rcases condemned.step change (stage.trans waiting) with ⟨-, calling⟩ | condemned
        · exact ⟨closed, silent nothing, .inl calling⟩
        · exact ⟨closed, silent nothing,
            .inr (.inr (.inr ⟨k, rfl, stage.trans waiting, condemned⟩))⟩
    | registered before _ calling nothing => cases before.symm.trans waiting
    | withdrawn call fault mem own refusal stage nothing =>
        obtain rfl := refusals call mem fault refusal
        refine ⟨closed, silent nothing, .inr (.inr (.inl (.inr (.inl ?_))))⟩
        simp [stage, waiting]
    | settled outcome before stage cause nothing =>
        refine ⟨closed, silent nothing, .inr (.inr (.inl (.inl ?_)))⟩
        -- Only the dispatch that took the request out of the table can settle it.
        rcases cause with ⟨listed, -⟩ | ⟨fault, rfl, j, d, found, mem, requests, targets, rejecting⟩
        · exact absurd listed condemned.unlisted
        · obtain rfl := condemned.fault_eq found mem rejecting
          exact stage
    | collected before outcome free has gives stage shown =>
        cases has.symm.trans waiting
        refine ⟨closed, extend fun _ given mem => .inr ⟨rfl, ?_⟩,
          .inr (.inr (.inl (.inr (.inr ⟨stage, by simp [shown]⟩))))⟩
        obtain rfl : given = outcome := by simpa [shown] using mem
        exact gives
    | dropped free gone shown nothing =>
        exact ⟨closed, silent nothing, .inr (.inl ⟨List.mem_append_right _ shown, gone⟩)⟩

theorem run_fate {via : Option Nat} (sound : Sound s) (fate : Fate via r s seen)
    (moves : List (Move ω)) : Fate via r (s.run moves).1 (seen ++ (s.run moves).2) := by
  have kept : Sound (s.run moves).1 ∧ Fate via r (s.run moves).1 (seen ++ (s.run moves).2) :=
    replay_keeps (fun s more => Sound s ∧ Fate via r s (seen ++ more))
      (fun s more m _ ⟨sound, fate⟩ => by
        rw [← List.append_assoc]
        exact ⟨sound.step (.of_step s m), fate.step sound (.of_step s m)⟩)
      ⟨sound, by rw [List.append_nil]; exact fate⟩
  exact kept.2

theorem Fate.run {via : Option Nat} (h : Fate via r s []) (sound : Sound s)
    (moves : List (Move ω)) : Fate via r (s.run moves).1 (s.run moves).2 :=
  run_fate sound h moves

theorem fate_drain {k : Nat} {d : Dispatch ω} {listener : Listener (Reaction ω)}
    {targets : List (Listener (Reaction ω))} {fault : Fault} (sound : Sound s)
    (found : s.dispatches[k]? = some d) (closes : d.closes)
    (stage : d.stage = .calling (listener :: targets))
    (action : listener.action = .rejectOutstanding fault) (listed : r ∈ s.outstanding)
    (waiting : s.stage? r = some .waiting) (alone : ∀ d ∈ s.dispatches, r ∉ d.rejectees) :
    Fate (some k) r (s.step (.dispatch k)).1 [] := by
  have mem : d ∈ s.dispatches := List.mem_of_getElem? found
  obtain rfl : fault = .connectionClosed :=
    sound.listening.called d mem closes listener (by simp [Dispatch.targets, stage]) fault action
  have condemned : Condemned .connectionClosed (s.step (.dispatch k)).1 k r :=
    .of_drain found stage action listed alone
  refine ⟨(Change.of_step s (.dispatch k)).closed (sound.announced.closed mem closes), by simp,
    .inr (.inr (.inr ⟨k, rfl, ?_, condemned⟩))⟩
  rw [step_drain found stage action]
  exact waiting

/-- The ways a request ends that nobody has to settle any more: its call is still to be refused,
its owner dropped it, or it failed. -/
def Ended (s : Session ω) (r : RequestId) (seen : List Occurrence) : Prop :=
  r ∈ s.calling ∨ (.dropped r ∈ seen ∧ s.stage? r = none) ∨ Failed s r (collected r seen)

theorem Fate.ended {k : Nat} {d : Dispatch ω} (h : Fate (some k) r s seen)
    (found : s.dispatches[k]? = some d) (finished : d.finished) : Ended s r seen := by
  rcases h.ends with calling | dropped | failed | ⟨j, via, -, condemned⟩
  · exact .inl calling
  · exact .inr (.inl dropped)
  · exact .inr (.inr failed)
  · obtain rfl := Option.some.inj via
    exact absurd finished (condemned.unfinished found)

theorem Ended.fate (h : Ended s r seen) (closed : s.client.channel.state = .closed)
    (nothing : collected r seen = []) : Fate none r s seen where
  closed := closed
  first := by simp [nothing]
  ends := by
    rcases h with calling | dropped | failed
    · exact .inl calling
    · exact .inr (.inl dropped)
    · exact .inr (.inr (.inl failed))

/-! ## What a closing leaves -/

theorem Dispatch.stage_of_finished {d : Dispatch ω} (finished : d.finished) :
    d.stage = .calling [] := by
  unfold Dispatch.finished at finished
  split at finished
  · assumption
  · cases finished

/-- The closing is announced, or about to be, once the strategy has been reported to give up. -/
theorem Announced.balance (h : Announced s) (closed : s.client.channel.state = .closed) :
    s.closings = 1 ∨
      s.closings = 0 ∧ ∃ attempts, s.client.channel.task = .reportingExhaustion attempts := by
  have balance : s.closings + s.client.channel.task.owing = 1 := by
    have announced : s.closings + s.client.channel.task.owing = s.client.channel.state.due := h
    simpa [Channel.Lifecycle.due, closed] using announced
  cases task : s.client.channel.task with
  | reportingExhaustion attempts =>
      exact .inr ⟨by simpa [task, Channel.Task.owing] using balance, attempts, rfl⟩
  | _ => exact .inl (by simpa [task, Channel.Task.owing] using balance)

theorem Sound.emptied (sound : Sound s) (room : s.Roomy) {d : Dispatch ω} (mem : d ∈ s.dispatches)
    (closes : d.closes) (finished : d.finished) : Emptied s := by
  have stage := Dispatch.stage_of_finished finished
  rcases sound.approached room d mem closes with begun | ahead | emptied
  · cases begun.symm.trans stage
  · simp [Dispatch.targets, stage] at ahead
  · exact emptied

theorem Emptied.pending_eq_nil (h : Emptied s) (idle : s.calls = []) :
    s.client.correlator.pending = [] := by
  have none : s.outstanding = [] := by
    rw [List.eq_nil_iff_forall_not_mem]
    intro id listed
    simpa [Session.calling, idle] using h id listed
  exact List.map_eq_nil_iff.mp none

theorem Emptied.waiting (h : Emptied s) (attended : Attended s)
    (waiting : s.stage? r = some .waiting) :
    r ∈ s.calling ∨ ∃ d ∈ s.dispatches, r ∈ d.rejectees := by
  obtain ⟨t, has, waiting⟩ := Option.map_eq_some_iff.mp waiting
  exact (attended r t has waiting).imp_left (h r)

/-- What a request without a dispatch of its own gives, it gives because of the closing. -/
theorem Fate.first_closed (h : Fate none r s seen) :
    ∀ outcome ∈ (collected r seen).head?, outcome = .error .connectionClosed := by
  intro outcome head
  rcases h.first outcome head with closing | ⟨via, -⟩
  · exact closing
  · cases via

theorem Fate.ended_of_none (h : Fate none r s seen) : Ended s r seen := by
  rcases h.ends with calling | dropped | failed | ⟨k, via, -, -⟩
  · exact .inl calling
  · exact .inr (.inl dropped)
  · exact .inr (.inr failed)
  · cases via

/-- A call that is not over when the channel is closed ends refused. -/
theorem Sound.calling_ends (sound : Sound s) (closed : s.client.channel.state = .closed)
    (calling : r ∈ s.calling) (after : List (Move ω)) :
    (∀ outcome ∈ (collected r (s.run after).2).head?, outcome = .error .connectionClosed) ∧
      Ended (s.run after).1 r (s.run after).2 := by
  have refused : Fate none r s [] := ⟨closed, by simp, .inl calling⟩
  have fate := refused.run sound after
  exact ⟨fate.first_closed, fate.ended_of_none⟩

/-- Once a request has ended, its owner hears of nothing but the closing. -/
theorem Ended.later (h : Ended s r seen) (sound : Sound s)
    (closed : s.client.channel.state = .closed) (nothing : collected r seen = [])
    (later : List (Move ω)) :
    ∀ outcome ∈ (collected r (s.run later).2).head?, outcome = .error .connectionClosed := by
  have first := (run_fate sound (h.fate closed nothing) later).first_closed
  rwa [collected_append, nothing, List.nil_append] at first

/-- A request that was outstanding when the client's own listener emptied the table has ended when
the dispatch has finished. -/
theorem Fate.outstanding_ends {k : Nat} (h : Fate (some k) r s []) (sound : Sound s)
    (after : List (Move ω)) :
    let ended := (s.run after).1
    let seen := (s.run after).2
    (∀ outcome ∈ (collected r seen).head?,
      outcome = .error .connectionClosed ∨ outcome = .error .timeout) ∧
      ∀ d, ended.dispatches[k]? = some d → d.finished →
        Ended ended r seen ∧
        (collected r seen = [] → ∀ later, ∀ outcome ∈ (collected r (ended.run later).2).head?,
          outcome = .error .connectionClosed) := by
  intro ended seen
  have fate : Fate (some k) r ended seen := h.run sound after
  refine ⟨fun outcome head => (fate.first outcome head).imp_right And.right, ?_⟩
  intro d found finished
  have done : Ended ended r seen := fate.ended found finished
  exact ⟨done, fun nothing => done.later (run_sound sound after) fate.closed nothing⟩

/-- Closing a client leaves no request unsettled.  It is announced; when a dispatch of it has
finished, only calls that are not over have a request in the table, and no ticket waits but theirs
and those that another dispatch is about to reject, unless the ids of listeners came round to the
client's own.  The calls end refused.  A request that was outstanding when the client's own
listener emptied the table has ended when the dispatch has finished.  Both give their owners the
closing first; a request that expired after the table was emptied and before it was rejected gives
the timeout, but none does once the dispatch has finished.  As long as ids do not come round, every
request in the table is outstanding in this sense. -/
theorem closing_settles (policy : PendingPolicy) (requestTimeout : Option Time)
    (before after : List (Move ω)) :
    let s := ((Session.launch policy requestTimeout).run before).1
    (s.client.channel.state = .closed →
      s.closings = 1 ∨
      s.closings = 0 ∧ ∃ attempts, s.client.channel.task = .reportingExhaustion attempts) ∧
    (s.Roomy → ∀ d ∈ s.dispatches, d.closes → d.finished →
      (∀ id ∈ s.outstanding, id ∈ s.calling) ∧
      (s.calls = [] → s.client.correlator.pending = []) ∧
      (∀ r, s.stage? r = some .waiting →
        r ∈ s.calling ∨ ∃ d ∈ s.dispatches, r ∈ d.rejectees)) ∧
    (s.client.channel.state = .closed → ∀ r ∈ s.calling,
      let ended := (s.run after).1
      let seen := (s.run after).2
      (∀ outcome ∈ (collected r seen).head?, outcome = .error .connectionClosed) ∧
        Ended ended r seen) ∧
    (∀ k d listener targets fault r, s.dispatches[k]? = some d → d.closes →
      d.stage = .calling (listener :: targets) → listener.action = .rejectOutstanding fault →
      r ∈ s.outstanding → s.stage? r = some .waiting → (∀ d ∈ s.dispatches, r ∉ d.rejectees) →
      let ended := ((s.step (.dispatch k)).1.run after).1
      let seen := ((s.step (.dispatch k)).1.run after).2
      (∀ outcome ∈ (collected r seen).head?,
        outcome = .error .connectionClosed ∨ outcome = .error .timeout) ∧
        ∀ d, ended.dispatches[k]? = some d → d.finished →
          Ended ended r seen ∧
          (collected r seen = [] → ∀ later, ∀ outcome ∈ (collected r (ended.run later).2).head?,
            outcome = .error .connectionClosed)) ∧
    (registrations before < 2 ^ 63 → ∀ r ∈ s.outstanding,
      s.stage? r = some .waiting ∧ ∀ d ∈ s.dispatches, r ∉ d.rejectees) := by
  intro s
  have sound : Sound s := run_sound (sound_launch policy requestTimeout) before
  refine ⟨sound.announced.balance, ?emptied, ?calls, ?outstanding, ?tidy⟩
  case emptied =>
      intro room d mem closes finished
      have emptied : Emptied s := sound.emptied room mem closes finished
      exact ⟨emptied, emptied.pending_eq_nil, fun r => emptied.waiting sound.attended⟩
  case calls => exact fun closed r calling => sound.calling_ends closed calling after
  case outstanding =>
      intro k d listener targets fault r found closes stage action listed waiting alone
      have drained : Sound (s.step (.dispatch k)).1 := sound.step (.of_step s (.dispatch k))
      have fate := fate_drain sound found closes stage action listed waiting alone
      exact fate.outstanding_ends drained after
  case tidy =>
      intro few r listed
      have tidy : Tidy s :=
        run_tidy (tidy_launch policy requestTimeout) (room_launch policy requestTimeout few)
      exact tidy.stands listed

/-- A client that is closed while a call is between its registration and its sending, with another
request outstanding. -/
theorem closing_between_register_and_send :
    let before : List (Move Unit) := [.register "first" none, .handOver ⟨1, by decide⟩,
      .register "second" none, .channel .close, .dispatch 0]
    let after : List (Move Unit) := [.dispatch 0, .dispatch 0, .dispatch 0,
      .handOver ⟨2, by decide⟩, .withdraw ⟨2, by decide⟩, .poll ⟨2, by decide⟩ 0]
    let s := ((Session.launch .keepAcrossReconnect none).run before).1
    let ended := ((s.step (.dispatch 0)).1.run after).1
    s.client.channel.state = .closed ∧ s.calling = [⟨2, by decide⟩] ∧
      s.outstanding = [⟨1, by decide⟩, ⟨2, by decide⟩] ∧
      Ended (s.run after).1 ⟨2, by decide⟩ (s.run after).2 ∧
      Ended ended ⟨1, by decide⟩ ((s.step (.dispatch 0)).1.run after).2 ∧
      ended.calls = [] ∧ ended.client.correlator.pending = [] := by
  intro before after s ended
  have closed : s.client.channel.state = .closed := rfl
  have calling : s.calling = [⟨2, by decide⟩] := rfl
  have outstanding : s.outstanding = [⟨1, by decide⟩, ⟨2, by decide⟩] := rfl
  have dispatches : s.dispatches = [{ event := .close, stage := .calling [closer] }] := rfl
  have waiting : s.stage? ⟨1, by decide⟩ = some .waiting := rfl
  have done : ended.dispatches[0]?.any (fun d => d.closes && d.finished) = true := by
    decide +kernel
  obtain ⟨d, found, both⟩ := (Option.any_eq_true _ _).mp done
  obtain ⟨closes, finished⟩ : d.closes = true ∧ d.finished = true := by simpa using both
  have idle : ended.calls = [] := List.isEmpty_iff.mp (by decide +kernel)
  have whole : ((Session.launch .keepAcrossReconnect none).run
      (before ++ .dispatch 0 :: after)).1 = ended := Session.run_move _ before _ after
  have roomy : ended.Roomy := by decide +kernel
  have settles := closing_settles (ω := Unit) .keepAcrossReconnect none before after
  have leaves := closing_settles (ω := Unit) .keepAcrossReconnect none
    (before ++ .dispatch 0 :: after) []
  rw [whole] at leaves
  generalize reached : ((Session.launch .keepAcrossReconnect none).run before).1 = t at settles
  obtain rfl : s = t := reached
  clear_value s
  obtain ⟨-, -, calls, drained, -⟩ := settles
  have refused := calls closed ⟨2, by decide⟩ (by rw [calling]; simp)
  have rejected := drained 0 _ closer [] .connectionClosed ⟨1, by decide⟩
    (by rw [dispatches]; rfl) rfl rfl rfl (by rw [outstanding]; simp) waiting
    (by rw [dispatches]; simp [Dispatch.rejectees])
  have settled := rejected.2 d found finished
  have emptied := leaves.2.1 roomy d (List.mem_of_getElem? found) closes finished
  exact ⟨closed, calling, outstanding, refused.2, settled.1, idle, emptied.2.1 idle⟩

end DuplexRpc.Client
