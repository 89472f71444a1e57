import DuplexRpc.Proofs.Client.Losing

/-!
# What the loss of a link means to requests

A client that keeps its requests across reconnects lets no lost link touch them.  A client that
rejects them does so when the loss is announced, and nothing else that a connection goes through
touches them either.  An owner hears that a link was lost only if a dispatch of a loss came to the
client's own listener while the request was outstanding.
-/

namespace DuplexRpc.Client

open DuplexRpc.Correlator DuplexRpc.Json DuplexRpc.Wire

variable {ω : Type} {policy : PendingPolicy} {s : Session ω} {r : RequestId}

/-! ## What touches no request -/

/-- What a connection and its callers do, and the dispatches of those events that the client has
no listener of its own for. -/
def Calm (policy : PendingPolicy) (s : Session ω) : Move ω → Prop
  | .channel _ | .handOver _ => True
  | .dispatch k => ∀ d, s.dispatches[k]? = some d → own? (ω := ω) policy d.event = none
  | _ => False

theorem Advance.calm {k : Nat} {d : Dispatch ω} {moved : Session ω}
    (advance : Advance s k d moved) (ordered : Ordered policy s)
    (found : s.dispatches[k]? = some d) (calm : own? (ω := ω) policy d.event = none) :
    moved.client.correlator = s.client.correlator := by
  cases advance with
  | lookUp | finished | pass | leave => rfl
  | drain fault stage action =>
      have own := (ordered.of_own found stage action).1
      cases calm.symm.trans own
  | reject fault request stage =>
      have own := (ordered.of_rejecting found stage).1
      rw [calm] at own
      cases own

theorem correlator_advance (ordered : Ordered policy s) (k : Nat)
    (calm : ∀ d, s.dispatches[k]? = some d → own? (ω := ω) policy d.event = none) :
    (s.advance k).client.correlator = s.client.correlator := by
  cases found : s.dispatches[k]? with
  | none => simp [Session.advance, found]
  | some d => exact (Advance.of_found found).calm ordered found (calm d found)

theorem step_calm {m : Move ω} (ordered : Ordered policy s) (calm : Calm policy s m) :
    (s.step m).1.client.correlator = s.client.correlator ∧ (s.step m).2 = [] := by
  cases m with
  | channel m => exact ⟨rfl, rfl⟩
  | handOver id => exact ⟨correlator_handOver s id, rfl⟩
  | dispatch k => exact ⟨correlator_advance ordered k calm, rfl⟩
  | _ => cases calm

theorem run_calm {moves : List (Move ω)} (ordered : Ordered policy s)
    (calm : ∀ first m rest, moves = first ++ m :: rest → Calm policy (s.run first).1 m) :
    (s.run moves).1.client.correlator = s.client.correlator ∧ (s.run moves).2 = [] := by
  induction moves generalizing s with
  | nil => exact ⟨rfl, rfl⟩
  | cons m moves ih =>
      have here := step_calm ordered (calm [] m moves rfl)
      have later := ih (ordered.step (.of_step s m)) fun first next rest split =>
        calm (m :: first) next rest (congrArg (m :: ·) split)
      simp only [Session.run, replay_cons] at later ⊢
      rw [later.1, later.2, here.1, here.2]
      exact ⟨rfl, rfl⟩

/-- What happens without anybody calling, answering or giving up a request. -/
def Move.connects : Move ω → Bool
  | .channel _ | .handOver _ | .dispatch _ => true
  | _ => false

theorem run_closed (closed : s.client.channel.state = .closed) (moves : List (Move ω)) :
    (s.run moves).1.client.channel.state = .closed :=
  replay_keeps (fun (s : Session ω) _ => s.client.channel.state = .closed)
    (fun s _ m _ closed => (Change.of_step s m).closed closed) closed

theorem calm_kept {m : Move ω} (sound : Sound s) (alive : s.client.channel.state ≠ .closed)
    (connects : m.connects) : Calm .keepAcrossReconnect s m := by
  cases m with
  | channel | handOver => trivial
  | dispatch k =>
      intro d found
      cases own : own? (ω := ω) .keepAcrossReconnect d.event with
      | none => rfl
      | some listener =>
          rcases own?_eq_some own with ⟨event, -⟩ | ⟨policy, -⟩
          · have closes : d.closes := by simp [Dispatch.closes, event]
            exact absurd (sound.announced.closed (List.mem_of_getElem? found) closes) alive
          · cases policy
  | _ => cases connects

/-! ## The policy -/

theorem run_keeps {moves : List (Move ω)} (sound : Sound s)
    (ordered : Ordered .keepAcrossReconnect s) (connects : ∀ m ∈ moves, m.connects)
    (alive : (s.run moves).1.client.channel.state ≠ .closed) :
    (s.run moves).1.client.correlator = s.client.correlator ∧ (s.run moves).2 = [] := by
  apply run_calm ordered
  rintro first m rest rfl
  refine calm_kept (run_sound sound first) (fun closed => alive ?_) (connects m (by simp))
  rw [Session.run, replay_append]
  exact run_closed closed (m :: rest)

theorem lost_failAll {fault : Fault} (listed : r ∈ s.outstanding)
    (waiting : s.stage? r = some .waiting) :
    ({ s with client := s.client.failAll fault } : Session ω).stage? r =
      some (.settled (.error fault)) := by
  obtain ⟨t, has, stage⟩ := Option.map_eq_some_iff.mp waiting
  have listed : r ∈ s.client.correlator.outstanding := listed
  have has : s.client.correlator.ticket? r = some t := has
  simp [Session.stage?, Session.ticket?, Client.failAll, ticket?_failAll, listed, has,
    Ticket.settle, stage]

theorem fallen_drain {k : Nat} (reaches : Reaches s k) (listed : r ∈ s.outstanding)
    (waiting : s.stage? r = some .waiting) (alone : ∀ d ∈ s.dispatches, r ∉ d.rejectees) :
    Fallen (some k) (r ∈ s.calling) r (s.step (.dispatch k)).1 [] := by
  obtain ⟨d, targets, found, -, stage⟩ := reaches
  have condemned : Condemned .disconnected (s.step (.dispatch k)).1 k r :=
    .of_drain found stage rfl listed alone
  have rejects : (rejecter : Listener (Reaction ω)).action = .rejectOutstanding .disconnected := rfl
  have drained := step_drain found stage rejects
  refine ⟨by simp, fun calling => ?_, .inr (.inr (.inr (.inr ⟨k, rfl, ?_, condemned⟩)))⟩
  · rw [drained] at calling
    exact calling
  · rw [drained]
    exact waiting

theorem spares_drain {k : Nat} (ordered : Ordered policy s) (reaches : Reaches s k)
    (unlisted : r ∉ s.outstanding) :
    ∃ d, (s.step (.dispatch k)).1.dispatches[k]? = some d ∧ Spares d r := by
  obtain ⟨d, targets, found, -, stage⟩ := reaches
  have rejects : (rejecter : Listener (Reaction ω)).action = .rejectOutstanding .disconnected := rfl
  rw [step_drain found stage rejects]
  exact ⟨_, enter_getElem? found, by simp, unlisted, (ordered.of_own found stage rejects).2⟩

theorem Fallen.unsettled {k : Nat} {d : Dispatch ω} {unfinished : Prop} {seen : List Occurrence}
    (h : Fallen (some k) unfinished r s seen) (found : s.dispatches[k]? = some d)
    (finished : d.finished) (nothing : collected r seen = []) :
    (.dropped r ∈ seen ∧ s.stage? r = none) ∨ Lost s r ∨
      (unfinished ∧ s.stage? r = some (.refused .connectionClosed)) := by
  rcases h.ends with dropped | lost | refused | ⟨-, gave⟩ | ⟨j, via, -, condemned⟩
  · exact .inl dropped
  · exact .inr (.inl lost)
  · exact .inr (.inr refused)
  · exact absurd nothing gave
  · obtain rfl := Option.some.inj via
    exact absurd finished (condemned.unfinished found)

theorem Lost.fallen (lost : Lost s r) : Fallen none (r ∈ s.calling) r s [] :=
  ⟨by simp, id, .inr (.inl lost)⟩

theorem Lost.poll (lost : Lost s r) (free : r ∉ s.calling) (now : Time) :
    (s.step (.poll r now)).2 = [.collected r (.error .disconnected)] := by
  obtain ⟨t, has, stage⟩ := Option.map_eq_some_iff.mp lost
  have has : s.client.correlator.ticket? r = some t := has
  simp [Session.step, free, Correlator.poll, has, stage]

theorem registrations_append (moves later : List (Move ω)) :
    registrations (moves ++ later) = registrations moves + registrations later :=
  List.countP_append

theorem run_room {moves later : List (Move ω)}
    (room : s.client.correlator.Room (registrations (moves ++ later) + 1)) :
    (s.run moves).1.client.correlator.Room (registrations later + 1) := by
  induction moves generalizing s with
  | nil => exact room
  | cons m moves ih => exact ih (room_step room).1

/-- A dispatch of a loss that nobody disturbs rejects what is outstanding when it begins. -/
theorem Ordered.rejects {k : Nat} {d : Dispatch ω} (ordered : Ordered .rejectOnDisconnect s)
    (room : s.Roomy) (found : s.dispatches[k]? = some d) (event : d.event = .disconnect)
    (begun : d.stage = .begun) :
    let failed : Session ω := { s with client := s.client.failAll .disconnected }
    (∃ observers, Observes observers ∧
      (s.step (.dispatch k)).1 = s.enter k d (.calling (rejecter :: observers)) ∧
      (s.run (.replicate (1 + (1 + s.client.correlator.pending.length + 1)) (.dispatch k))).1 =
        failed.enter k d (.calling observers)) ∧
    failed.outstanding = [] ∧
    (∀ r ∈ s.outstanding, s.stage? r = some .waiting → Lost failed r) ∧
    ∀ r ∉ s.outstanding, failed.ticket? r = s.ticket? r := by
  intro failed
  obtain ⟨observers, observe, looked⟩ := step_loss ordered room found event begun
  refine ⟨⟨observers, observe, looked, run_loss found looked⟩, ?_, ?_, ?_⟩
  · exact outstanding_failAll s.client.correlator .disconnected
  · exact fun r listed waiting => lost_failAll listed waiting
  · intro r unlisted
    have unlisted : r ∉ s.client.correlator.outstanding := unlisted
    simp [failed, Session.ticket?, Client.failAll, ticket?_failAll, unlisted]

/-- A request that is outstanding when the dispatch of a loss comes to the client's own listener is
rejected, whatever happens between the steps of the dispatch. -/
theorem Sound.struck {k : Nat} (sound : Sound s) (reaches : Reaches s k)
    (listed : r ∈ s.outstanding) (waiting : s.stage? r = some .waiting)
    (alone : ∀ d ∈ s.dispatches, r ∉ d.rejectees) {after : List (Move ω)}
    (once : Unrepeated (s.step (.dispatch k)).1 r after) :
    let ended := ((s.step (.dispatch k)).1.run after).1
    let seen := ((s.step (.dispatch k)).1.run after).2
    (∀ outcome ∈ (collected r seen).head?,
      outcome = .error .disconnected ∨ outcome = .error .timeout ∨
        (r ∈ s.calling ∧ outcome = .error .connectionClosed)) ∧
      ∀ d, ended.dispatches[k]? = some d → d.finished → collected r seen = [] →
        (.dropped r ∈ seen ∧ ended.stage? r = none) ∨ Lost ended r ∨
          (r ∈ s.calling ∧ ended.stage? r = some (.refused .connectionClosed)) := by
  intro ended seen
  have fallen : Fallen (some k) (r ∈ s.calling) r ended seen :=
    (fallen_drain reaches listed waiting alone).run (sound.step (.of_step s (.dispatch k))) once
  refine ⟨fun outcome head => ?_, fun d found finished nothing =>
    fallen.unsettled found finished nothing⟩
  exact (fallen.first outcome head).imp_right (Or.imp_left And.right)

/-- The dispatch leaves a request alone that was not outstanding then. -/
theorem Ordered.spares {k : Nat} (ordered : Ordered policy s) (reaches : Reaches s k)
    (unlisted : r ∉ s.outstanding) (after : List (Move ω)) :
    let ended := ((s.step (.dispatch k)).1.run after).1
    (ended.step (.dispatch k)).1.ticket? r = ended.ticket? r ∧
      (ended.step (.dispatch k)).1.outstanding = ended.outstanding := by
  obtain ⟨d, found, spares⟩ := spares_drain ordered reaches unlisted
  obtain ⟨next, found, spares⟩ := run_spares spares found after
  exact spares.untouched found

theorem Lost.first (lost : Lost s r) (sound : Sound s) {after : List (Move ω)}
    (once : Unrepeated s r after) :
    ∀ outcome ∈ (collected r (s.run after).2).head?,
      outcome = .error .disconnected ∨
        (r ∈ s.calling ∧ outcome = .error .connectionClosed) := by
  intro outcome head
  have fallen := lost.fallen.run sound once
  rcases fallen.first outcome head with link | ⟨via, -⟩ | refused
  · exact .inl link
  · cases via
  · exact .inr refused

theorem struck_of_collected {requestTimeout : Option Time} {moves : List (Move ω)}
    (shown : .error .disconnected ∈
      collected r ((Session.launch policy requestTimeout : Session ω).run moves).2) :
    policy = .rejectOnDisconnect ∧
      Struck (Session.launch policy requestTimeout : Session ω) r moves := by
  rcases run_marked (sound_launch policy requestTimeout)
    (ordered_launch policy requestTimeout) (.inr shown) with marked | struck
  · exact absurd marked (unmarked_launch policy requestTimeout)
  · exact struck

/-- A request that was registered does not come up again while ids last, and a dispatch takes no
id. -/
theorem Tidy.unrepeated (tidy : Tidy s) {after : List (Move ω)}
    (room : s.client.correlator.Room (registrations after + 1)) (has : (s.ticket? r).isSome) :
    Unrepeated s r after ∧ ∀ k, Unrepeated (s.step (.dispatch k)).1 r after := by
  have known := tidy.issued r has
  refine ⟨unrepeated_of_room known room, fun k => ?_⟩
  have kept : (s.step (.dispatch k)).1.client.correlator.nextId =
      s.client.correlator.nextId := nextId_kept rfl
  apply unrepeated_of_room
  · rw [kept]
    exact known
  · constructor <;> rw [kept]
    · exact room.begun
    · exact room.bounded

/-- What the loss of a link means to outstanding requests.  Connecting, failing to connect, waiting
and buffering leave every request alone, and so does every loss if the client keeps its requests.
A client that rejects them calls its own listener before any observer, unless the ids of listeners
came round to its own; undisturbed, the dispatch rejects exactly what is outstanding when it
begins.  If others act between its steps, it rejects what was outstanding when it came to the
listener, and touches nothing that was not: an observer's own call is none of its business.  An
owner whose request was rejected hears of the loss, unless the request expired or its call was
refused in between.  Nobody else ever hears of it.  As long as ids do not come round, every request
in the table is waited for and is about to be rejected by nobody else. -/
theorem disconnect_rejects_outstanding (policy : PendingPolicy) (requestTimeout : Option Time)
    (before after : List (Move ω)) :
    let launched : Session ω := Session.launch policy requestTimeout
    let s := (launched.run before).1
    ((∀ first m rest, after = first ++ m :: rest → Calm policy (s.run first).1 m) →
      (s.run after).1.client.correlator = s.client.correlator ∧ (s.run after).2 = []) ∧
    (policy = .keepAcrossReconnect → (∀ m ∈ after, m.connects) →
      (s.run after).1.client.channel.state ≠ .closed →
      (s.run after).1.client.correlator = s.client.correlator ∧ (s.run after).2 = []) ∧
    (policy = .rejectOnDisconnect → s.Roomy → ∀ k d, s.dispatches[k]? = some d →
      d.event = .disconnect → d.stage = .begun →
      let failed : Session ω := { s with client := s.client.failAll .disconnected }
      (∃ observers, Observes observers ∧
        (s.step (.dispatch k)).1 = s.enter k d (.calling (rejecter :: observers)) ∧
        (s.run (.replicate (1 + (1 + s.client.correlator.pending.length + 1)) (.dispatch k))).1 =
          failed.enter k d (.calling observers)) ∧
      failed.outstanding = [] ∧
      (∀ r ∈ s.outstanding, s.stage? r = some .waiting → Lost failed r) ∧
      ∀ r ∉ s.outstanding, failed.ticket? r = s.ticket? r) ∧
    (∀ k, Reaches s k →
      let drained := (s.step (.dispatch k)).1
      let ended := (drained.run after).1
      let seen := (drained.run after).2
      (∀ r ∈ s.outstanding, s.stage? r = some .waiting → (∀ d ∈ s.dispatches, r ∉ d.rejectees) →
        Unrepeated drained r after →
        (∀ outcome ∈ (collected r seen).head?,
          outcome = .error .disconnected ∨ outcome = .error .timeout ∨
            (r ∈ s.calling ∧ outcome = .error .connectionClosed)) ∧
        ∀ d, ended.dispatches[k]? = some d → d.finished → collected r seen = [] →
          (.dropped r ∈ seen ∧ ended.stage? r = none) ∨ Lost ended r ∨
            (r ∈ s.calling ∧ ended.stage? r = some (.refused .connectionClosed))) ∧
      ∀ r ∉ s.outstanding, (ended.step (.dispatch k)).1.ticket? r = ended.ticket? r ∧
        (ended.step (.dispatch k)).1.outstanding = ended.outstanding) ∧
    (∀ r, Lost s r →
      (Unrepeated s r after → ∀ outcome ∈ (collected r (s.run after).2).head?,
        outcome = .error .disconnected ∨
          (r ∈ s.calling ∧ outcome = .error .connectionClosed)) ∧
      (r ∉ s.calling → ∀ now,
        (s.step (.poll r now)).2 = [.collected r (.error .disconnected)])) ∧
    (∀ r, .error .disconnected ∈ collected r (launched.run before).2 →
      policy = .rejectOnDisconnect ∧ Struck launched r before) ∧
    (registrations before + registrations after < 2 ^ 63 →
      (∀ r ∈ s.outstanding, s.stage? r = some .waiting ∧ ∀ d ∈ s.dispatches, r ∉ d.rejectees) ∧
      ∀ r, (s.ticket? r).isSome →
        Unrepeated s r after ∧ ∀ k, Unrepeated (s.step (.dispatch k)).1 r after) := by
  intro launched s
  have sound : Sound s := run_sound (sound_launch policy requestTimeout) before
  have ordered : Ordered policy s := run_ordered (ordered_launch policy requestTimeout) before
  refine ⟨run_calm ordered, ?keeps, ?undisturbed, ?disturbed, ?hears,
    fun r shown => struck_of_collected shown, ?tidy⟩
  case keeps =>
      rintro rfl connects alive
      exact run_keeps sound ordered connects alive
  case undisturbed =>
      rintro rfl room k d found event begun
      exact ordered.rejects room found event begun
  case disturbed =>
      intro k reaches drained ended seen
      exact ⟨fun r listed waiting alone once => sound.struck reaches listed waiting alone once,
        fun r unlisted => ordered.spares reaches unlisted after⟩
  case hears => exact fun r lost => ⟨fun once => lost.first sound once, lost.poll⟩
  case tidy =>
      intro few
      have room : launched.client.correlator.Room (registrations (before ++ after) + 1) :=
        room_launch policy requestTimeout (by rwa [registrations_append])
      have tidy : Tidy s := run_tidy (tidy_launch policy requestTimeout)
        (room_launch policy requestTimeout (by omega))
      exact ⟨fun r listed => tidy.stands listed, fun r has => tidy.unrepeated (run_room room) has⟩

theorem one_ne : (1 : UInt64) ≠ 0 := by decide

theorem two_ne : (2 : UInt64) ≠ 0 := by decide

def firstId : RequestId := ⟨1, one_ne⟩

def secondId : RequestId := ⟨2, two_ne⟩

/-- A link is lost with a request outstanding. -/
def untilLoss : List (Move Unit) :=
  [.channel .proceed, .channel (.answer .linked), .channel (.answer .done),
    .channel (.answer .done), .on "disconnect" (), .register "first" none,
    .handOver firstId, .channel .proceed, .channel (.answer .wrote),
    .channel (.answer .ended)]

/-- The client's own listener rejects the request.  Then an observer calls again. -/
def onLoss : List (Move Unit) :=
  [.dispatch 1, .dispatch 1, .register "second" none, .handOver secondId, .dispatch 1,
    .poll firstId 0]

theorem disconnect_rejects_outstanding_observed :
    let lost := ((Session.launch .rejectOnDisconnect none).run untilLoss).1
    let s := ((Session.launch .rejectOnDisconnect none).run (untilLoss ++ [.dispatch 1])).1
    let drained := (s.step (.dispatch 1)).1
    let ended := (drained.run onLoss).1
    let seen := (drained.run onLoss).2
    Lost { lost with client := lost.client.failAll .disconnected } firstId ∧
      s.outstanding = [firstId] ∧ Reaches s 1 ∧
      (∀ outcome ∈ (collected firstId seen).head?,
        outcome = .error .disconnected ∨ outcome = .error .timeout ∨
          (firstId ∈ s.calling ∧ outcome = .error .connectionClosed)) ∧
      collected firstId seen = [.error .disconnected] ∧
      (ended.step (.dispatch 1)).1.ticket? secondId = ended.ticket? secondId ∧
      ended.outstanding = [secondId] := by
  intro lost s drained ended seen
  have begun : lost.dispatches[1]? = some { event := .disconnect } := rfl
  have waited : lost.outstanding = [firstId] := by decide +kernel
  have outstanding : s.outstanding = [firstId] := by decide +kernel
  have reaches : Reaches s 1 := ⟨_, _, rfl, rfl, rfl⟩
  have ticketed : (s.ticket? firstId).isSome := by decide +kernel
  have told : collected firstId seen = [.error .disconnected] := by rfl
  have later : ended.outstanding = [secondId] := by decide +kernel
  obtain ⟨-, -, undisturbed, -, -, -, waits⟩ :=
    disconnect_rejects_outstanding (ω := Unit) .rejectOnDisconnect none untilLoss []
  obtain ⟨-, -, rejected, -⟩ := undisturbed rfl (by decide +kernel) 1 _ begun rfl rfl
  have listed : firstId ∈ lost.outstanding := by
    rw [waited]
    exact List.mem_cons_self
  have waiting := ((waits (by decide)).1 _ listed).1
  obtain ⟨-, -, -, disturbed, -, -, tidy⟩ :=
    disconnect_rejects_outstanding (ω := Unit) .rejectOnDisconnect none
      (untilLoss ++ [.dispatch 1]) onLoss
  obtain ⟨waits, once⟩ := tidy (by decide)
  obtain ⟨struck, spared⟩ := disturbed 1 reaches
  have still : firstId ∈ s.outstanding := by
    rw [outstanding]
    exact List.mem_cons_self
  have unlisted : secondId ∉ s.outstanding := by
    rw [outstanding]
    decide
  obtain ⟨stays, alone⟩ := waits _ still
  have outcomes := struck _ still stays alone ((once _ ticketed).2 1)
  exact ⟨rejected _ listed waiting, outstanding, reaches, outcomes.1, told,
    (spared _ unlisted).1, later⟩

end DuplexRpc.Client
