import DuplexRpc.Proofs.Event.Registrations

/-!
# Dispatch

The history of a script on one emitter explains every outcome in it: an emission has called those
listeners that were live when it began, an id that is handed out is new, and a removal succeeds
once. What a stage holds is kept beside the history of all that happened before; each action
extends the two together.
-/

namespace DuplexRpc.Script

/-- What came of an action agrees with all that happened before it was over. -/
def Explained (past : List Occurrence) : Occurrence → Prop
  | .did depth _ (.emit _ event) outcome =>
      ∃ earlier inner, past = earlier ++ .began depth event :: inner ∧
        outcome = .invoked (live event.name earlier).length ∧
        inner.filterMap (Occurrence.called? depth) = live event.name earlier ∧
        ∀ o ∈ inner, depth < o.depth ∨ ∃ listener, o = .heard depth event listener
  | .did _ _ (.on _ _ _) outcome =>
      ∃ number, outcome = .listener number ∧ number ∉ (registered past).map Prod.fst
  | .did _ running (.off _ listener) outcome =>
      ∃ was, outcome = .removed was ∧
        (was = true ↔ ∃ number, listener.or running = some number ∧
          number ∈ (registered past).map Prod.fst ∧ number ∉ removed past)
  | .did _ _ (.count _ name) outcome => outcome = .counted (live name past).length
  | _ => True

/-! ## What every action extends -/

/-- Something happened, and what came of it is explained as far as it is over, unless the ids of
listeners came round before. -/
structure Faithful (past later : List Occurrence) (s : Stage) : Prop where
  explained : ∀ before o after, later = before ++ o :: after →
    (registered (past ++ before)).length < 2 ^ 64 → Explained (past ++ before) o
  kept : ∃ r, Kept (past ++ later) s r

namespace Faithful

variable {past first second : List Occurrence} {o : Occurrence} {s s' : Stage}
  {r : Registry Program}

theorem nil (kept : Kept past s r) : Faithful past [] s where
  explained before o after h := by simp at h
  kept := ⟨r, by simpa using kept⟩

theorem singleton (explained : (registered past).length < 2 ^ 64 → Explained past o)
    (kept : Kept (past ++ [o]) s r) : Faithful past [o] s where
  explained before found after h := by
    obtain ⟨rfl, rfl, rfl⟩ : before = [] ∧ found = o ∧ after = [] := by
      cases before <;> simp_all
    simpa using explained
  kept := ⟨r, kept⟩

theorem append (h₁ : Faithful past first s) (h₂ : Faithful (past ++ first) second s') :
    Faithful past (first ++ second) s' where
  explained before o after h := by
    obtain ⟨rest, rfl, split⟩ | ⟨rest, split, later⟩ := List.append_eq_append_iff.mp h
    · simpa using h₂.explained rest o after split
    · cases rest with
      | nil =>
          subst split
          simpa using h₂.explained [] o after (by simpa using later.symm)
      | cons found rest =>
          obtain ⟨rfl, rfl⟩ := by simpa using later
          exact h₁.explained before o rest split
  kept := by
    obtain ⟨r, kept⟩ := h₂.kept
    exact ⟨r, by simpa using kept⟩

end Faithful

namespace Stage

variable {past : List Occurrence} {s : Stage} {r : Registry Program} {remaining depth : Nat}
  {running : Option Program} {emitter : Nat}

/-- An action with all that happens until it is over, its end included. -/
def account (s : Stage) (remaining depth : Nat) (running : Option Program) (action : Action) :
    List Occurrence :=
  s.history remaining depth action ++
    [.did depth (running.map (·.number)) action (s.perform remaining depth running action).1]

theorem faithful_on {event : String} {body : Call → Body} (kept : Kept past s r)
    (single : ∀ call, (body call).Single) :
    Faithful past (s.account remaining depth running (.on emitter event body))
      (s.perform remaining depth running (.on emitter event body)).2 := by
  let number := (registered past).length
  have performed : s.perform remaining depth running (.on emitter event body) =
      (.listener number,
        { s with registries := [(r.on event ⟨number, body⟩).2],
                 issued := s.issued ++ [(r.on event ⟨number, body⟩).1] }) := by
    cases remaining <;>
      simp [perform, kept.registry_eq, kept.setRegistry_eq, kept.issued_length, number]
  rw [account, performed, history_eq_nil (by simp)]
  refine .singleton (fun _ => ⟨number, rfl, ?_⟩) (kept.on single depth _)
  simp [kept.numbers, number]

theorem faithful_off {listener : Option Nat} (kept : Kept past s r) :
    Faithful past (s.account remaining depth running (.off emitter listener))
      (s.perform remaining depth running (.off emitter listener)).2 := by
  rw [account, history_eq_nil (by simp)]
  by_cases issued : ∃ number, listener.or (running.map (·.number)) = some number ∧
      number < (registered past).length
  · obtain ⟨number, target, known⟩ := issued
    have performed : s.perform remaining depth running (.off emitter listener) =
        (.removed (r.off (idOf number)).1, { s with registries := [(r.off (idOf number)).2] }) := by
      cases remaining <;>
        simp [perform, target, kept.issued, known, kept.registry_eq, kept.setRegistry_eq]
    rw [performed]
    refine .singleton (fun few => ⟨_, rfl, (kept.any_id few known).trans ?_⟩)
      (kept.off known depth target)
    simp [target]
  · have performed : s.perform remaining depth running (.off emitter listener) =
        (.removed false, s) := by
      have unknown : (listener.or (running.map (·.number))).bind (s.issued[·]?) = none := by
        refine Option.bind_eq_none_iff.mpr fun number target => ?_
        have beyond : (registered past).length ≤ number := Nat.le_of_not_lt fun known =>
          issued ⟨number, target, known⟩
        simp [kept.issued, beyond]
      cases remaining <;> simp [perform, unknown]
    rw [performed]
    refine .singleton (fun _ => ⟨false, rfl, ?_⟩) (kept.silent rfl rfl)
    rw [kept.numbers]
    refine iff_of_false Bool.false_ne_true ?_
    rintro ⟨number, target, known, -⟩
    exact issued ⟨number, target, List.mem_range.mp known⟩

theorem faithful_count {name : String} (kept : Kept past s r) :
    Faithful past (s.account remaining depth running (.count emitter name))
      (s.perform remaining depth running (.count emitter name)).2 := by
  have performed : s.perform remaining depth running (.count emitter name) =
      (.counted (r.targets name).length, s) := by
    cases remaining <;> simp [perform, kept.registry_eq, Registry.count]
  rw [account, performed, history_eq_nil (by simp)]
  refine .singleton (fun few => ?_) (kept.silent rfl rfl)
  exact congrArg Outcome.counted (kept.targets_length few)

theorem faithful_panic (kept : Kept past s r) :
    Faithful past (s.account remaining depth running .panic)
      (s.perform remaining depth running .panic).2 := by
  have performed : s.perform remaining depth running .panic = (.panicked, s) := by
    cases remaining <;> rfl
  rw [account, performed, history_eq_nil (by simp)]
  exact .singleton (fun _ => trivial) (kept.silent rfl rfl)

theorem faithful_clone (kept : Kept past s r) :
    Faithful past (s.account remaining depth running (.cloneEmitter emitter))
      (s.perform remaining depth running (.cloneEmitter emitter)).2 := by
  have performed : s.perform remaining depth running (.cloneEmitter emitter) =
      (.emitter s.handles.length, { s with handles := s.handles ++ [0] }) := by
    cases remaining <;> simp [perform, kept.registryIndex_eq]
  have shared : Kept past { s with handles := s.handles ++ [0] } r :=
    { kept with
      shared := by
        simp only [List.mem_append, List.mem_singleton]
        rintro handle (known | rfl)
        · exact kept.shared handle known
        · rfl }
  rw [account, performed, history_eq_nil (by simp)]
  exact .singleton (fun _ => trivial) (shared.silent rfl rfl)

/-! ## Emissions -/

section

variable {run : Program → Stage → Stage} {inner : Program → Stage → List Occurrence}
  {event : Event}

theorem called_callHistory
    (deep : ∀ program s, ∀ o ∈ inner program s, depth < o.depth)
    (targets : List (Listener Program)) (s : Stage) :
    (callHistory run inner event depth targets s).filterMap (Occurrence.called? depth) =
      targets.map (·.action.number) := by
  have silent (program : Program) (s : Stage) :
      (inner program s).filterMap (Occurrence.called? depth) = [] := by
    refine List.filterMap_eq_nil_iff.mpr fun o within => ?_
    have deeper := deep program s o within
    cases o with
    | heard own => exact if_neg (Nat.ne_of_gt deeper)
    | _ => rfl
  induction targets generalizing s with
  | nil => rfl
  | cons target rest ih =>
      simp [callHistory, Occurrence.called?, silent, ih]

theorem faithful_callAll
    (acts : ∀ {past s r} (program : Program), Kept past s r →
      (∀ call, (program.body call).Single) → Faithful past (inner program s) (run program s))
    {targets : List (Listener Program)}
    (bodies : ∀ target ∈ targets, ∀ call, (target.action.body call).Single)
    (kept : Kept past s r) :
    Faithful past (callHistory run inner event depth targets s)
      (callAll run event depth targets s) := by
  -- The targets were looked up before the first call; what listeners do only changes the stage.
  induction targets generalizing past s r with
  | nil => exact .nil kept
  | cons target rest ih =>
      have heard : Faithful past [.heard depth event target.action.number]
          (s.hear event target.action.number depth) :=
        .singleton (fun _ => trivial) ((kept.hear _ _ _).silent rfl rfl)
      obtain ⟨r', kept'⟩ := heard.kept
      have acted := acts target.action kept' (bodies target (by simp))
      obtain ⟨r'', kept''⟩ := acted.kept
      have later := ih (fun target known => bodies target (by simp [known])) kept''
      exact heard.append (acted.append later)

theorem faithful_emit (emitter : Nat) (event : Event)
    (acts : ∀ {past s r} (program : Program), Kept past s r →
      (∀ call, (program.body call).Single) → Faithful past (inner program s) (run program s))
    (deep : ∀ program s, ∀ o ∈ inner program s, depth < o.depth)
    (kept : Kept past s r) (number : Option Nat) :
    let targets := r.targets event.name
    Faithful past
      (.began depth event :: callHistory run inner event depth targets s ++
        [.did depth number (.emit emitter event) (.invoked targets.length)])
      (callAll run event depth targets s) := by
  intro targets
  have began : Faithful past [.began depth event] s :=
    .singleton (fun _ => trivial) (kept.silent rfl rfl)
  have called : Faithful (past ++ [.began depth event])
      (callHistory run inner event depth targets s) (callAll run event depth targets s) :=
    faithful_callAll acts
      (fun target known => kept.bodies target (List.mem_filter.mp known).1)
      (kept.silent rfl rfl)
  obtain ⟨r', kept'⟩ := (began.append called).kept
  have ended : Faithful
      (past ++ ([.began depth event] ++ callHistory run inner event depth targets s))
      [.did depth number (.emit emitter event) (.invoked targets.length)]
      (callAll run event depth targets s) := by
    refine .singleton (fun few => ?_) (kept'.silent rfl rfl)
    have few : (registered past).length < 2 ^ 64 :=
      Nat.lt_of_le_of_lt (registered_length_le _ _) few
    refine ⟨past, callHistory run inner event depth targets s, by simp, ?_, ?_, ?_⟩
    · rw [kept.targets_length few]
    · rw [called_callHistory deep, kept.targets_map few]
    · exact fun o within => of_mem_callHistory deep within
  exact (began.append called).append ended

end

theorem faithful_runBody {perform : Program → Action → Stage → Outcome × Stage}
    {inner : Program → Action → Stage → List Occurrence}
    (acts : ∀ {past s r} (program : Program) (action : Action), Kept past s r → action.Single →
      Faithful past
        (inner program action s ++ [.did depth program.number action (perform program action s).1])
        (perform program action s).2)
    (program : Program) {body : Body} (single : body.Single) (kept : Kept past s r) :
    Faithful past (bodyHistory perform inner depth program body s)
      (runBody perform program body s) := by
  fun_induction runBody perform program body s generalizing past r with
  | case1 => exact .nil kept
  | case2 => exact .singleton (fun _ => trivial) ((kept.note _).silent rfl rfl)
  | case3 action next s calm outcome moved acted ih =>
      obtain ⟨own, others⟩ := single
      have done := acts program action kept own
      simp only [acted] at done
      obtain ⟨r', kept'⟩ := done.kept
      have later := ih (others outcome) (kept'.note _)
      simpa [bodyHistory, acted] using done.append later

theorem faithful_quiet {action : Action} (quiet : ∀ emitter event, action ≠ .emit emitter event)
    (single : action.Single) (kept : Kept past s r) :
    Faithful past (s.account remaining depth running action)
      (s.perform remaining depth running action).2 := by
  cases action with
  | newEmitter => exact single.elim
  | cloneEmitter emitter => exact faithful_clone kept
  | on emitter event body => exact faithful_on kept single
  | off emitter listener => exact faithful_off kept
  | emit emitter event => exact absurd rfl (quiet emitter event)
  | count emitter name => exact faithful_count kept
  | panic => exact faithful_panic kept

/-- One action, at any depth. -/
theorem faithful_perform {action : Action} (single : action.Single) (kept : Kept past s r) :
    Faithful past (s.account remaining depth running action)
      (s.perform remaining depth running action).2 := by
  induction remaining generalizing past s r depth running action with
  | zero =>
      cases action
      case emit emitter event =>
        have acts {past : List Occurrence} {s : Stage} {r : Registry Program} (program : Program)
            (kept : Kept past s r) (_ : ∀ call, (program.body call).Single) :
            Faithful past [] s := .nil kept
        have deep (program : Program) (s : Stage) : ∀ o ∈ ([] : List Occurrence), depth < o.depth :=
          nofun
        have emitted := faithful_emit emitter event acts deep kept (running.map (·.number))
        simpa [account, perform, history, kept.registry_eq] using emitted
      all_goals exact faithful_quiet (by simp) single kept
  | succ remaining ih =>
      cases action
      case emit emitter event =>
        let act (program : Program) := perform remaining (depth + 1) (some program)
        let ran (program : Program) (s : Stage) : Stage :=
          runBody act program (program.body ⟨event, s.calls⟩) s
        let does (program : Program) (s : Stage) : List Occurrence :=
          bodyHistory act (fun _ => history remaining (depth + 1)) (depth + 1) program
            (program.body ⟨event, s.calls⟩) s
        have acted {past : List Occurrence} {s : Stage} {r : Registry Program} (program : Program)
            (action : Action) (kept : Kept past s r) (single : action.Single) :
            Faithful past (s.account remaining (depth + 1) (some program) action)
              (act program action s).2 := ih single kept
        have acts {past : List Occurrence} {s : Stage} {r : Registry Program} (program : Program)
            (kept : Kept past s r) (single : ∀ call, (program.body call).Single) :
            Faithful past (does program s) (ran program s) :=
          faithful_runBody acted program (single _) kept
        have deep (program : Program) (s : Stage) : ∀ o ∈ does program s, depth < o.depth :=
          fun o within => depth_of_mem_bodyHistory (fun _ _ _ _ => depth_of_mem_history) within
        have emitted := faithful_emit emitter event acts deep kept (running.map (·.number))
        simpa [account, perform, history, kept.registry_eq] using emitted
      all_goals exact faithful_quiet (by simp) single kept

end Stage

/-! ## Scripts -/

theorem kept_init : Kept [] {} {} where
  alone := rfl
  shared := by simp
  lastId := rfl
  issued := rfl
  numbers := rfl
  gone := by simp [removed]
  named := by simp
  known := by simp
  listed _ := rfl
  bodies := by simp

theorem faithful_rehearse {levels : Nat} {past : List Occurrence} {s : Stage}
    {r : Registry Program} {script : List Action} (single : ∀ action ∈ script, action.Single)
    (kept : Kept past s r) :
    Faithful past (rehearse levels s script).2 (rehearse levels s script).1 := by
  induction script generalizing past s r with
  | nil => exact .nil kept
  | cons action rest ih =>
      obtain ⟨own, others⟩ := List.forall_mem_cons.mp single
      have done : Faithful past (s.play levels action).2 (s.play levels action).1 := by
        have acted : Faithful past (s.account levels 0 none action)
            (s.perform levels 0 none action).2 := Stage.faithful_perform own kept
        obtain ⟨r', kept'⟩ := acted.kept
        exact ⟨acted.explained, r', { kept' with }⟩
      obtain ⟨r', kept'⟩ := done.kept
      exact done.append (ih others kept')

/-- Every outcome of a script is explained by what happened before, however its listeners nest,
remove themselves or panic, whatever they do on which call, and no two listeners get the same id;
all of it as long as ids do not come round. What a run answers and logs is read from such a
history. -/
theorem dispatch_follows_registration (levels : Nat) (script : List Action)
    (single : ∀ action ∈ script, action.Single) :
    let ended := (rehearse levels {} script).1
    let told := (rehearse levels {} script).2
    (∀ past o later, told = past ++ o :: later → (registered past).length < 2 ^ 64 →
      Explained past o) ∧
      ((registered told).length < 2 ^ 64 → ended.issued.Nodup) ∧
      ended.issued.length = (registered told).length ∧
      (run script {}).flatMap (·.2) = entries (rehearse maxDepth {} script).2 ∧
      (run script {}).map (·.1) = outcomes (rehearse maxDepth {} script).2 := by
  intro ended told
  have faithful : Faithful [] told ended := faithful_rehearse single kept_init
  obtain ⟨r, kept⟩ := faithful.kept
  refine ⟨faithful.explained, fun few => ?_, kept.issued_length, run_eq script {} rfl⟩
  rw [kept.issued]
  refine List.pairwise_map.mpr (List.nodup_range.imp_of_mem fun {m n} hm hn differ same => ?_)
  exact differ ((idOf_inj few (List.mem_range.mp hm) (List.mem_range.mp hn)).mp same)

/-- On the first call the first listener registers another, takes that one off again and panics; on
the next it removes itself. The second emits again. The last removal finds nothing. -/
def nested : List Action :=
  [.on 0 "connect" fun call =>
      if call.number = 1 then
        .act (.on 0 "connect" fun _ => .done) fun
          | .listener number => .ofList [.off 0 (some number), .panic]
          | _ => .done
      else .ofList [.off 0 none],
    .on 0 "connect" fun _ => .ofList [.emit 0 .close, .count 0 "connect"],
    .cloneEmitter 0, .emit 1 .connect, .emit 0 .connect, .count 1 "connect", .off 1 (some 0)]

theorem single_nested : ∀ action ∈ nested, action.Single := by
  simp only [nested, List.forall_mem_cons, List.not_mem_nil, false_imp_iff, implies_true,
    and_true]
  refine ⟨fun call => ?first, fun _ => ?second, trivial, trivial, trivial, trivial, trivial⟩
  case first =>
      dsimp only
      split
      · refine ⟨fun _ => trivial, fun outcome => ?_⟩
        cases outcome with
        | listener number => exact Body.single_ofList (by simp [Action.Single])
        | _ => trivial
      · exact Body.single_ofList (by simp [Action.Single])
  case second => exact Body.single_ofList (by simp [Action.Single])

theorem dispatch_follows_registration_nested :
    let ended := (rehearse maxDepth {} nested).1
    let told := (rehearse maxDepth {} nested).2
    (run nested {}).map (·.1) =
        [.listener 0, .listener 1, .emitter 1, .invoked 2, .invoked 2, .counted 1,
          .removed false] ∧
      (registered told).length = 3 ∧ ended.issued.Nodup ∧
      ∀ past o later, told = past ++ o :: later → Explained past o := by
  intro ended told
  obtain ⟨explained, apart, -⟩ := dispatch_follows_registration maxDepth nested single_nested
  have registrations : (registered told).length = 3 := by decide
  have few : (registered told).length < 2 ^ 64 := registrations ▸ by decide
  refine ⟨by decide, registrations, apart few, fun past o later split => ?_⟩
  have earlier : (registered past).length ≤ (registered told).length :=
    split ▸ registered_length_le past (o :: later)
  exact explained past o later split (Nat.lt_of_le_of_lt earlier few)

end DuplexRpc.Script
