import DuplexRpc.Proofs.Correlator.Standing
import DuplexRpc.Proofs.Wire.Decode

/-!
# The first event decides

Of all that concerns a request after it was registered, the first message with its id, the first
rejection of everything outstanding, the first poll past its deadline or the dropping of its
ticket decides what is collected for it.  Whatever comes later gives its owner nothing else, and
what concerns other requests only plays no part at all.
-/

namespace DuplexRpc.Correlator

open DuplexRpc.Wire

inductive Verdict where
  | outcome (given : CallOutcome)
  | dropped

/-- What so many polls give after a verdict: the outcome once. -/
def Verdict.answers : Verdict → Nat → List CallOutcome
  | .outcome _, 0 => []
  | .outcome given, polls + 1 => given :: List.replicate polls afterCompletion
  | .dropped, _ => []

/-- The verdict on a request, by the first event that gives one, and the events from which its
answers are collected.  A poll past the deadline is both. -/
def decision : Option Time → List Effect → Option (Verdict × List Effect)
  | _, [] => none
  | _, .settle outcome :: later => some (.outcome outcome, later)
  | _, .drop :: later => some (.dropped, later)
  | deadline, .poll now :: later =>
      if deadline.any (· ≤ now) then some (.outcome (.error .timeout), .poll now :: later)
      else decision deadline later
  | deadline, .limit moment :: later => decision (some (sooner moment deadline)) later
  | deadline, .refuse _ :: later => decision deadline later

def polls : List Effect → Nat
  | [] => 0
  | .poll _ :: later => polls later + 1
  | .drop :: _ => 0
  | _ :: later => polls later

/-- What the owner of a request collects, by the events that concern it. -/
def answers (effects : List Effect) : List CallOutcome :=
  match decision none effects with
  | none => []
  | some (verdict, later) => verdict.answers (polls later)

/-! ## After the verdict -/

namespace Standing

variable {s : Standing} {t : Ticket} {effects : List Effect}

theorem run_cons (s : Standing) (effect : Effect) (effects : List Effect) :
    s.run (effect :: effects) =
      (((s.step effect).1.run effects).1,
        (s.step effect).2 ++ ((s.step effect).1.run effects).2) := rfl

theorem run_absent (effects : List Effect) :
    let result := run { listed := false, ticket := none } effects
    result.2 = [] ∧ result.1.listed = false := by
  induction effects with
  | nil => exact ⟨rfl, rfl⟩
  | cons effect effects ih =>
      have same : step { listed := false, ticket := none } effect =
          ({ listed := false, ticket := none }, []) := by
        cases effect <;> rfl
      simpa only [run_cons, same, List.nil_append] using ih

theorem run_drop (unlisted : s.listed = false) (effects : List Effect) :
    (s.run (.drop :: effects)).2 = [] ∧ (s.run (.drop :: effects)).1.listed = false := by
  have step : s.step .drop = ({ listed := false, ticket := none }, []) := by
    simp only [Standing.step, unlisted]
    split <;> rfl
  simpa only [run_cons, step, List.nil_append] using run_absent effects

theorem run_spent (unrefused : ∀ fault, .refuse fault ∉ effects) (t : Ticket)
    (stage : t.stage = .spent) :
    let result := run { listed := false, ticket := some t } effects
    result.2 = List.replicate (polls effects) afterCompletion ∧ result.1.listed = false := by
  induction effects generalizing t with
  | nil => exact ⟨rfl, rfl⟩
  | cons effect effects ih =>
      have rest := ih fun fault later => unrefused fault (List.mem_cons_of_mem _ later)
      cases effect with
      | refuse fault => exact absurd (List.mem_cons_self ..) (unrefused fault)
      | settle outcome => exact rest t stage
      | limit moment => exact rest _ stage
      | drop => exact run_drop rfl effects
      | poll now =>
          have step : step { listed := false, ticket := some t } (.poll now) =
              ({ listed := false, ticket := some t }, [afterCompletion]) := by
            simp [Standing.step, poll, stage]
          obtain ⟨gave, unlisted⟩ := rest t stage
          rw [run_cons, step]
          exact ⟨by simp [gave, polls, List.replicate_succ], unlisted⟩

theorem run_settled (unrefused : ∀ fault, .refuse fault ∉ effects) (t : Ticket)
    {given : CallOutcome} (stage : t.stage = .settled given) :
    let result := run { listed := false, ticket := some t } effects
    result.2 = (Verdict.outcome given).answers (polls effects) ∧ result.1.listed = false := by
  induction effects generalizing t with
  | nil => exact ⟨rfl, rfl⟩
  | cons effect effects ih =>
      have later : ∀ fault, .refuse fault ∉ effects :=
        fun fault later => unrefused fault (List.mem_cons_of_mem _ later)
      cases effect with
      | refuse fault => exact absurd (List.mem_cons_self ..) (unrefused fault)
      | settle outcome => exact ih later t stage
      | limit moment => exact ih later _ stage
      | drop => exact run_drop rfl effects
      | poll now =>
          have step : step { listed := false, ticket := some t } (.poll now) =
              ({ listed := false, ticket := some { t with stage := .spent } }, [given]) := by
            simp [Standing.step, poll, stage, collect]
          obtain ⟨gave, unlisted⟩ := run_spent later { t with stage := .spent } rfl
          rw [run_cons, step]
          exact ⟨by simp [gave, polls, Verdict.answers], unlisted⟩

/-! ## Until the verdict -/

/-- A request that waits gives nothing until something decides it, and then what was decided. -/
theorem run_waiting (unrefused : ∀ fault, .refuse fault ∉ effects) (r : RequestId)
    (deadline : Option Time) :
    let result := run { listed := true, ticket := some { id := r, deadline } } effects
    match decision deadline effects with
    | none =>
        result.2 = [] ∧ result.1.listed = true ∧
          ∃ deadline, result.1.ticket = some { id := r, deadline }
    | some (verdict, later) =>
        result.2 = verdict.answers (polls later) ∧ result.1.listed = false := by
  induction effects generalizing deadline with
  | nil => exact ⟨rfl, rfl, deadline, rfl⟩
  | cons effect effects ih =>
      have later : ∀ fault, .refuse fault ∉ effects :=
        fun fault later => unrefused fault (List.mem_cons_of_mem _ later)
      cases effect with
      | refuse fault => exact absurd (List.mem_cons_self ..) (unrefused fault)
      | settle outcome =>
          exact run_settled later { id := r, stage := .settled outcome, deadline } rfl
      | drop => exact run_absent effects
      | limit moment => exact ih later (some (sooner moment deadline))
      | poll now =>
          -- A poll past the deadline decides and collects at once.
          by_cases due : deadline.any (· ≤ now)
          · have step : step { listed := true, ticket := some { id := r, deadline } } (.poll now) =
                ({ listed := false, ticket := some { id := r, stage := .spent, deadline } },
                  [.error .timeout]) := by
              cases deadline with
              | none => cases due
              | some deadline =>
                  have due : deadline ≤ now := by simpa using due
                  simp [Standing.step, poll, due, collect]
            obtain ⟨gave, unlisted⟩ := run_spent later { id := r, stage := .spent, deadline } rfl
            simp only [decision, due, if_true, run_cons, step]
            exact ⟨by simp [gave, polls, Verdict.answers], unlisted⟩
          · have step : step { listed := true, ticket := some { id := r, deadline } } (.poll now) =
                ({ listed := true, ticket := some { id := r, deadline } }, []) := by
              cases deadline with
              | none => rfl
              | some deadline =>
                  have early : ¬deadline ≤ now := by simpa using due
                  simp [Standing.step, poll, early]
            have undecided : decision deadline (.poll now :: effects) =
                decision deadline effects := by
              simp [decision, due]
            simpa only [undecided, run_cons, step, List.nil_append] using ih later deadline

end Standing

/-! ## What is collected for a request -/

variable {c : Correlator} {r : RequestId} {after : List Move}

theorem Move.eq_refuse {m : Move} {fault : Fault} (h : m.effect? r = some (.refuse fault)) :
    m = .refuse r fault := by
  cases m with
  | refuse id other =>
      simp only [Move.effect?] at h
      split at h
      · rename_i same
        cases h
        rw [same]
      · cases h
  | receive text =>
      simp only [Move.effect?] at h
      split at h
      · cases h
      · split at h <;> cases h
  | register method | failAll other => cases h
  | inbound m | limit id moment | poll id now | drop id =>
      simp only [Move.effect?] at h
      split at h <;> cases h

theorem collected_run (issued : c.Issued) (method : String)
    (room : c.Room (registrations after + 1))
    (sent : ∀ fault, .refuse c.upcoming fault ∉ after) :
    let result := c.run (.register method :: after)
    let concerning := after.filterMap (·.effect? c.upcoming)
    collected c.upcoming result.2 = answers concerning ∧
      (c.upcoming ∈ result.1.outstanding ↔ decision none concerning = none) := by
  intro result concerning
  have next : c.upcoming.toNat < (c.register method).2.nextId.toNat := by
    rw [room.upcoming, room.nextId_register]
    omega
  obtain ⟨stands, gave⟩ := standing_run (room.register method) next
  rw [standing_register issued room] at stands gave
  have unrefused : ∀ fault, .refuse fault ∉ concerning := by
    intro fault concerns
    obtain ⟨m, taken, effect⟩ := List.mem_filterMap.mp concerns
    exact sent fault (Move.eq_refuse effect ▸ taken)
  have decided := Standing.run_waiting unrefused c.upcoming none
  have whole : result = (c.register method).2.run after := rfl
  simp only [concerning, ← stands, ← gave] at decided
  rw [whole, answers]
  cases decision : decision none concerning with
  | none =>
      simp only [concerning] at decision
      rw [decision] at decided
      obtain ⟨nothing, listed, -⟩ := decided
      have listed : c.upcoming ∈ ((c.register method).2.run after).1.outstanding := by
        simpa [standing] using listed
      simp [nothing, listed]
  | some verdict =>
      obtain ⟨verdict, later⟩ := verdict
      simp only [concerning] at decision
      rw [decision] at decided
      obtain ⟨collects, unlisted⟩ := decided
      have unlisted : c.upcoming ∉ ((c.register method).2.run after).1.outstanding := by
        simpa [standing] using unlisted
      simp [collects, unlisted]

/-! ## Messages in any order -/

/-- As long as nothing was decided, only the deadline is remembered. -/
theorem decision_append {deadline : Option Time} {effects : List Effect}
    (undecided : decision deadline effects = none) :
    ∃ moved, ∀ later, decision deadline (effects ++ later) = decision moved later := by
  induction effects generalizing deadline with
  | nil => exact ⟨deadline, fun _ => rfl⟩
  | cons effect effects ih =>
      cases effect with
      | settle outcome | drop => cases undecided
      | limit moment | refuse fault => exact ih undecided
      | poll now =>
          by_cases due : deadline.any (· ≤ now)
          · simp [decision, due] at undecided
          · simp only [decision, due, Bool.false_eq_true, if_false] at undecided
            obtain ⟨moved, same⟩ := ih undecided
            exact ⟨moved, fun later => by simp [decision, due, same]⟩

theorem polls_messages (r : RequestId) (messages : List Message) (later : List Effect) :
    polls ((messages.map .inbound).filterMap (Move.effect? r) ++ later) = polls later := by
  induction messages with
  | nil => rfl
  | cons m messages ih =>
      by_cases response : m.responseId? = some r
      · simpa [Move.effect?, response, polls] using ih
      · simpa [Move.effect?, response] using ih

theorem decision_messages {r : RequestId} {messages : List Message} {m : Message}
    (first : messages.find? (·.responseId? = some r) = some m) (deadline : Option Time)
    (later : List Effect) :
    ∃ rest, decision deadline ((messages.map .inbound).filterMap (Move.effect? r) ++ later) =
        some (.outcome (outcomeOf m), rest) ∧ polls rest = polls later := by
  obtain ⟨own, strays, others, rfl, stray⟩ := List.find?_eq_some_iff_append.mp first
  have own : m.responseId? = some r := by simpa using own
  have ignored : (strays.map Move.inbound).filterMap (Move.effect? r) = [] := by
    rw [List.filterMap_eq_nil_iff]
    intro move taken
    obtain ⟨other, known, rfl⟩ := List.mem_map.mp taken
    have apart : other.responseId? ≠ some r := by simpa using stray other known
    simp [Move.effect?, apart]
  refine ⟨(others.map Move.inbound).filterMap (Move.effect? r) ++ later, ?_,
    polls_messages r others later⟩
  simp [ignored, Move.effect?, own, decision]

theorem registrations_messages (messages : List Message) :
    registrations (messages.map .inbound) = 0 := by
  simp [registrations, Move.registers]

theorem filterMap_concerning (r : RequestId) (moves : List Move) :
    (moves.filter fun m => (m.effect? r).isSome).filterMap (·.effect? r) =
      moves.filterMap (·.effect? r) := by
  induction moves with
  | nil => rfl
  | cons m moves ih =>
      cases concerns : m.effect? r with
      | none => simpa [concerns] using ih
      | some effect => simpa [concerns] using ih

theorem outcomeOf_of_no_error {m : Message} (absent : m.error = none) :
    outcomeOf m = .ok (m.result.getD .null) := by
  simp [outcomeOf, Message.rpcError?, absent]

theorem outcomeOf_of_error {m : Message} {raw : Json.Value} (present : m.error = some raw) :
    ∃ e, m.rpcError? = some e ∧ outcomeOf m = .error (.rpc e) := by
  simp [outcomeOf, Message.rpcError?, present]

/-- The owner of a request that was registered and sent collects what the first event among all
that concern it decides, and no other event plays a part.  Among messages in any order it is the
first with the id of the request, whose outcome is its error if it has one and its result, or
`null`, if it has none; an error that is written as `null` is none. -/
theorem first_event_decides (before after : List Move) (method : String)
    (few : registrations (before ++ .register method :: after) < 2 ^ 63)
    (sent : ∀ fault, .refuse (run {} before).1.upcoming fault ∉ after) :
    let c := (run {} before).1
    let r := c.upcoming
    let result := c.run (.register method :: after)
    let concerning := after.filterMap (·.effect? r)
    (collected r result.2 = answers concerning ∧
      (r ∈ result.1.outstanding ↔ decision none concerning = none)) ∧
    collected r (c.run (.register method ::
      after.filter fun m => (m.effect? r).isSome)).2 = collected r result.2 ∧
    (∀ (messages : List Message) (m : Message) (now : Time),
      decision none concerning = none →
      messages.find? (·.responseId? = some r) = some m →
      collected r (c.run (.register method ::
        after ++ (messages.map .inbound ++ [.poll r now]))).2 = [outcomeOf m]) ∧
    (∀ m : Message, m.error = none → outcomeOf m = .ok (m.result.getD .null)) ∧
    (∀ (m : Message) raw, m.error = some raw →
      ∃ e, m.rpcError? = some e ∧ outcomeOf m = .error (.rpc e)) ∧
    (∀ text m, Message.decode text = .ok m → m.error ≠ some .null) := by
  intro c r result concerning
  have room : c.Issued ∧ c.Room (registrations after + 1) := by
    have begun : Room {} (registrations (before ++ .register method :: after)) :=
      ⟨by decide, by show 1 + _ < 2 ^ 64; omega⟩
    rw [← registrations_register method]
    exact issued_fresh.run begun
  obtain ⟨issued, room⟩ := room
  have fits : ∀ {moves : List Move}, registrations moves ≤ registrations after →
      c.Room (registrations moves + 1) := by
    intro moves fewer
    have bounded := room.bounded
    exact ⟨room.begun, by omega⟩
  refine ⟨collected_run issued method room sent, ?others, ?messages,
    fun _ => outcomeOf_of_no_error, fun _ _ => outcomeOf_of_error,
    fun _ _ => Message.decode_error_ne_null⟩
  case others =>
      have fewer := (List.filter_sublist (p := fun m : Move => (m.effect? r).isSome)
        (l := after)).countP_le (p := Move.registers)
      have kept := collected_run issued method (fits fewer)
        fun fault refused => sent fault (List.mem_filter.mp refused).1
      rw [kept.1, filterMap_concerning, (collected_run issued method room sent).1]
  case messages =>
      intro messages m now undecided first
      let inbound : List Move := messages.map .inbound ++ [.poll r now]
      have fewer : registrations (after ++ inbound) ≤ registrations after := by
        rw [registrations_append, registrations_append, registrations_messages]
        exact Nat.le_refl _
      have unrefused : ∀ fault, .refuse r fault ∉ after ++ inbound := by
        intro fault refused
        simp only [inbound, List.mem_append, List.mem_map] at refused
        rcases refused with refused | ⟨m, -, same⟩ | refused
        · exact sent fault refused
        · cases same
        · simp at refused
      obtain ⟨moved, resumes⟩ := decision_append undecided
      obtain ⟨rest, decided, polled⟩ := decision_messages first moved [.poll now]
      have own : [Move.poll r now].filterMap (Move.effect? r) = [.poll now] := by
        simp [Move.effect?]
      calc
        _ = answers ((after ++ inbound).filterMap (Move.effect? r)) :=
            (collected_run issued method (fits fewer) unrefused).1
        _ = (Verdict.outcome (outcomeOf m)).answers (polls rest) := by
            rw [answers, List.filterMap_append, List.filterMap_append, own, resumes, decided]
        _ = [outcomeOf m] := by
            rw [polled]
            rfl

/-- Two requests whose responses come in the wrong order, the second one twice. -/
theorem second_request_first :
    let after : List Move := [
      .inbound { id := .number 7, result := some (.bool false) },
      .inbound { id := .number 2, result := some (.bool true) },
      .inbound { id := .number 1, result := some (.bool false) },
      .inbound { id := .number 2, error := some (.string "late") },
      .poll ⟨2, by decide⟩ 0]
    let c := (run {} [.register "first"]).1
    (∀ fault, .refuse c.upcoming fault ∉ after) ∧
      collected c.upcoming (c.run (.register "second" :: after)).2 = [.ok (.bool true)] := by
  intro after c
  have sent : ∀ fault, .refuse c.upcoming fault ∉ after := by simp [after]
  have decided := (first_event_decides [.register "first"] after "second" (by decide) sent).1.1
  exact ⟨sent, decided.trans rfl⟩

end DuplexRpc.Correlator
