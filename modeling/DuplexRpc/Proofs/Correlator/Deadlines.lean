import DuplexRpc.Client.Basic
import DuplexRpc.Proofs.Correlator.Answerable
import DuplexRpc.Proofs.Correlator.Routing

/-!
# Deadlines

The owner of a request may set it a deadline as often as it likes, and the earliest one counts.
What a poll gives is a matter of few things: whether the request was refused, which outcome was
delivered first, the earliest deadline, and whether an earlier poll gave something already.  Of the
rest of the history nothing plays a part.
-/

namespace DuplexRpc.Correlator

open DuplexRpc.Json DuplexRpc.Wire

/-! ## What was delivered and what was set -/

def Effect.outcome? : Effect → Option CallOutcome
  | .settle outcome => some outcome
  | _ => none

def Effect.deadline? : Effect → Option Time
  | .limit deadline => some deadline
  | _ => none

theorem Effect.eq_settle {effect : Effect} (settles : effect.outcome?.isSome) :
    ∃ outcome, effect = .settle outcome := by
  cases effect with
  | settle outcome => exact ⟨outcome, rfl⟩
  | _ => cases settles

/-- The outcome that reaches the ticket, if it waits that long. -/
def delivered (effects : List Effect) : Option CallOutcome := effects.findSome? Effect.outcome?

def deadlines (effects : List Effect) : List Time := effects.filterMap Effect.deadline?

theorem delivered_append (effects : List Effect) (effect : Effect) :
    delivered (effects ++ [effect]) = (delivered effects).or effect.outcome? := by
  simp [delivered, List.findSome?_append]

theorem min?_append (times : List Time) (deadline : Time) :
    (times ++ [deadline]).min? = some (sooner deadline times.min?) := by
  cases times with
  | nil => rfl
  | cons first times =>
      rw [List.cons_append, List.min?_cons', List.min?_cons', List.foldl_append]
      rfl

theorem deadlines_append (effects later : List Effect) :
    deadlines (effects ++ later) = deadlines effects ++ deadlines later :=
  List.filterMap_append

theorem deadlines_of_settles {effects : List Effect}
    (settles : ∀ effect ∈ effects, effect.outcome?.isSome) : deadlines effects = [] := by
  rw [deadlines, List.filterMap_eq_nil_iff]
  intro effect listed
  obtain ⟨outcome, rfl⟩ := Effect.eq_settle (settles effect listed)
  rfl

theorem min?_deadlines_append (effects : List Effect) (effect : Effect) :
    (deadlines (effects ++ [effect])).min? =
      match effect.deadline? with
      | none => (deadlines effects).min?
      | some deadline => some (sooner deadline (deadlines effects).min?) := by
  cases set : effect.deadline? with
  | none => simp [deadlines, set]
  | some deadline => simp [deadlines, set, min?_append]

/-- What a poll gives, after earlier ones gave so much. -/
def due (refusal : Option Fault) (outcome : Option CallOutcome) (deadline : Option Time)
    (now : Time) : List CallOutcome → Poll
  | _ :: _ => .ready afterCompletion
  | [] =>
      match refusal, outcome with
      | some fault, _ => .ready (.error fault)
      | none, some outcome => .ready outcome
      | none, none => if deadline.any (· ≤ now) then .ready (.error .timeout) else .pending

/-! ## The ticket of a request -/

/-- What has become of a ticket from which so much was collected. -/
def stageOf (refusal : Option Fault) (outcome : Option CallOutcome) :
    List CallOutcome → Ticket.Stage
  | _ :: _ => .spent
  | [] =>
      match refusal, outcome with
      | some fault, _ => .refused fault
      | none, some outcome => .settled outcome
      | none, none => .waiting

theorem stageOf_of_ne_nil {refusal : Option Fault} {outcome : Option CallOutcome}
    {gave : List CallOutcome} (some : gave ≠ []) : stageOf refusal outcome gave = .spent := by
  cases gave with
  | nil => exact absurd rfl some
  | cons first gave => rfl

/-- The owner of a request still has its ticket, and nothing but these things made it what it
is. -/
structure Standing.Held (s : Standing) (refusal : Option Fault) (effects : List Effect)
    (gave : List CallOutcome) : Prop where
  matched : s.Matched
  ticket : ∃ t, s.ticket = some t ∧ t.stage = stageOf refusal (delivered effects) gave ∧
    t.deadline = (deadlines effects).min?

/-- A move that ends the ticket's use, or is the second half of the call that made it. -/
def Effect.final : Effect → Bool
  | .refuse _ | .drop => true
  | _ => false

theorem stage_settle {t : Ticket} {refusal : Option Fault} {first : Option CallOutcome}
    {gave : List CallOutcome} (stage : t.stage = stageOf refusal first gave)
    (outcome : CallOutcome) :
    (t.settle outcome).stage = stageOf refusal (first.or (some outcome)) gave := by
  cases gave <;> cases refusal <;> cases first <;> simp [Ticket.settle, stage, stageOf]

theorem deadline_settle (t : Ticket) (outcome : CallOutcome) :
    (t.settle outcome).deadline = t.deadline := by
  unfold Ticket.settle
  split <;> rfl

namespace Standing

variable {s : Standing} {t : Ticket} {refusal : Option Fault} {effects : List Effect}
  {gave : List CallOutcome}

/-- An outcome for a request that is not in the table finds a ticket that does not wait. -/
theorem Matched.ticket_settle (h : s.Matched) (has : s.ticket = some t) (outcome : CallOutcome) :
    (s.step (.settle outcome)).1.ticket = some (t.settle outcome) := by
  by_cases listed : s.listed
  · simp [Standing.step, listed, has]
  · have late : t.stage ≠ .waiting := fun waiting => listed (h.mpr ⟨t, has, waiting⟩)
    have kept : t.settle outcome = t := by
      unfold Ticket.settle
      split
      · exact absurd ‹_› late
      · rfl
    simpa [Standing.step, listed, kept] using has

theorem Held.settle (h : s.Held refusal effects gave) (outcome : CallOutcome) :
    (s.step (.settle outcome)).1.Held refusal (effects ++ [.settle outcome]) gave := by
  obtain ⟨t, has, stage, deadline⟩ := h.ticket
  refine ⟨h.matched.step _, t.settle outcome, h.matched.ticket_settle has outcome, ?_, ?_⟩
  · rw [delivered_append]
    exact stage_settle stage outcome
  · rw [deadline_settle, min?_deadlines_append]
    exact deadline

theorem Held.limit (h : s.Held refusal effects gave) (moment : Time) :
    (s.step (.limit moment)).1.Held refusal (effects ++ [.limit moment]) gave := by
  obtain ⟨t, has, stage, deadline⟩ := h.ticket
  refine ⟨h.matched.step _, { t with deadline := some (sooner moment t.deadline) }, ?_, ?_, ?_⟩
  · simp [Standing.step, has]
  · rw [delivered_append]
    simpa [Effect.outcome?] using stage
  · rw [min?_deadlines_append, deadline]
    rfl

theorem Held.refuse (h : s.Held none effects []) (fault : Fault) :
    (s.step (.refuse fault)).1.Held (some fault) effects [] := by
  obtain ⟨t, has, -, deadline⟩ := h.ticket
  exact ⟨h.matched.step _, { t with stage := .refused fault }, by simp [Standing.step, has], rfl,
    deadline⟩

/-- A poll gives nothing and changes nothing, or it gives something and spends the ticket. -/
theorem poll_cases (has : s.ticket = some t) (now : Time) :
    s.step (.poll now) = (s, []) ∨
      ∃ outcome, (s.step (.poll now)).2 = [outcome] ∧
        (s.step (.poll now)).1.ticket = some { t with stage := .spent } := by
  obtain ⟨id, stage, deadline⟩ := t
  cases stage with
  | spent => exact .inr ⟨afterCompletion, by simp [Standing.step, Standing.poll, has]⟩
  | refused fault =>
      exact .inr ⟨.error fault, by simp [Standing.step, Standing.poll, collect, has]⟩
  | settled outcome => exact .inr ⟨outcome, by simp [Standing.step, Standing.poll, collect, has]⟩
  | waiting =>
      cases deadline with
      | none => exact .inl (by simp [Standing.step, Standing.poll, has])
      | some deadline =>
          by_cases due : deadline ≤ now
          · exact .inr ⟨.error .timeout, by
              simp [Standing.step, Standing.poll, collect, has, due]⟩
          · exact .inl (by simp [Standing.step, Standing.poll, has, due])

theorem Held.poll (h : s.Held refusal effects gave) (now : Time) :
    (s.step (.poll now)).1.Held refusal (effects ++ [.poll now])
      (gave ++ (s.step (.poll now)).2) := by
  obtain ⟨t, has, stage, deadline⟩ := h.ticket
  have limits : (deadlines (effects ++ [.poll now])).min? = (deadlines effects).min? :=
    min?_deadlines_append effects _
  have first : delivered (effects ++ [.poll now]) = delivered effects := by
    simp [delivered_append, Effect.outcome?]
  refine ⟨h.matched.step _, ?_⟩
  rw [limits, first]
  rcases poll_cases has now with same | ⟨outcome, collects, spent⟩
  · rw [same, List.append_nil]
    exact ⟨t, has, stage, deadline⟩
  · rw [collects, stageOf_of_ne_nil (by simp)]
    exact ⟨_, spent, rfl, deadline⟩

theorem Held.step (h : s.Held refusal effects gave) {effect : Effect}
    (kept : effect.final = false) :
    (s.step effect).1.Held refusal (effects ++ [effect]) (gave ++ (s.step effect).2) := by
  cases effect with
  | settle outcome => simpa [Standing.step] using h.settle outcome
  | limit deadline => simpa [Standing.step] using h.limit deadline
  | poll now => exact h.poll now
  | refuse fault | drop => cases kept

theorem Held.run {later : List Effect} (h : s.Held refusal effects gave)
    (kept : ∀ effect ∈ later, effect.final = false) :
    (s.run later).1.Held refusal (effects ++ later) (gave ++ (s.run later).2) := by
  induction later generalizing s effects gave with
  | nil => simpa [Standing.run] using h
  | cons effect later ih =>
      have next := ih (h.step (kept effect List.mem_cons_self))
        fun effect listed => kept effect (List.mem_cons_of_mem _ listed)
      simpa [Standing.run, replay_cons] using next

/-- The ticket of a request that was just registered. -/
theorem held_fresh (r : RequestId) :
    Held { listed := true, ticket := some { id := r } } none [] [] where
  matched := by simp [Matched]
  ticket := ⟨{ id := r }, rfl, rfl, rfl⟩

theorem run_settles {later : List Effect} (settles : ∀ effect ∈ later, effect.outcome?.isSome)
    (s : Standing) : (s.run later).2 = [] := by
  induction later generalizing s with
  | nil => rfl
  | cons effect later ih =>
      have rest := ih fun effect listed => settles effect (List.mem_cons_of_mem _ listed)
      obtain ⟨outcome, rfl⟩ := Effect.eq_settle (settles effect List.mem_cons_self)
      simp only [Standing.run, replay_cons] at rest ⊢
      rw [rest]
      rfl

theorem held_after_call {r : RequestId} {during history : List Effect}
    (settles : ∀ effect ∈ during, effect.outcome?.isSome)
    (kept : ∀ effect ∈ history, effect.final = false) :
    let after := run { listed := true, ticket := some { id := r } }
      (during ++ (refusal.map .refuse).toList ++ history)
    after.1.Held refusal (during ++ history) after.2 := by
  have unfinal : ∀ effect ∈ during, effect.final = false := by
    intro effect listed
    obtain ⟨outcome, rfl⟩ := Effect.eq_settle (settles effect listed)
    rfl
  have before := (held_fresh r).run unfinal
  rw [run_settles settles] at before
  simp only [List.nil_append] at before
  simp only [Standing.run, replay_append] at before ⊢
  have silent := run_settles settles { listed := true, ticket := some { id := r } }
  simp only [Standing.run] at silent
  rw [silent]
  cases refusal with
  | none => simpa [Standing.run] using before.run kept
  | some fault =>
      have refused := before.refuse fault
      simpa [Standing.run, replay_cons, Standing.step] using refused.run kept

end Standing

/-! ## Histories with times -/

def Move.timed : Move → Bool
  | .limit _ _ | .poll _ _ => true
  | _ => false

inductive Deed where
  /-- Sets a deadline that is so far away. -/
  | timeout (id : RequestId) (duration : Time)
  | poll (id : RequestId)
  | move (m : Move) (untimed : m.timed = false)

structure At where
  now : Time
  deed : Deed

/-- The deadline is a sum of natural numbers: it is taken to fit the clock, however long the
timeout. -/
def At.move : At → Move
  | ⟨now, .timeout id duration⟩ => .limit id (now + duration)
  | ⟨now, .poll id⟩ => .poll id now
  | ⟨_, .move m _⟩ => m

def At.timeout? (r : RequestId) : At → Option Time
  | ⟨now, .timeout id duration⟩ => if r = id then some (now + duration) else none
  | _ => none

/-- The deadlines that were set for a request, each from the time at which it was set. -/
def timeouts (r : RequestId) (history : List At) : List Time :=
  history.filterMap (·.timeout? r)

/-- The events of a run that concern a request. -/
def concerning (r : RequestId) (moves : List Move) : List Effect := moves.filterMap (·.effect? r)

theorem concerning_append (r : RequestId) (moves later : List Move) :
    concerning r (moves ++ later) = concerning r moves ++ concerning r later :=
  List.filterMap_append

theorem deadline?_effect?_of_untimed {m : Move} (untimed : m.timed = false) (r : RequestId) :
    (m.effect? r).bind Effect.deadline? = none := by
  cases m with
  | limit id deadline | poll id now => cases untimed
  | register method | failAll fault => rfl
  | receive text =>
      simp only [Move.effect?]
      split
      · rfl
      · split <;> rfl
  | inbound m | refuse id fault | drop id =>
      simp only [Move.effect?]
      split <;> rfl

theorem At.deadline?_effect? (r : RequestId) (a : At) :
    (a.move.effect? r).bind Effect.deadline? = a.timeout? r := by
  obtain ⟨now, deed⟩ := a
  cases deed with
  | timeout id duration | poll id =>
      by_cases own : r = id <;> simp [At.move, At.timeout?, Move.effect?, own, Effect.deadline?]
  | move m untimed => exact deadline?_effect?_of_untimed untimed r

theorem deadlines_history (r : RequestId) (history : List At) :
    deadlines (concerning r (history.map At.move)) = timeouts r history := by
  simp only [deadlines, concerning, timeouts, List.filterMap_map, List.filterMap_filterMap]
  congr 1
  funext a
  exact a.deadline?_effect? r

/-! ## Calls -/

variable {c : Correlator} {r : RequestId}

/-- The moves of a call, with what happens between its two halves. -/
def calling (r : RequestId) (method : String) (during : List Move) (refusal : Option Fault) :
    List Move :=
  .register method :: (during ++ (refusal.map (.refuse r)).toList)

/-- After a call, refused or not, before whose end only outcomes reached the request. -/
theorem held_after_call {during history : List Move} {refusal : Option Fault}
    (issued : c.Issued) (method : String)
    (room : c.Room (registrations (calling c.upcoming method during refusal ++ history)))
    (unheld : ∀ effect ∈ concerning c.upcoming during, effect.outcome?.isSome)
    (kept : ∀ effect ∈ concerning c.upcoming history, effect.final = false) :
    let called := c.run (calling c.upcoming method during refusal ++ history)
    (called.1.standing c.upcoming).Held refusal (concerning c.upcoming (during ++ history))
      (collected c.upcoming called.2) := by
  intro called
  let rest := during ++ (refusal.map (.refuse c.upcoming)).toList ++ history
  have whole : called = (c.register method).2.run rest := by
    simp [called, calling, rest, run, replay_cons, step]
  have room : c.Room (registrations rest + 1) := by
    rw [← registrations_register method]
    exact room
  have early : c.upcoming.toNat < (c.register method).2.nextId.toNat := by
    rw [room.upcoming, room.nextId_register]
    omega
  obtain ⟨stands, gave⟩ := standing_run (room.register method) early
  have effects : rest.filterMap (·.effect? c.upcoming) =
      concerning c.upcoming during ++ (refusal.map .refuse).toList ++
        concerning c.upcoming history := by
    have refused : concerning c.upcoming (refusal.map (.refuse c.upcoming)).toList =
        (refusal.map .refuse).toList := by
      cases refusal <;> simp [concerning, Move.effect?]
    rw [← refused, ← concerning_append, ← concerning_append]
    rfl
  rw [whole, stands, gave, effects, concerning_append, standing_register issued room]
  exact Standing.held_after_call unheld kept

/-! ## Polls -/

section

variable {t : Ticket} {refusal : Option Fault} {outcome : Option CallOutcome}
  {gave : List CallOutcome}

theorem poll_of_stage (found : c.ticket? r = some t) (stage : t.stage = stageOf refusal outcome gave)
    (now : Time) : (c.poll r now).1 = due refusal outcome t.deadline now gave := by
  cases gave with
  | cons first gave => simp [Correlator.poll, found, stage, stageOf, due, afterCompletion]
  | nil =>
      cases refusal with
      | some fault => simp [Correlator.poll, found, stage, stageOf, due]
      | none =>
          cases outcome with
          | some outcome => simp [Correlator.poll, found, stage, stageOf, due]
          | none =>
              cases limit : t.deadline with
              | none => simp [Correlator.poll, found, stage, stageOf, due, limit]
              | some deadline =>
                  by_cases late : deadline ≤ now <;>
                    simp [Correlator.poll, found, stage, stageOf, due, limit, late]

theorem poll_spent (found : c.ticket? r = some t) (spent : t.stage = .spent) (now : Time) :
    (c.poll r now).2 = c := by
  simp [Correlator.poll, found, spent]

theorem poll_pending {now : Time} (nothing : (c.poll r now).1 = .pending) :
    (c.poll r now).2 = c := by
  cases found : c.ticket? r with
  | none => simp [Correlator.poll, found]
  | some t =>
      cases stage : t.stage with
      | waiting =>
          cases limit : t.deadline with
          | none => simp [Correlator.poll, found, stage, limit]
          | some deadline =>
              by_cases late : deadline ≤ now
              · simp [Correlator.poll, found, stage, limit, late] at nothing
              · simp [Correlator.poll, found, stage, limit, late]
      | _ => simp [Correlator.poll, found, stage] at nothing

theorem poll_expired (found : c.ticket? r = some t) (waiting : t.stage = .waiting) {now : Time}
    (late : t.deadline.any (· ≤ now)) : (c.poll r now).2 = (c.forget r).spend r := by
  cases limit : t.deadline with
  | none => simp [limit] at late
  | some deadline =>
      have late : deadline ≤ now := by simpa [limit] using late
      simp [Correlator.poll, found, waiting, limit, late]

end

/-- A response to a request that expired finds nothing, whenever it comes. -/
theorem handleText_of_expired {later : List Move} {text : String} {m : Message}
    (gone : r ∉ c.outstanding) (early : r.toNat < c.nextId.toNat)
    (room : c.Room (registrations later)) (decoded : Message.decode text = .ok m)
    (response : m.responseId? = some r) (silent : m.method = none) :
    let after := (c.run later).1
    (after.handleText text).1 = { after with discarded := after.discarded + 1 } := by
  intro after
  have stray : ∀ id ∈ after.outstanding, m.responseId? ≠ some id := by
    intro id listed own
    obtain rfl := Option.some.inj (response.symm.trans own)
    exact gone (mem_outstanding_run room early listed)
  have answer : ¬m.isRequest := by simp [Message.isRequest, silent]
  rw [handleText_of_decode decoded, settle_of_stray stray, if_neg answer]

/-- A call of a client is a call of its correlator, and the client's timeout is one that is set
right after it. -/
theorem call_correlator {ω : Type} (client : Client ω) (method : String) (params : Option Value)
    (now : Time) :
    let r := client.correlator.upcoming
    let refusal := match (client.send (requestMessage r method params)).1 with
      | .ok () => none
      | .error fault => some fault
    let after := (client.call method params now).2.1
    (client.call method params now).1 = r ∧
      after.correlator = (client.correlator.run (calling r method [] refusal ++
        (client.requestTimeout.map fun duration =>
          At.move ⟨now, .timeout r duration⟩).toList)).1 := by
  intro r refusal after
  refine ⟨rfl, ?_⟩
  simp only [after, refusal, r, Client.send]
  cases sent : (client.channel.send
      (requestMessage client.correlator.upcoming method params).encode).1 <;>
    cases timeout : client.requestTimeout <;>
      simp [Client.call, Client.send, calling, run, replay_cons, step, At.move, sent, timeout]

/-- Whatever happens to the other requests, and at whatever times it is polled, the deadline of a
request is the earliest of those that were set, and a poll gives the fault of the sink if the
request was refused, the outcome that was delivered first if there is one, a timeout from the
deadline on, and nothing before it.  Whoever has got something gets an error from then on, and
polls that give nothing or come after one that gave something change nothing.  A timeout takes the
request out of the table and leaves the others as they are, and a response that comes later is
discarded. -/
theorem polls_follow_deadline {ω : Type} (before during : List Move) (method : String)
    (refusal : Option Fault) (history : List At) :
    let c := (run {} before).1
    let r := c.upcoming
    let moves := calling r method during refusal ++ history.map At.move
    registrations (before ++ moves) < 2 ^ 64 - 1 →
    (∀ effect ∈ concerning r during, effect.outcome?.isSome) →
    (∀ effect ∈ concerning r (history.map At.move), effect.final = false) →
    let stands := (c.run moves).1
    let gave := collected r (c.run moves).2
    let outcome := delivered (concerning r (during ++ history.map At.move))
    let deadline := (timeouts r history).min?
    (∃ t, stands.ticket? r = some t ∧ t.deadline = deadline) ∧
    (∀ now, (stands.poll r now).1 = due refusal outcome deadline now gave) ∧
    (∀ now, gave ≠ [] ∨ (stands.poll r now).1 = .pending → (stands.poll r now).2 = stands) ∧
    (∀ now, gave = [] ∧ refusal = none ∧ outcome = none ∧ deadline.any (· ≤ now) →
      let left := (stands.poll r now).2
      (r ∈ stands.outstanding ∧ left.pending = stands.pending.filter (·.id ≠ r)) ∧
      (∀ other, other ≠ r → left.ticket? other = stands.ticket? other) ∧
      left.discarded = stands.discarded ∧
      ∀ later text m, registrations (before ++ moves ++ later) < 2 ^ 64 - 1 →
        Message.decode text = .ok m → m.responseId? = some r → m.method = none →
        let after := (left.run later).1
        (after.handleText text).1 = { after with discarded := after.discarded + 1 }) ∧
    (∀ client : Client ω, client.correlator = c → ∀ params now,
      let refusal := match (client.send (requestMessage r method params)).1 with
        | .ok () => none
        | .error fault => some fault
      let (id, called, _) := client.call method params now
      id = r ∧ called.correlator = (c.run (calling r method [] refusal ++
        (client.requestTimeout.map fun duration =>
          At.move ⟨now, .timeout r duration⟩).toList)).1) := by
  intro c r moves few unheld kept stands gave outcome deadline
  have room : ∀ {later}, registrations (before ++ later) < 2 ^ 64 - 1 →
      Room {} (registrations (before ++ later)) :=
    fun few => ⟨by decide, by show 1 + _ < 2 ^ 64; omega⟩
  obtain ⟨issued, fits⟩ : c.Issued ∧ c.Room (registrations moves) := issued_fresh.run (room few)
  have held : (stands.standing r).Held refusal (concerning r (during ++ history.map At.move)) gave :=
    held_after_call issued method fits unheld kept
  obtain ⟨t, found, stage, limit⟩ := held.ticket
  have found : stands.ticket? r = some t := found
  have limit : t.deadline = deadline := by
    rw [limit, concerning_append, deadlines_append, deadlines_of_settles unheld, List.nil_append,
      deadlines_history]
  have gives : ∀ now, (stands.poll r now).1 = due refusal outcome deadline now gave := by
    intro now
    rw [← limit]
    exact poll_of_stage found stage now
  refine ⟨⟨t, found, limit⟩, gives, ?idle, ?expiry, ?calls⟩
  case idle =>
      rintro now (earlier | nothing)
      · have spent : t.stage = .spent := stage.trans (stageOf_of_ne_nil earlier)
        exact poll_spent found spent now
      · exact poll_pending nothing
  case expiry =>
      rintro now ⟨nothing, unrefused, undelivered, late⟩ left
      have waiting : t.stage = .waiting := by
        have undelivered : delivered (concerning r (during ++ history.map At.move)) = none :=
          undelivered
        rw [stage, nothing, unrefused, undelivered]
        rfl
      have gaveUp : left = (stands.forget r).spend r := by
        apply poll_expired found waiting
        rw [limit]
        exact late
      have gone : r ∉ left.outstanding := by simp [gaveUp]
      refine ⟨⟨?_, ?_⟩, ?_, ?_, ?_⟩
      · exact (mem_outstanding_iff held.matched).mpr ⟨t, found, waiting⟩
      · rw [gaveUp]
        rfl
      · intro other apart
        rw [gaveUp, ticket?_spend, if_neg apart, ticket?_forget]
      · rw [gaveUp]
        rfl
      · intro later text m more decoded response silent
        obtain ⟨known, fits⟩ : stands.Issued ∧ stands.Room (registrations later) := by
          rw [List.append_assoc] at more
          have fits := (issued_fresh.run (room more)).2
          exact issued.run fits
        have early : r.toNat < left.nextId.toNat := by
          rw [gaveUp]
          exact known r (by simp [found])
        have fits : left.Room (registrations later) := by
          rw [gaveUp]
          exact ⟨fits.begun, fits.bounded⟩
        exact handleText_of_expired gone early fits decoded response silent
  case calls =>
      rintro client same params now
      have called := call_correlator client method params now
      rw [same] at called
      exact called

/-- A request that is polled twice before the earlier of its two deadlines, while another one is
made.  The poll at the deadline gives a timeout, and the response after it is discarded. -/
theorem earlier_deadline_expires :
    let r : RequestId := ⟨1, by decide⟩
    let history : List At := [
      ⟨0, .timeout r 50⟩, ⟨4, .poll r⟩, ⟨5, .timeout r 10⟩, ⟨6, .move (.register "other") rfl⟩,
      ⟨14, .poll r⟩]
    let stands := (run {} (calling r "m" [] none ++ history.map At.move)).1
    let left := (stands.poll r 15).2
    (stands.poll r 15).1 = .ready (.error .timeout) ∧ left.outstanding = [⟨2, by decide⟩] ∧
      (left.handleText "\x7b\"id\":1,\"result\":true\x7d").1.discarded = 1 := by
  intro r history stands left
  have kept : ∀ effect ∈ concerning r (history.map At.move), effect.final = false := by
    decide
  have follows := polls_follow_deadline (ω := Unit) [] [] "m" none history (by decide)
    (by simp [concerning]) kept
  obtain ⟨-, gives, -, expires, -⟩ := follows
  obtain ⟨-, -, -, later⟩ := expires 15 ⟨rfl, rfl, rfl, by decide⟩
  have decoded : Message.decode "\x7b\"id\":1,\"result\":true\x7d" =
      .ok { id := .number 1, result := some (.bool true) } := by
    rfl
  have discards := later [] _ _ (by decide) decoded rfl rfl
  refine ⟨(gives 15).trans rfl, rfl, ?_⟩
  exact (congrArg Correlator.discarded discards).trans rfl

end DuplexRpc.Correlator
