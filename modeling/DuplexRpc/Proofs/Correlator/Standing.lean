import DuplexRpc.Proofs.Correlator.Run

/-!
# How one request stands

Seen from one request that was registered, a run of the correlator is a run of a small machine:
the request is in the table or not, it has a ticket or not, and only the moves that concern it do
anything.  What was collected for the request is what this machine gives.
-/

namespace DuplexRpc.Correlator

open DuplexRpc.Wire

structure Standing where
  listed : Bool
  ticket : Option Ticket

def standing (c : Correlator) (r : RequestId) : Standing :=
  { listed := r ∈ c.outstanding, ticket := c.ticket? r }

inductive Effect where
  | refuse (fault : Fault)
  | settle (outcome : CallOutcome)
  | limit (deadline : Time)
  | poll (now : Time)
  | drop

def Move.effect? (r : RequestId) (m : Move) : Option Effect :=
  match m with
  | .register _ => none
  | .receive text =>
      match (Message.decode text).toOption with
      | none => none
      | some m => if m.responseId? = some r then some (.settle (outcomeOf m)) else none
  | .inbound m => if m.responseId? = some r then some (.settle (outcomeOf m)) else none
  | .failAll fault => some (.settle (.error fault))
  | .refuse id fault => if r = id then some (.refuse fault) else none
  | .limit id deadline => if r = id then some (.limit deadline) else none
  | .poll id now => if r = id then some (.poll now) else none
  | .drop id => if r = id then some .drop else none

def afterCompletion : CallOutcome :=
  .error (.internal "response future polled after completion")

namespace Standing

def collect (s : Standing) (outcome : CallOutcome) : Standing × List CallOutcome :=
  ({ s with ticket := s.ticket.map fun t => { t with stage := .spent } }, [outcome])

def poll (s : Standing) (now : Time) : Standing × List CallOutcome :=
  match s.ticket with
  | none => (s, [])
  | some t =>
      match t.stage with
      | .refused fault => s.collect (.error fault)
      | .settled outcome => s.collect outcome
      | .spent => (s, [afterCompletion])
      | .waiting =>
          match t.deadline with
          | none => (s, [])
          | some deadline =>
              if deadline ≤ now then { s with listed := false }.collect (.error .timeout)
              else (s, [])

def step (s : Standing) : Effect → Standing × List CallOutcome
  | .refuse fault =>
      ({ listed := false, ticket := s.ticket.map fun t => { t with stage := .refused fault } }, [])
  | .settle outcome =>
      (if s.listed then
        { listed := false, ticket := s.ticket.map (Ticket.settle outcome) }
      else s, [])
  | .limit deadline =>
      ({ s with
          ticket := s.ticket.map fun t =>
            { t with deadline := some (sooner deadline t.deadline) } },
        [])
  | .poll now => s.poll now
  | .drop =>
      ({ listed :=
            match s.ticket with
            | some { stage := .waiting, .. } => false
            | _ => s.listed
         ticket := none },
        [])

def run : Standing → List Effect → Standing × List CallOutcome := replay step

end Standing

/-! ## The machine of one request is the correlator seen from it -/

variable {c : Correlator} {r : RequestId}

theorem standing_congr {moved : Correlator}
    (listed : r ∈ moved.outstanding ↔ r ∈ c.outstanding)
    (ticket : moved.ticket? r = c.ticket? r) : moved.standing r = c.standing r := by
  simp only [standing, listed, ticket]

theorem standing_settle (m : Message) :
    (c.settle m).1.standing r =
      if m.responseId? = some r then ((c.standing r).step (.settle (outcomeOf m))).1
      else c.standing r := by
  by_cases response : m.responseId? = some r <;> by_cases listed : r ∈ c.outstanding <;>
    simp [standing, Standing.step, mem_outstanding_settle, ticket?_settle, response, listed]

theorem standing_failAll (fault : Fault) :
    (c.failAll fault).2.standing r = ((c.standing r).step (.settle (.error fault))).1 := by
  by_cases listed : r ∈ c.outstanding <;>
    simp [standing, Standing.step, ticket?_failAll, listed]

theorem standing_limit (deadline : Time) :
    (c.limit r deadline).standing r = ((c.standing r).step (.limit deadline)).1 := by
  rw [standing, ticket?_limit, if_pos rfl]
  rfl

theorem standing_spend :
    (c.spend r).standing r =
      { c.standing r with ticket := (c.ticket? r).map fun t => { t with stage := .spent } } := by
  rw [standing, ticket?_spend, if_pos rfl]
  rfl

theorem standing_forget : (c.forget r).standing r = { c.standing r with listed := false } := by
  have gone : r ∉ (c.forget r).outstanding := by simp
  simp only [standing, gone, decide_false, ticket?_forget]

theorem standing_poll (now : Time) :
    (c.poll r now).2.standing r = ((c.standing r).step (.poll now)).1 ∧
      collected r ((c.poll r now).1.collected r) = ((c.standing r).step (.poll now)).2 := by
  have ticket : (c.standing r).ticket = c.ticket? r := rfl
  cases found : c.ticket? r with
  | none =>
      simp [Correlator.poll, Standing.step, Standing.poll, ticket, found, Poll.collected]
  | some t =>
      cases stage : t.stage with
      | settled outcome | refused fault =>
          simp [Correlator.poll, Standing.step, Standing.poll, Standing.collect, standing_spend,
            ticket, found, stage, Poll.collected, collected]
      | spent =>
          simp [Correlator.poll, Standing.step, Standing.poll, ticket, found, stage,
            Poll.collected, collected, afterCompletion]
      | waiting =>
          cases limit : t.deadline with
          | none =>
              simp [Correlator.poll, Standing.step, Standing.poll, ticket, found, stage, limit,
                Poll.collected]
          | some deadline =>
              by_cases due : deadline ≤ now <;>
                simp [Correlator.poll, Standing.step, Standing.poll, Standing.collect,
                  standing_spend, standing_forget, ticket, found, stage, limit, due,
                  Poll.collected, collected]

theorem outstanding_drop (r : RequestId) :
    (c.drop r).outstanding =
      match c.ticket? r with
      | some { stage := .waiting, .. } => (c.forget r).outstanding
      | _ => c.outstanding := by
  unfold Correlator.drop
  cases c.ticket? r with
  | none => rfl
  | some t => cases t with
    | mk id stage deadline => cases stage <;> rfl

theorem standing_drop : (c.drop r).standing r = ((c.standing r).step .drop).1 := by
  have ticket : (c.standing r).ticket = c.ticket? r := rfl
  have gone : (c.drop r).ticket? r = none := by simp [ticket?_drop]
  rw [standing, gone, outstanding_drop]
  simp only [Standing.step, ticket]
  split
  · simp
  · rfl

/-- A move that does not concern a request leaves it as it was; any other has its effect. -/
theorem standing_step {m : Move} (known : m.registers → r ≠ c.upcoming) :
    (c.step m).1.standing r =
        (match m.effect? r with
        | none => c.standing r
        | some effect => ((c.standing r).step effect).1) ∧
      collected r (c.step m).2 =
        match m.effect? r with
        | none => []
        | some effect => ((c.standing r).step effect).2 := by
  cases m with
  | register method =>
      have other : r ≠ c.upcoming := known rfl
      simp [Correlator.step, standing, Move.effect?, ticket?_register, other]
  | receive text =>
      obtain ⟨discarded, same⟩ := c.handleText_fst text
      simp only [Correlator.step, same, Move.effect?]
      cases (Message.decode text).toOption with
      | none => exact ⟨rfl, rfl⟩
      | some m =>
          simp only [standing_settle]
          split <;> exact ⟨rfl, rfl⟩
  | inbound m =>
      simp only [Correlator.step, Move.effect?, standing_settle]
      split <;> exact ⟨rfl, rfl⟩
  | failAll fault => exact ⟨standing_failAll fault, rfl⟩
  | refuse id fault =>
      by_cases same : r = id
      · subst same
        simp [Correlator.step, Move.effect?, standing, ticket?_refuse, Standing.step]
      · have kept : (c.refuse id fault).1.standing r = c.standing r :=
          standing_congr (by simp [same]) (by simp [ticket?_refuse, same])
        simp [Correlator.step, Move.effect?, same, kept]
  | limit id deadline =>
      by_cases same : r = id
      · subst same
        simp only [Correlator.step, Move.effect?, if_true]
        exact ⟨standing_limit deadline, rfl⟩
      · have kept : (c.limit id deadline).standing r = c.standing r :=
          standing_congr (by simp) (by simp [ticket?_limit, same])
        simp [Correlator.step, Move.effect?, same, kept]
  | poll id now =>
      by_cases same : r = id
      · subst same
        simpa [Correlator.step, Move.effect?] using standing_poll now
      · have kept : (c.poll id now).2.standing r = c.standing r :=
          standing_congr (mem_outstanding_poll_ne same now) (ticket?_poll_ne same now)
        simp [Correlator.step, Move.effect?, same, kept, collected_of_ne same]
  | drop id =>
      by_cases same : r = id
      · subst same
        simp only [Correlator.step, Move.effect?, if_true]
        exact ⟨standing_drop, rfl⟩
      · have kept : (c.drop id).standing r = c.standing r :=
          standing_congr (mem_outstanding_drop_ne same) (by simp [ticket?_drop, same])
        simp [Correlator.step, Move.effect?, same, kept]

theorem Standing.ticket_step {s : Standing} {effect : Effect}
    (found : (s.step effect).1.ticket.isSome) : s.ticket.isSome := by
  cases ticket : s.ticket with
  | some t => rfl
  | none =>
      cases effect with
      | settle outcome =>
          simp only [Standing.step] at found
          split at found <;> simp [ticket] at found
      | _ => simp_all [Standing.step, Standing.poll]

theorem Standing.listed_step {s : Standing} {effect : Effect}
    (listed : (s.step effect).1.listed) : s.listed := by
  cases effect with
  | refuse fault => cases listed
  | limit deadline => exact listed
  | settle outcome =>
      simp only [Standing.step] at listed
      split at listed
      · cases listed
      · exact listed
  | poll now =>
      simp only [Standing.step, Standing.poll, Standing.collect] at listed
      split at listed
      · exact listed
      · split at listed <;> try exact listed
        split at listed
        · exact listed
        · split at listed
          · cases listed
          · exact listed
  | drop =>
      simp only [Standing.step] at listed
      split at listed
      · cases listed
      · exact listed

theorem Standing.waits_step {s : Standing} {effect : Effect} {t : Ticket}
    (has : s.ticket = some t) (waiting : t.stage = .waiting)
    (listed : (s.step effect).1.listed) :
    ∃ t, (s.step effect).1.ticket = some t ∧ t.stage = .waiting := by
  cases effect with
  | refuse fault => cases listed
  | settle outcome =>
      simp only [Standing.step] at listed ⊢
      split at listed
      · cases listed
      · exact absurd listed ‹_›
  | limit deadline =>
      exact ⟨{ t with deadline := some (sooner deadline t.deadline) },
        by simp [Standing.step, has], waiting⟩
  | poll now =>
      simp only [Standing.step, Standing.poll, has, waiting] at listed ⊢
      split at listed
      · exact ⟨t, has, waiting⟩
      · split at listed
        · cases listed
        · rename_i early
          rw [if_neg early]
          exact ⟨t, has, waiting⟩
  | drop =>
      obtain ⟨id, stage, deadline⟩ := t
      simp only at waiting
      subst waiting
      simp [Standing.step, has] at listed

theorem ticket?_step {m : Move} (known : m.registers → r ≠ c.upcoming)
    (found : ((c.step m).1.ticket? r).isSome) : (c.ticket? r).isSome := by
  have seen := (c.standing_step known).1
  have found : ((c.step m).1.standing r).ticket.isSome := found
  rw [seen] at found
  cases concerns : m.effect? r with
  | none =>
      simp only [concerns] at found
      exact found
  | some effect => exact Standing.ticket_step (by simpa [concerns] using found)

theorem outstanding_step {m : Move} (known : m.registers → r ≠ c.upcoming)
    (listed : r ∈ (c.step m).1.outstanding) :
    r ∈ c.outstanding ∧ ∀ t, c.ticket? r = some t → t.stage = .waiting →
      ∃ t, (c.step m).1.ticket? r = some t ∧ t.stage = .waiting := by
  have seen := (c.standing_step known).1
  have ticket : ((c.step m).1.standing r).ticket = (c.step m).1.ticket? r := rfl
  have listed : ((c.step m).1.standing r).listed := by simpa [standing] using listed
  rw [seen] at listed ticket
  cases concerns : m.effect? r with
  | none =>
      simp only [concerns] at listed ticket
      refine ⟨by simpa [standing] using listed, fun t has waiting => ⟨t, ?_, waiting⟩⟩
      rw [← ticket]
      exact has
  | some effect =>
      simp only [concerns] at listed ticket
      refine ⟨by simpa [standing] using Standing.listed_step listed, fun t has waiting => ?_⟩
      rw [← ticket]
      exact Standing.waits_step has waiting listed

theorem Room.ne_upcoming {count : Nat} (room : c.Room count)
    (issued : r.toNat < c.nextId.toNat) : r ≠ c.upcoming := by
  intro same
  rw [same, room.upcoming] at issued
  exact Nat.lt_irrefl _ issued

theorem standing_run {moves : List Move} (room : c.Room (registrations moves))
    (issued : r.toNat < c.nextId.toNat) :
    (c.run moves).1.standing r =
        ((c.standing r).run (moves.filterMap (·.effect? r))).1 ∧
      collected r (c.run moves).2 =
        ((c.standing r).run (moves.filterMap (·.effect? r))).2 := by
  induction moves generalizing c with
  | nil => exact ⟨rfl, rfl⟩
  | cons m moves ih =>
      -- Ids only grow, so no registration gives the id of `r` out again.
      have here := c.standing_step (r := r) (m := m) fun _ => room.ne_upcoming issued
      have rest := ih room.step (Nat.lt_of_lt_of_le issued room.nextId_le)
      simp only [run, Standing.run, replay_cons, collected_append] at rest ⊢
      rw [rest.1, rest.2, here.1, here.2]
      cases concerns : m.effect? r with
      | none => simp [concerns]
      | some effect => simp [concerns, replay_cons]

/-! ## Registered requests -/

/-- Every ticket belongs to a request whose id was given out. -/
def Issued (c : Correlator) : Prop := ∀ r, (c.ticket? r).isSome → r.toNat < c.nextId.toNat

theorem issued_fresh : Issued {} := by
  intro r found
  cases found

theorem Issued.step {m : Move} {moves : List Move} (h : c.Issued)
    (room : c.Room (registrations (m :: moves))) : (c.step m).1.Issued := by
  intro r found
  by_cases own : m.registers ∧ r = c.upcoming
  · obtain ⟨kind, rfl⟩ := own
    cases m with
    | register method =>
        rw [registrations_register] at room
        have next := room.nextId_register method
        simp only [Correlator.step, next, room.upcoming]
        omega
    | _ => cases kind
  · have known := ticket?_step (fun kind same => own ⟨kind, same⟩) found
    exact Nat.lt_of_lt_of_le (h r known) room.nextId_le

theorem registrations_append (moves later : List Move) :
    registrations (moves ++ later) = registrations moves + registrations later :=
  List.countP_append

theorem Issued.run {moves later : List Move} (h : c.Issued)
    (room : c.Room (registrations (moves ++ later))) :
    (c.run moves).1.Issued ∧ (c.run moves).1.Room (registrations later) := by
  induction moves generalizing c with
  | nil => exact ⟨h, room⟩
  | cons m moves ih => exact ih (h.step room) room.step

theorem standing_register {count : Nat} (h : c.Issued) (room : c.Room count) (method : String) :
    (c.register method).2.standing c.upcoming =
      { listed := true, ticket := some { id := c.upcoming } } := by
  have unknown : c.ticket? c.upcoming = none := by
    by_cases found : (c.ticket? c.upcoming).isSome
    · exact absurd rfl (room.ne_upcoming (h c.upcoming found))
    · simpa using found
  simp [standing, ticket?_register, unknown]

end DuplexRpc.Correlator
