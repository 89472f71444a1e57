import DuplexRpc.Proofs.Client.Sound
import DuplexRpc.Proofs.Correlator.Standing

/-!
# What the owner of a ticket sees

What each change of a client is to one ticket: nothing, or its registration, or its refusal, or an
outcome that reaches it, or its owner collecting what it has, or its owner dropping it.
-/

namespace DuplexRpc.Client

open DuplexRpc.Correlator DuplexRpc.Json DuplexRpc.Wire

variable {ω : Type} {s moved : Session ω} {seen : List Occurrence} {r : RequestId}

def Session.stage? (s : Session ω) (r : RequestId) : Option Ticket.Stage :=
  (s.ticket? r).map (·.stage)

def Occurrence.outcome? (r : RequestId) : Occurrence → Option CallOutcome
  | .collected id outcome => if id = r then some outcome else none
  | .dropped _ => none

def collected (r : RequestId) (seen : List Occurrence) : List CallOutcome :=
  seen.filterMap (·.outcome? r)

@[simp] theorem collected_nil (r : RequestId) : collected r [] = [] := rfl

@[simp] theorem collected_append (r : RequestId) (seen later : List Occurrence) :
    collected r (seen ++ later) = collected r seen ++ collected r later :=
  List.filterMap_append

/-- What holds of the first outcome stays when more happens. -/
theorem first_collected {gives : CallOutcome → Prop} {more : List Occurrence}
    (before : ∀ outcome ∈ (collected r seen).head?, gives outcome)
    (next : collected r seen = [] → ∀ outcome ∈ collected r more, gives outcome) :
    ∀ outcome ∈ (collected r (seen ++ more)).head?, gives outcome := by
  intro outcome head
  rw [collected_append] at head
  cases gave : collected r seen with
  | nil =>
      rw [gave, List.nil_append] at head
      exact next gave outcome (List.mem_of_mem_head? head)
  | cons given later =>
      rw [gave, List.cons_append] at head
      exact before outcome (by rw [gave]; exact head)

/-- What a poll gives that ends with the ticket spent. -/
def Gives : Ticket.Stage → CallOutcome → Prop
  | .waiting, outcome => outcome = .error .timeout
  | .settled given, outcome => outcome = given
  | .refused fault, outcome => outcome = .error fault
  | .spent, outcome => outcome = afterCompletion

inductive TicketChange (s moved : Session ω) (r : RequestId) (seen : List Occurrence) : Prop where
  | kept (stage : moved.stage? r = s.stage? r) (silent : collected r seen = [])
  | registered (before : s.stage? r = none) (stage : moved.stage? r = some .waiting)
      (calling : r ∈ moved.calling) (silent : collected r seen = [])
  | withdrawn (call : Call) (fault : Fault) (mem : call ∈ s.calls) (own : call.id = r)
      (refusal : call.refusal = some fault)
      (stage : moved.stage? r = (s.stage? r).map fun _ => .refused fault)
      (silent : collected r seen = [])
  | settled (outcome : CallOutcome) (before : s.stage? r = some .waiting)
      (stage : moved.stage? r = some (.settled outcome))
      (cause : (r ∈ s.outstanding ∧ ∃ m, outcome = outcomeOf m) ∨
        ∃ fault, outcome = .error fault ∧
          ∃ (k : Nat) (d : Dispatch ω), s.dispatches[k]? = some d ∧ r ∈ d.rejectees ∧
            ∃ requests targets, d.stage = .rejecting fault requests targets)
      (silent : collected r seen = [])
  | collected (before : Ticket.Stage) (outcome : CallOutcome) (free : r ∉ s.calling)
      (has : s.stage? r = some before) (gives : Gives before outcome)
      (stage : moved.stage? r = some .spent) (shown : collected r seen = [outcome])
  | dropped (free : r ∉ s.calling) (gone : moved.stage? r = none) (shown : .dropped r ∈ seen)
      (silent : collected r seen = [])

theorem poll_gives (c : Correlator) (r : RequestId) (now : Time) :
    ((c.poll r now).1 = .pending ∧ (c.poll r now).2 = c) ∨
      ∃ t outcome, c.ticket? r = some t ∧ Gives t.stage outcome ∧
        (c.poll r now).1 = .ready outcome ∧
        ((c.poll r now).2.ticket? r).map (·.stage) = some .spent := by
  cases has : c.ticket? r with
  | none => exact .inl (by simp [Correlator.poll, has])
  | some t =>
      cases stage : t.stage with
      | settled outcome =>
          exact .inr ⟨t, outcome, by simp [Correlator.poll, has, stage, ticket?_spend, Gives]⟩
      | refused fault =>
          exact .inr ⟨t, .error fault, by
            simp [Correlator.poll, has, stage, ticket?_spend, Gives]⟩
      | spent =>
          exact .inr ⟨t, afterCompletion, by
            simp [Correlator.poll, has, stage, Gives, afterCompletion]⟩
      | waiting =>
          cases limit : t.deadline with
          | none => exact .inl (by simp [Correlator.poll, has, stage, limit])
          | some deadline =>
              by_cases due : deadline ≤ now
              · exact .inr ⟨t, .error .timeout, by
                  simp [Correlator.poll, has, stage, limit, due, ticket?_spend, Gives]⟩
              · exact .inl (by simp [Correlator.poll, has, stage, limit, due])

theorem TicketChange.of_settle (outcome : CallOutcome)
    (ticket : moved.ticket? r = (s.ticket? r).map (Ticket.settle outcome))
    (cause : (r ∈ s.outstanding ∧ ∃ m, outcome = outcomeOf m) ∨
      ∃ fault, outcome = .error fault ∧
        ∃ (k : Nat) (d : Dispatch ω), s.dispatches[k]? = some d ∧ r ∈ d.rejectees ∧
          ∃ requests targets, d.stage = .rejecting fault requests targets) :
    TicketChange s moved r [] := by
  cases has : s.ticket? r with
  | none => exact .kept (by simp [Session.stage?, ticket, has]) rfl
  | some t =>
      cases stage : t.stage with
      | waiting =>
          exact .settled outcome (by simp [Session.stage?, has, stage])
            (by simp [Session.stage?, ticket, has, Ticket.settle, stage]) cause rfl
      | _ => exact .kept (by simp [Session.stage?, ticket, has, Ticket.settle, stage]) rfl

theorem Change.ticket (change : Change s moved seen) (r : RequestId) :
    TicketChange s moved r seen := by
  cases change with
  | idle | channel | handOver | refuse | receive | on | off | lookUp | pass | drain | leave =>
      exact .kept rfl rfl
  | register method params =>
      by_cases known : s.client.correlator.ticket? r = none ∧ r = s.client.correlator.upcoming
      · obtain ⟨unknown, own⟩ := known
        refine .registered ?_ ?_ ?_ rfl
        · simp [Session.stage?, Session.ticket?, unknown]
        · simp [Session.stage?, Session.ticket?, Session.correlate, ticket?_register, unknown,
            ← own]
        · simp [Session.calling, own]
      · refine .kept ?_ rfl
        simp only [Session.stage?, Session.ticket?, Session.correlate, ticket?_register]
        cases has : s.client.correlator.ticket? r with
        | none =>
            have other : r ≠ s.client.correlator.upcoming := fun own => known ⟨has, own⟩
            simp [other]
        | some t => rfl
  | withdraw call fault mem refusal =>
      by_cases own : r = call.id
      · subst own
        refine .withdrawn call fault mem rfl refusal ?_ rfl
        simp [Session.stage?, Session.ticket?, Session.correlate, ticket?_refuse,
          Function.comp_def]
      · refine .kept ?_ rfl
        simp [Session.stage?, Session.ticket?, Session.correlate, ticket?_refuse, own]
  | settle m =>
      by_cases answered : m.responseId? = some r ∧ r ∈ s.client.correlator.outstanding
      · refine .of_settle (outcomeOf m) ?_ (.inl ⟨answered.2, m, rfl⟩)
        simp [Session.ticket?, Session.correlate, ticket?_settle, answered]
      · refine .kept ?_ rfl
        simp [Session.stage?, Session.ticket?, Session.correlate, ticket?_settle, answered]
  | limit id deadline free =>
      refine .kept ?_ rfl
      simp only [Session.stage?, Session.ticket?, Session.correlate, ticket?_limit]
      split <;> simp [Function.comp_def]
  | poll id now free =>
      by_cases own : r = id
      · subst own
        rcases poll_gives s.client.correlator r now with
          ⟨pending, same⟩ | ⟨t, outcome, has, gives, ready, spent⟩
        · rw [pending, same]
          exact .kept rfl rfl
        · rw [ready]
          refine .collected t.stage outcome free ?_ gives spent ?_
          · simp [Session.stage?, Session.ticket?, has]
          · simp [collected, Occurrence.outcome?]
      · refine .kept ?_ ?_
        · simp [Session.stage?, Session.ticket?, Session.correlate, ticket?_poll_ne own]
        · cases (s.client.correlator.poll id now).1 with
          | pending => rfl
          | ready outcome => simp [collected, Occurrence.outcome?, Ne.symm own]
  | drop id free =>
      by_cases own : r = id
      · subst own
        refine .dropped free ?_ (by simp) (by simp [collected, Occurrence.outcome?])
        simp [Session.stage?, Session.ticket?, Session.correlate, ticket?_drop]
      · refine .kept ?_ (by simp [collected, Occurrence.outcome?])
        simp [Session.stage?, Session.ticket?, Session.correlate, ticket?_drop, own]
  | reject k d fault request requests targets found stage =>
      by_cases own : r = request.id
      · refine .of_settle (.error fault) ?_ (.inr ⟨fault, rfl, k, d, found, ?_, _, _, stage⟩)
        · simp [Session.ticket?, Session.enter, Session.correlate, ticket?_deliver, own]
        · simp [Dispatch.rejectees, stage, own]
      · refine .kept ?_ rfl
        simp [Session.stage?, Session.ticket?, Session.enter, Session.correlate,
          ticket?_deliver, own]

end DuplexRpc.Client
