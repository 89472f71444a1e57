import DuplexRpc.Correlator.Basic

/-!
# One request in the table

What the operations of a correlator do to one request: whether it is still outstanding, and how
its ticket stands.  An operation on one request leaves every other as it was.
-/

namespace DuplexRpc.Correlator

open DuplexRpc.Json DuplexRpc.Wire DuplexRpc.Telemetry

variable (c : Correlator) (r id : RequestId)

def outstanding : List RequestId := c.pending.map (·.id)

/-! ## Parts of operations -/

@[simp] theorem outstanding_forget :
    (c.forget id).outstanding = c.outstanding.filter (· ≠ id) := by
  simp [outstanding, forget, List.filter_map, Function.comp_def]

@[simp] theorem ticket?_forget : (c.forget id).ticket? r = c.ticket? r := rfl

@[simp] theorem outstanding_updateTicket (f : Ticket → Ticket) :
    (c.updateTicket id f).outstanding = c.outstanding := rfl

theorem ticket?_updateTicket {f : Ticket → Ticket} (keeps : ∀ t, (f t).id = t.id) :
    (c.updateTicket id f).ticket? r =
      if r = id then (c.ticket? r).map f else c.ticket? r := by
  unfold ticket? updateTicket
  induction c.tickets with
  | nil => simp
  | cons t tickets ih =>
      by_cases found : t.id = r
      · by_cases same : r = id
        · simp [found, same, keeps]
        · simp [found, same]
      · have passed : (if t.id = id then f t else t).id = t.id := by
          split
          · exact keeps t
          · rfl
        simpa [found, passed] using ih

@[simp] theorem settle_id (outcome : CallOutcome) (t : Ticket) :
    (t.settle outcome).id = t.id := by
  unfold Ticket.settle
  split <;> rfl

@[simp] theorem settle_settle (first second : CallOutcome) (t : Ticket) :
    (t.settle first).settle second = t.settle first := by
  cases stage : t.stage <;> simp [Ticket.settle, stage]

theorem settle_ne_waiting (outcome : CallOutcome) (t : Ticket) :
    (t.settle outcome).stage ≠ .waiting := by
  cases stage : t.stage <;> simp [Ticket.settle, stage]

@[simp] theorem outstanding_deliver (outcome : CallOutcome) :
    (c.deliver id outcome).outstanding = c.outstanding := rfl

theorem ticket?_deliver (outcome : CallOutcome) :
    (c.deliver id outcome).ticket? r =
      if r = id then (c.ticket? r).map (Ticket.settle outcome) else c.ticket? r :=
  ticket?_updateTicket c r id (settle_id outcome)

/-! ## Calling -/

def upcoming : RequestId := c.takeId.1

@[simp] theorem register_fst (method : String) : (c.register method).1 = c.upcoming := rfl

@[simp] theorem outstanding_register (method : String) :
    (c.register method).2.outstanding = c.outstanding ++ [c.upcoming] := by
  by_cases wrapped : c.nextId = 0 <;>
    simp [register, takeId, upcoming, outstanding, wrapped]

theorem ticket?_register (method : String) :
    (c.register method).2.ticket? r =
      (c.ticket? r).or (if r = c.upcoming then some { id := r } else none) := by
  have tickets : (c.register method).2.tickets = c.tickets ++ [{ id := c.upcoming }] := by
    by_cases wrapped : c.nextId = 0 <;> simp [register, takeId, upcoming, wrapped]
  by_cases own : r = c.upcoming
  · subst own
    simp [ticket?, tickets, List.find?_append]
  · have other : c.upcoming ≠ r := fun same => own same.symm
    simp [ticket?, tickets, List.find?_append, own, other]

@[simp] theorem outstanding_refuse (fault : Fault) :
    (c.refuse id fault).1.outstanding = c.outstanding.filter (· ≠ id) := by
  simp [refuse]

theorem ticket?_refuse (fault : Fault) :
    (c.refuse id fault).1.ticket? r =
      if r = id then (c.ticket? r).map fun t => { t with stage := .refused fault }
      else c.ticket? r :=
  ticket?_updateTicket (c.forget id) r id fun _ => rfl

/-! ## Inbound messages -/

theorem mem_outstanding {c : Correlator} {r : RequestId} :
    r ∈ c.outstanding ↔ ∃ request ∈ c.pending, request.id = r := by
  simp [outstanding]

/-- A message that finds nothing is counted, unless it is a call of the peer. -/
theorem settle_of_stray {c : Correlator} {m : Message}
    (stray : ∀ id ∈ c.outstanding, m.responseId? ≠ some id) :
    (c.settle m).1 = if m.isRequest then c else { c with discarded := c.discarded + 1 } := by
  unfold Correlator.settle
  cases response : m.responseId? with
  | none => by_cases call : m.isRequest <;> simp [call, discard]
  | some id =>
      have missing : c.pending.find? (·.id = id) = none := by
        rw [List.find?_eq_none]
        intro request listed own
        have own : request.id = id := by simpa using own
        exact stray request.id (mem_outstanding.mpr ⟨request, listed, rfl⟩) (own ▸ response)
      by_cases call : m.isRequest <;> simp [missing, call, discard]

theorem settle_of_not_mem {c : Correlator} {m : Message}
    (stray : ∀ id ∈ c.outstanding, m.responseId? ≠ some id) :
    ∃ discarded, (c.settle m).1 = { c with discarded } := by
  rw [settle_of_stray stray]
  split
  · exact ⟨c.discarded, rfl⟩
  · exact ⟨c.discarded + 1, rfl⟩

theorem settle_of_mem {c : Correlator} {m : Message} {id : RequestId}
    (response : m.responseId? = some id) (listed : id ∈ c.outstanding) :
    (c.settle m).1 = (c.forget id).deliver id (outcomeOf m) := by
  obtain ⟨request, mem, own⟩ := mem_outstanding.mp listed
  have found : (c.pending.find? (·.id = id)).isSome := by
    rw [List.find?_isSome]
    exact ⟨request, mem, by simpa using own⟩
  obtain ⟨found, h⟩ := Option.isSome_iff_exists.mp found
  simp only [Correlator.settle, response, h]

theorem settle_cases (m : Message) :
    (∃ id ∈ c.outstanding, m.responseId? = some id ∧
      (c.settle m).1 = (c.forget id).deliver id (outcomeOf m)) ∨
    ((∀ id ∈ c.outstanding, m.responseId? ≠ some id) ∧
      ∃ discarded, (c.settle m).1 = { c with discarded }) := by
  by_cases answered : ∃ id ∈ c.outstanding, m.responseId? = some id
  · obtain ⟨id, listed, response⟩ := answered
    exact .inl ⟨id, listed, response, settle_of_mem response listed⟩
  · have stray : ∀ id ∈ c.outstanding, m.responseId? ≠ some id :=
      fun id listed response => answered ⟨id, listed, response⟩
    exact .inr ⟨stray, settle_of_not_mem stray⟩

theorem mem_outstanding_settle (m : Message) :
    r ∈ (c.settle m).1.outstanding ↔ r ∈ c.outstanding ∧ m.responseId? ≠ some r := by
  rcases c.settle_cases m with ⟨id, listed, response, same⟩ | ⟨stray, discarded, same⟩
  · rw [same, outstanding_deliver, outstanding_forget, response]
    have own : r = id ↔ id = r := eq_comm
    simp [own]
  · rw [same]
    exact ⟨fun listed => ⟨listed, stray r listed⟩, And.left⟩

theorem ticket?_settle (m : Message) :
    (c.settle m).1.ticket? r =
      if m.responseId? = some r ∧ r ∈ c.outstanding then
        (c.ticket? r).map (Ticket.settle (outcomeOf m))
      else c.ticket? r := by
  rcases c.settle_cases m with ⟨id, listed, response, same⟩ | ⟨stray, discarded, same⟩
  · rw [same, ticket?_deliver, ticket?_forget]
    by_cases own : r = id
    · simp [own, response, listed]
    · have other : m.responseId? ≠ some r := by
        rw [response]
        exact fun found => own (Option.some.inj found).symm
      simp [own, other]
  · rw [same, if_neg]
    · rfl
    · exact fun ⟨response, listed⟩ => stray r listed response

/-! ## Failing all -/

@[simp] theorem outstanding_reject (fault : Fault) (requests : List PendingRequest) :
    (c.reject fault requests).outstanding = c.outstanding := by
  induction requests generalizing c with
  | nil => rfl
  | cons request requests ih => exact (ih _).trans rfl

theorem ticket?_reject (fault : Fault) (requests : List PendingRequest) :
    (c.reject fault requests).ticket? r =
      if r ∈ requests.map (·.id) then (c.ticket? r).map (Ticket.settle (.error fault))
      else c.ticket? r := by
  induction requests generalizing c with
  | nil => rfl
  | cons request requests ih =>
      have first : (c.reject fault (request :: requests)).ticket? r =
          ((c.deliver request.id (.error fault)).reject fault requests).ticket? r := rfl
      rw [first, ih, ticket?_deliver]
      by_cases own : r = request.id
      · have twice : Ticket.settle (.error fault) ∘ Ticket.settle (.error fault) =
            Ticket.settle (.error fault) :=
          funext fun t => settle_settle (.error fault) (.error fault) t
        simp [own, twice]
      · simp [own]

@[simp] theorem outstanding_failAll (fault : Fault) : (c.failAll fault).2.outstanding = [] := by
  simp [failAll, drain]
  rfl

theorem ticket?_failAll (fault : Fault) :
    (c.failAll fault).2.ticket? r =
      if r ∈ c.outstanding then (c.ticket? r).map (Ticket.settle (.error fault))
      else c.ticket? r :=
  ticket?_reject { c with pending := [] } r fault c.pending

/-! ## Tickets -/

/-- The earlier of a deadline and one that may have been set before. -/
def sooner (deadline : Time) : Option Time → Time
  | some earlier => min earlier deadline
  | none => deadline

@[simp] theorem outstanding_limit (deadline : Time) :
    (c.limit id deadline).outstanding = c.outstanding := rfl

theorem ticket?_limit (deadline : Time) :
    (c.limit id deadline).ticket? r =
      if r = id then
        (c.ticket? r).map fun t => { t with deadline := some (sooner deadline t.deadline) }
      else c.ticket? r :=
  ticket?_updateTicket c r id fun _ => rfl

@[simp] theorem outstanding_spend : (c.spend id).outstanding = c.outstanding := rfl

theorem ticket?_spend :
    (c.spend id).ticket? r =
      if r = id then (c.ticket? r).map fun t => { t with stage := .spent }
      else c.ticket? r :=
  ticket?_updateTicket c r id fun _ => rfl

theorem poll_cases (now : Time) :
    (c.poll id now).2 = c ∨ (c.poll id now).2 = c.spend id ∨
      (c.poll id now).2 = (c.forget id).spend id := by
  unfold poll
  split
  · exact .inl rfl
  · split
    · exact .inr (.inl rfl)
    · exact .inl rfl
    · exact .inr (.inl rfl)
    · split
      · exact .inl rfl
      · split
        · exact .inr (.inr rfl)
        · exact .inl rfl

theorem ticket?_poll_ne {c : Correlator} {r id : RequestId} (ne : r ≠ id) (now : Time) :
    (c.poll id now).2.ticket? r = c.ticket? r := by
  rcases c.poll_cases id now with same | same | same <;>
    simp [same, ticket?_spend, ne]

theorem mem_outstanding_poll_ne {c : Correlator} {r id : RequestId} (ne : r ≠ id)
    (now : Time) : r ∈ (c.poll id now).2.outstanding ↔ r ∈ c.outstanding := by
  rcases c.poll_cases id now with same | same | same <;>
    simp [same, ne]

theorem waiting_of_poll {c : Correlator} {r : RequestId} {now : Time} {t : Ticket}
    (has : (c.poll id now).2.ticket? r = some t) (waiting : t.stage = .waiting) :
    c.ticket? r = some t ∧ (r ∈ c.outstanding → r ∈ (c.poll id now).2.outstanding) := by
  by_cases own : r = id
  · subst own
    rcases c.poll_cases r now with same | same | same
    · rw [same] at has ⊢
      exact ⟨has, fun listed => listed⟩
    all_goals
      rw [same, ticket?_spend, if_pos rfl] at has
      obtain ⟨before, -, rfl⟩ := Option.map_eq_some_iff.mp has
      cases waiting
  · rw [ticket?_poll_ne own] at has
    exact ⟨has, (mem_outstanding_poll_ne own now).mpr⟩

theorem outstanding_poll_subset (now : Time) :
    (c.poll id now).2.outstanding ⊆ c.outstanding := by
  rcases c.poll_cases id now with same | same | same
  · simp [same]
  · simp [same]
  · have given : (c.poll id now).2.outstanding = (c.forget id).outstanding := by
      rw [same, outstanding_spend]
    rw [given, outstanding_forget]
    exact List.filter_sublist.subset

theorem ticket?_drop :
    (c.drop id).ticket? r = if r = id then none else c.ticket? r := by
  have tickets : (c.drop id).tickets = c.tickets.filter (·.id ≠ id) := by
    unfold drop
    split <;> rfl
  by_cases same : r = id
  · subst same
    simp [ticket?, tickets]
  · have kept : ∀ t : Ticket, (t.id ≠ id ∧ t.id = r) ↔ t.id = r :=
      fun t => ⟨And.right, fun own => ⟨fun other => same (own.symm.trans other), own⟩⟩
    simp [ticket?, tickets, List.find?_filter, kept, same]

theorem mem_outstanding_drop_ne {c : Correlator} {r id : RequestId} (ne : r ≠ id) :
    r ∈ (c.drop id).outstanding ↔ r ∈ c.outstanding := by
  unfold drop
  split
  · show r ∈ (c.forget id).outstanding ↔ r ∈ c.outstanding
    simp [ne]
  · rfl

theorem outstanding_drop_subset : (c.drop id).outstanding ⊆ c.outstanding := by
  unfold drop
  split
  · show (c.forget id).outstanding ⊆ c.outstanding
    rw [outstanding_forget]
    exact List.filter_sublist.subset
  · exact List.Subset.refl _

end DuplexRpc.Correlator
