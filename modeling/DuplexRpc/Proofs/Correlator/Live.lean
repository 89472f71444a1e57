import DuplexRpc.Client.Basic
import DuplexRpc.Proofs.Correlator.Exchange

/-!
# Live requests

A request is in the table exactly as long as its ticket waits, so of all that can happen to a
request only what ends it takes it out of the table, once.  After any history the table lists the
living requests in the order of their calls, and nothing else.
-/

namespace DuplexRpc.Correlator

open DuplexRpc.Json DuplexRpc.Wire

/-! ## Tickets and the table -/

/-- A request is in the table exactly as long as its ticket waits. -/
def Standing.Matched (s : Standing) : Prop :=
  s.listed = true ↔ ∃ t, s.ticket = some t ∧ t.stage = .waiting

theorem Standing.Matched.step {s : Standing} (h : s.Matched) (effect : Effect) :
    (s.step effect).1.Matched := by
  obtain ⟨listed, ticket⟩ := s
  cases ticket with
  | none =>
      have unlisted : listed = false := by simpa [Matched] using h
      subst unlisted
      cases effect <;> simp [Matched, Standing.step, poll]
  | some t =>
      obtain ⟨id, stage, deadline⟩ := t
      cases stage with
      | waiting =>
          have listed : listed = true := by simpa [Matched] using h
          subst listed
          cases effect with
          | poll now =>
              cases deadline with
              | none => simp [Matched, Standing.step, poll]
              | some deadline =>
                  by_cases due : deadline ≤ now <;>
                    simp [Matched, Standing.step, poll, collect, due]
          | _ => simp [Matched, Standing.step, Ticket.settle]
      | _ =>
          have unlisted : listed = false := by simpa [Matched] using h
          subst unlisted
          cases effect <;> simp [Matched, Standing.step, poll, collect]

variable {c : Correlator} {m : Move} {r : RequestId}

theorem matched_step {count : Nat} (issued : c.Issued) (room : c.Room count)
    (h : ∀ r, (c.standing r).Matched) (r : RequestId) : ((c.step m).1.standing r).Matched := by
  by_cases own : m.registers ∧ r = c.upcoming
  · obtain ⟨kind, rfl⟩ := own
    cases m with
    | register method =>
        simp only [Correlator.step, standing_register issued room, Standing.Matched]
        simp
    | _ => cases kind
  · rw [(c.standing_step fun kind same => own ⟨kind, same⟩).1]
    cases m.effect? r with
    | none => exact h r
    | some effect => exact (h r).step effect

theorem mem_outstanding_iff (h : (c.standing r).Matched) :
    r ∈ c.outstanding ↔ ∃ t, c.ticket? r = some t ∧ t.stage = .waiting := by
  simpa [Standing.Matched, standing] using h

theorem filter_ne_of_not_mem {ids : List RequestId} (absent : r ∉ ids) :
    ids.filter (· ≠ r) = ids := by
  rw [List.filter_eq_self]
  intro id listed
  simpa using fun same : id = r => absent (same ▸ listed)

theorem outstanding_settle (m : Message) :
    (c.settle m).1.outstanding =
      match m.responseId? with
      | none => c.outstanding
      | some id => c.outstanding.filter (· ≠ id) := by
  rcases c.settle_cases m with ⟨id, listed, response, same⟩ | ⟨stray, discarded, same⟩
  · simp [same, response]
  · rw [same]
    cases response : m.responseId? with
    | none => rfl
    | some id =>
        exact (filter_ne_of_not_mem fun listed => stray id listed response).symm

theorem outstanding_poll (h : (c.standing r).Matched) (now : Time) :
    (c.poll r now).2.outstanding =
      match (c.poll r now).1 with
      | .ready (.error .timeout) => c.outstanding.filter (· ≠ r)
      | _ => c.outstanding := by
  have waits := mem_outstanding_iff h
  cases found : c.ticket? r with
  | none => simp [Correlator.poll, found]
  | some t =>
      cases stage : t.stage with
      | waiting =>
          cases limit : t.deadline with
          | none => simp [Correlator.poll, found, stage, limit]
          | some deadline =>
              by_cases due : deadline ≤ now <;>
                simp [Correlator.poll, found, stage, limit, due]
      | spent => simp [Correlator.poll, found, stage]
      | settled outcome | refused fault =>
          have absent : r ∉ c.outstanding := by simp [waits, found, stage]
          simp only [Correlator.poll, found, stage, outstanding_spend]
          split
          · exact (filter_ne_of_not_mem absent).symm
          · rfl

theorem outstanding_drop_eq (h : (c.standing r).Matched) :
    (c.drop r).outstanding = c.outstanding.filter (· ≠ r) := by
  have waits := mem_outstanding_iff h
  rw [outstanding_drop]
  split
  · rw [outstanding_forget]
  · rename_i other
    refine (filter_ne_of_not_mem fun listed => ?_).symm
    obtain ⟨⟨id, stage, deadline⟩, found, waiting⟩ := waits.mp listed
    simp only at waiting
    exact other id deadline (waiting ▸ found)

theorem filter_of_unended {shown : List Occurrence}
    (unended : ∀ r, shown.any (·.ends r) = false) (ids : List RequestId) :
    (ids.filter fun r => !shown.any (·.ends r)) = ids := by
  simp [unended]

/-- Whatever is no call takes out of the table the requests that it ends, and no other. -/
theorem outstanding_step_eq (h : ∀ r, (c.standing r).Matched) (other : m.registers = false) :
    (c.step m).1.outstanding = c.outstanding.filter fun r => !(m.shows c).any (·.ends r) := by
  cases m with
  | register method => cases other
  | refuse id fault =>
      simp [Correlator.step, Move.shows, Occurrence.ends, eq_comm]
  | receive text =>
      obtain ⟨discarded, same⟩ := c.handleText_fst text
      simp only [Correlator.step, same, Move.shows]
      cases (Message.decode text).toOption with
      | none => exact (filter_of_unended (fun _ => rfl) _).symm
      | some m =>
          simp only [outstanding_settle, Option.bind_some]
          cases m.responseId? with
          | none => exact (filter_of_unended (fun _ => rfl) _).symm
          | some id => simp [Occurrence.ends, eq_comm]
  | inbound m =>
      simp only [Correlator.step, Move.shows, outstanding_settle]
      cases m.responseId? with
      | none => exact (filter_of_unended (fun _ => rfl) _).symm
      | some id => simp [Occurrence.ends, eq_comm]
  | failAll fault => simp [Correlator.step, Move.shows, Occurrence.ends]
  | limit id deadline => exact (filter_of_unended (fun _ => rfl) _).symm
  | poll id now =>
      simp only [Correlator.step, Move.shows, outstanding_poll (h id)]
      split
      · rename_i gave
        simp [gave, Poll.collected, Occurrence.ends, eq_comm]
      · rename_i untimed
        refine (filter_of_unended (fun r => ?_) _).symm
        cases gave : (c.poll id now).1 with
        | pending => rfl
        | ready outcome =>
            simp only [Poll.collected, List.map_cons, List.map_nil, List.any_cons, List.any_nil,
              Bool.or_false]
            unfold Occurrence.ends
            split <;> simp_all
  | drop id =>
      simp [Correlator.step, Move.shows, outstanding_drop_eq (h id), Occurrence.ends, eq_comm]

theorem Move.shows_nothing_sent (c : Correlator) (m : Move) (other : m.registers = false) :
    issued (m.shows c) = [] ∧ ∀ r, .accepted r ∉ m.shows c := by
  cases m with
  | register method => cases other
  | receive text =>
      cases response : (Message.decode text).toOption.bind Message.responseId? <;>
        simp [shows, response, issued, Occurrence.issued?]
  | inbound m =>
      cases response : m.responseId? <;>
        simp [shows, response, issued, Occurrence.issued?]
  | poll id now =>
      cases gave : (c.poll id now).1 <;>
        simp [shows, gave, Poll.collected, issued, Occurrence.issued?]
  | _ => simp [shows, issued, Occurrence.issued?]

/-! ## After any history -/

structure Faithful (e : Exchange) (seen : List Occurrence) : Prop where
  numbered : (issued seen).map RequestId.toNat = List.range' 1 (issued seen).length
  next : e.correlator.nextId.toNat = (issued seen).length + 1
  ticketed : e.correlator.Issued
  matched : ∀ r, (e.correlator.standing r).Matched
  table : e.correlator.outstanding = living seen
  /-- A living request was taken by the sink, or it is still being sent. -/
  placed : ∀ r ∈ living seen, r ∈ e.sending ∨ .accepted r ∈ seen
  /-- What is being sent was issued, and the sink did not take it yet. -/
  unplaced : ∀ r ∈ e.sending, r ∈ issued seen ∧ .accepted r ∉ seen
  known : ∀ r, .accepted r ∈ seen → r ∈ issued seen

theorem faithful_fresh : Faithful {} [] where
  numbered := rfl
  next := rfl
  ticketed := issued_fresh
  matched r := by simp [Standing.Matched, standing, outstanding, ticket?]
  table := rfl
  placed := by simp [living, issued]
  unplaced := by simp
  known := by simp

namespace Faithful

variable {e : Exchange} {seen : List Occurrence}

theorem issued_bounds (h : Faithful e seen) {r : RequestId} (listed : r ∈ issued seen) :
    0 < r.toNat ∧ r.toNat ≤ (issued seen).length := by
  have member : r.toNat ∈ (issued seen).map RequestId.toNat := List.mem_map_of_mem listed
  rw [h.numbered, List.mem_range'_1] at member
  omega

theorem room (h : Faithful e seen) {count : Nat}
    (few : (issued seen).length + count < 2 ^ 64 - 1) : e.correlator.Room count := by
  have next := h.next
  constructor <;> omega

theorem upcoming_toNat (h : Faithful e seen) (few : (issued seen).length < 2 ^ 64 - 1) :
    e.correlator.upcoming.toNat = (issued seen).length + 1 := by
  have room : e.correlator.Room 0 := h.room few
  rw [room.upcoming, h.next]

theorem upcoming_fresh (h : Faithful e seen) (few : (issued seen).length < 2 ^ 64 - 1) :
    e.correlator.upcoming ∉ issued seen := by
  intro listed
  have bounds := h.issued_bounds listed
  have own := h.upcoming_toNat few
  omega

theorem accept (h : Faithful e seen) {id : RequestId} (sent : id ∈ e.sending) :
    Faithful { e with sending := e.sending.filter (· ≠ id) } (seen ++ [.accepted id]) := by
  have silent : issued [.accepted id] = [] := rfl
  have same : living (seen ++ [.accepted id]) = living seen := by
    rw [living_append silent]
    exact filter_of_unended (fun _ => rfl) _
  refine ⟨?numbered, ?next, h.ticketed, h.matched, h.table.trans same.symm, ?placed, ?unplaced,
    ?known⟩
  case numbered => simpa [silent] using h.numbered
  case next => simpa [silent] using h.next
  case placed =>
      intro r living
      rw [same] at living
      by_cases own : r = id
      · simp [own]
      · simpa [own] using h.placed r living
  case unplaced =>
      intro r waiting
      obtain ⟨waiting, other⟩ := List.mem_filter.mp waiting
      have other : r ≠ id := by simpa using other
      simpa [silent, other] using h.unplaced r waiting
  case known =>
      intro r taken
      by_cases own : r = id
      · simpa [own, silent] using (h.unplaced id sent).1
      · simpa [own, silent] using h.known r (by simpa [own] using taken)

theorem register (h : Faithful e seen) (method : String)
    (few : (issued seen).length + 1 < 2 ^ 64 - 1) :
    Faithful (e.step (.move (.register method))).1
      (seen ++ (e.step (.move (.register method))).2) := by
  have fresh := h.upcoming_fresh (by omega)
  have room : e.correlator.Room (registrations [.register method]) := h.room few
  have own := h.upcoming_toNat (by omega)
  have last : issued [.issued e.correlator.upcoming] = [e.correlator.upcoming] := rfl
  simp only [Exchange.step, Exchange.allows, if_true, Move.shows, Exchange.sendingAfter,
    Correlator.step]
  refine ⟨?numbered, ?next, ?ticketed,
    matched_step (m := .register method) h.ticketed room h.matched, ?table, ?placed, ?unplaced,
    ?known⟩
  case numbered =>
      rw [issued_append, List.map_append, h.numbered, last, List.length_append,
        List.length_singleton, List.range'_1_concat]
      simp [own, Nat.add_comm]
  case next =>
      rw [room.nextId_register, h.next, issued_append, last, List.length_append]
      rfl
  case ticketed =>
      exact h.ticketed.step room
  case table => rw [outstanding_register, h.table, living_issue fresh]
  case placed =>
      intro r living
      rw [living_issue fresh] at living
      rcases List.mem_append.mp living with living | latest
      · rcases h.placed r living with waiting | taken
        · simp [waiting]
        · simp [taken]
      · simp_all
  case unplaced =>
      intro r waiting
      rcases List.mem_append.mp waiting with waiting | latest
      · obtain ⟨known, untaken⟩ := h.unplaced r waiting
        simp [known, untaken]
      · have latest : r = e.correlator.upcoming := by simpa using latest
        subst latest
        simpa [last] using fun taken => fresh (h.known _ taken)
  case known =>
      intro r taken
      have taken : .accepted r ∈ seen := by simpa using taken
      simp [h.known r taken]

/-- A move that is no call: the requests that it ends leave the table, and the sink took none. -/
theorem move (h : Faithful e seen) {m : Move} (other : m.registers = false)
    (few : (issued seen).length < 2 ^ 64 - 1) (allowed : e.allows m = true) :
    Faithful (e.step (.move m)).1 (seen ++ (e.step (.move m)).2) := by
  have room : e.correlator.Room (registrations [m]) := by
    have none : registrations [m] = 0 := by simp [registrations, other]
    rw [none]
    exact h.room few
  obtain ⟨silent, untaken⟩ := m.shows_nothing_sent e.correlator other
  have left : living (seen ++ m.shows e.correlator) = (e.correlator.step m).1.outstanding := by
    rw [living_append silent, outstanding_step_eq h.matched other, h.table]
  have refused : ∀ r ∈ living (seen ++ m.shows e.correlator), r ∈ e.sending →
      r ∈ e.sendingAfter m := by
    intro r alive waiting
    cases m with
    | refuse id fault =>
        rw [living_append silent] at alive
        have other : id ≠ r := by
          simpa [Move.shows, Occurrence.ends] using (List.mem_filter.mp alive).2
        simpa [Exchange.sendingAfter, other.symm] using waiting
    | register method => cases other
    | _ => exact waiting
  have waited : ∀ r ∈ e.sendingAfter m, r ∈ e.sending := by
    intro r waiting
    cases m with
    | refuse id fault => exact (List.mem_filter.mp waiting).1
    | register method => cases other
    | _ => exact waiting
  simp only [Exchange.step, allowed, if_true]
  refine ⟨?numbered, ?next, h.ticketed.step room,
    matched_step h.ticketed room h.matched, left.symm, ?placed, ?unplaced, ?known⟩
  case numbered => simpa [silent] using h.numbered
  case next => simpa [silent, nextId_step other] using h.next
  case placed =>
      intro r alive
      have before : r ∈ living seen := by
        rw [living_append silent] at alive
        exact (List.mem_filter.mp alive).1
      rcases h.placed r before with waiting | taken
      · exact .inl (refused r alive waiting)
      · simp [taken]
  case unplaced =>
      intro r waiting
      obtain ⟨known, unaccepted⟩ := h.unplaced r (waited r waiting)
      simp [known, unaccepted, untaken]
  case known =>
      intro r taken
      have taken : .accepted r ∈ seen := by simpa [untaken] using taken
      simp [h.known r taken]

theorem step (h : Faithful e seen) (act : Act)
    (few : (issued seen).length + calls [act] < 2 ^ 64 - 1) :
    Faithful (e.step act).1 (seen ++ (e.step act).2) ∧
      (issued (e.step act).2).length = calls [act] := by
  cases act with
  | accept id =>
      by_cases sent : id ∈ e.sending
      · simp only [Exchange.step, sent, if_true]
        exact ⟨h.accept sent, rfl⟩
      · simpa [Exchange.step, sent] using ⟨h, rfl⟩
  | move m =>
      by_cases kind : m.registers
      · cases m with
        | register method => exact ⟨h.register method few, rfl⟩
        | _ => cases kind
      · have kind : m.registers = false := by simpa using kind
        have none : calls [.move m] = 0 := by simp [calls, Act.calls, kind]
        by_cases allowed : e.allows m
        · refine ⟨h.move kind (by omega) allowed, ?_⟩
          simp [Exchange.step, allowed, none, (m.shows_nothing_sent e.correlator kind).1]
        · simpa [Exchange.step, allowed, none] using ⟨h, rfl⟩

theorem run {acts : List Act} (h : Faithful e seen)
    (few : (issued seen).length + calls acts < 2 ^ 64 - 1) :
    Faithful (e.run acts).1 (seen ++ (e.run acts).2) ∧
      (issued (e.run acts).2).length = calls acts := by
  induction acts generalizing e seen with
  | nil => simpa [Exchange.run] using ⟨h, rfl⟩
  | cons act acts ih =>
      have whole := calls_cons act acts
      obtain ⟨here, gave⟩ := h.step act (by omega)
      have later := ih here (by rw [issued_append, List.length_append, gave]; omega)
      simp only [Exchange.run, replay_cons] at later ⊢
      rw [← List.append_assoc]
      refine ⟨later.1, ?_⟩
      rw [issued_append, List.length_append, gave, later.2]
      omega

end Faithful

/-! ## What is kept -/

theorem pending_refuse_register (fresh : c.upcoming ∉ c.outstanding) (method : String)
    (fault : Fault) :
    ((c.register method).2.refuse c.upcoming fault).1.pending = c.pending := by
  have others : c.pending.filter (·.id ≠ c.upcoming) = c.pending := by
    rw [List.filter_eq_self]
    intro request listed
    have apart : request.id ≠ c.upcoming :=
      fun same => fresh (same ▸ mem_outstanding.mpr ⟨request, listed, rfl⟩)
    simpa using apart
  have registered :
      (c.register method).2.pending = c.pending ++ [{ id := c.upcoming, method }] := by
    by_cases wrapped : c.nextId = 0 <;> simp [Correlator.register, takeId, upcoming, wrapped]
  have forgotten : ((c.register method).2.refuse c.upcoming fault).1.pending =
      (c.register method).2.pending.filter (·.id ≠ c.upcoming) := rfl
  rw [forgotten, registered, List.filter_append, others]
  simp

theorem poll_refused (c : Correlator) (method : String) (fault : Fault) (now : Time) :
    ((((c.register method).2.refuse c.upcoming fault).1).poll c.upcoming now).1 =
      .ready (.error fault) := by
  cases found : c.ticket? c.upcoming <;>
    simp [Correlator.poll, ticket?_refuse, ticket?_register, found]

theorem answer_correlator {ω : Type} (client : Client ω) (response : Response) :
    (client.answer response).2.1.correlator = client.correlator := by
  unfold Client.answer
  split <;> rfl

/-- After any history with fewer than `2 ^ 64 - 1` calls the ids that were issued count up from
one, and the table lists the requests that were issued and did not end.  Each of them was taken by
the sink unless it is still being sent, and its ticket is there and waits.  A refused call leaves
the table as it was and gives its caller the fault of the sink.  Dropping a ticket or asking it for
its outcome takes no other request out of the table, and notifications and answers do not touch
the correlator. -/
theorem table_lists_live_requests {ω : Type} (acts : List Act) (few : calls acts < 2 ^ 64 - 1) :
    let e := (Exchange.run {} acts).1
    let seen := (Exchange.run {} acts).2
    let c := e.correlator
    (issued seen).map RequestId.toNat = List.range' 1 (calls acts) ∧
    (c.outstanding = living seen ∧ c.pendingCount = (living seen).length) ∧
    (∀ r ∈ c.outstanding, r ∈ e.sending ∨ .accepted r ∈ seen) ∧
    (∀ r ∈ e.sending, .accepted r ∉ seen) ∧
    (∀ r, r ∈ c.outstanding ↔ ∃ t, c.ticket? r = some t ∧ t.stage = .waiting) ∧
    (∀ method fault now,
      let refused :=
        (e.run [.move (.register method), .move (.refuse c.upcoming fault)]).1.correlator
      refused.pending = c.pending ∧ (refused.poll c.upcoming now).1 = .ready (.error fault)) ∧
    (∀ r id, r ≠ id →
      (r ∈ (c.drop id).outstanding ↔ r ∈ c.outstanding) ∧
      ∀ now, r ∈ (c.poll id now).2.outstanding ↔ r ∈ c.outstanding) ∧
    (∀ client : Client ω, client.correlator = c → ∀ method params id result error,
      (client.notify method params).2.1.correlator = c ∧
      (client.respond id result).2.1.correlator = c ∧
      (client.respondError id error).2.1.correlator = c) := by
  intro e seen c
  have short : (issued []).length + calls acts < 2 ^ 64 - 1 := by simpa [issued] using few
  obtain ⟨faithful, count⟩ := faithful_fresh.run short
  have faithful : Faithful e seen := faithful
  have count : (issued seen).length = calls acts := count
  refine ⟨count ▸ faithful.numbered, ⟨faithful.table, ?counted⟩, ?placed,
    fun r waiting => (faithful.unplaced r waiting).2,
    fun r => mem_outstanding_iff (faithful.matched r), ?refused, ?others, ?aside⟩
  case counted =>
      rw [← faithful.table]
      exact (List.length_map _).symm
  case placed =>
      intro r listed
      exact faithful.placed r (faithful.table ▸ listed)
  case refused =>
      intro method fault now
      have fresh : c.upcoming ∉ c.outstanding := by
        intro listed
        rw [faithful.table] at listed
        exact faithful.upcoming_fresh (by omega) (List.mem_filter.mp listed).1
      have done :
          (e.run [.move (.register method), .move (.refuse c.upcoming fault)]).1.correlator =
            ((c.register method).2.refuse c.upcoming fault).1 := by
        simp [Exchange.run, replay, Exchange.step, Exchange.allows, Exchange.sendingAfter,
          Correlator.step, c]
      rw [done]
      exact ⟨pending_refuse_register fresh method fault, poll_refused c method fault now⟩
  case others =>
      intro r id other
      exact ⟨mem_outstanding_drop_ne other, fun now => mem_outstanding_poll_ne other now⟩
  case aside =>
      intro client same method params id result error
      exact ⟨same, (answer_correlator client _).trans same, (answer_correlator client _).trans same⟩

/-- Of four requests the first is answered while it is being sent, the second is refused, the third
expires, and the fourth is left. -/
theorem fourth_request_lives :
    let acts : List Act := [
      .move (.register "a"), .move (.register "b"),
      .move (.inbound { id := .number 1, result := some (.bool true) }),
      .accept ⟨1, by decide⟩, .move (.refuse ⟨2, by decide⟩ .connectionClosed),
      .move (.register "c"), .accept ⟨3, by decide⟩, .move (.limit ⟨3, by decide⟩ 5),
      .move (.register "d"), .accept ⟨4, by decide⟩, .move (.poll ⟨3, by decide⟩ 7),
      .move (.drop ⟨1, by decide⟩)]
    let c := (Exchange.run {} acts).1.correlator
    calls acts < 2 ^ 64 - 1 ∧ c.outstanding = [⟨4, by decide⟩] ∧ c.pendingCount = 1 := by
  intro acts c
  have few : calls acts < 2 ^ 64 - 1 := by decide
  obtain ⟨table, count⟩ := (table_lists_live_requests (ω := Unit) acts few).2.1
  exact ⟨few, table.trans rfl, count.trans rfl⟩

end DuplexRpc.Correlator
