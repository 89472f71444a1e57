import DuplexRpc.Proofs.Correlator.Live

/-!
# What a message finds

A call of the peer is announced before its id is looked up, so the listeners of the announcement
may change the table in the middle.  A request that one of them makes is in the table by then, and
if it was given the id of the message, the message settles it, although it cannot be its answer.
Exactly then a message settles a request that was not there when it arrived.
-/

namespace DuplexRpc.Correlator

open DuplexRpc.Json DuplexRpc.Wire

variable {c : Correlator} {m : Message} {during : List Move} {r : RequestId}

/-- The correlator in which the id of a message is looked up, if the listeners of its announcement
do the given things meanwhile.  Only a call of the peer is announced. -/
def heard (c : Correlator) (m : Message) (during : List Move) : Correlator :=
  if (announcement? m).isSome then (c.run during).1 else c

def route (c : Correlator) (m : Message) (during : List Move) : Correlator :=
  ((c.heard m during).settle m).1

/-- Whatever the message settles was in the table when it arrived. -/
def SettlesArrived (c : Correlator) (m : Message) (during : List Move) : Prop :=
  ∀ r ∈ (c.heard m during).outstanding, r ∉ (c.route m during).outstanding → r ∈ c.outstanding

theorem heard_of_no_call (silent : m.method = none) : c.heard m during = c := by
  simp [heard, announcement?, Message.inboundRequest?, silent]

theorem mem_outstanding_route :
    r ∈ (c.route m during).outstanding ↔
      r ∈ (c.heard m during).outstanding ∧ m.responseId? ≠ some r :=
  mem_outstanding_settle _ r m

theorem settlesArrived_iff :
    SettlesArrived c m during ↔
      ∀ r ∈ (c.heard m during).outstanding, m.responseId? = some r → r ∈ c.outstanding := by
  constructor
  · intro arrived r met response
    exact arrived r met fun kept => (mem_outstanding_route.mp kept).2 response
  · intro arrived r met gone
    have response : m.responseId? = some r :=
      Decidable.byContradiction fun other => gone (mem_outstanding_route.mpr ⟨met, other⟩)
    exact arrived r met response

/-! ## Requests that were there before a run -/

theorem mem_outstanding_run {moves : List Move} (room : c.Room (registrations moves))
    (early : r.toNat < c.nextId.toNat) (listed : r ∈ (c.run moves).1.outstanding) :
    r ∈ c.outstanding := by
  induction moves generalizing c with
  | nil => exact listed
  | cons m moves ih =>
      have next := ih room.step (Nat.lt_of_lt_of_le early room.nextId_le) listed
      exact (outstanding_step (fun _ => room.ne_upcoming early) next).1

theorem mem_outstanding_run_of_no_calls {moves : List Move} (none : registrations moves = 0)
    (listed : r ∈ (c.run moves).1.outstanding) : r ∈ c.outstanding := by
  induction moves generalizing c with
  | nil => exact listed
  | cons m moves ih =>
      have split := registrations_cons m moves
      have silent : ¬m.registers := by
        intro kind
        simp only [kind, if_true] at split
        omega
      have next := ih (by omega) listed
      exact (outstanding_step (fun kind => absurd kind silent) next).1

theorem matched_run {moves : List Move} (issued : c.Issued) (room : c.Room (registrations moves))
    (h : ∀ r, (c.standing r).Matched) : ∀ r, ((c.run moves).1.standing r).Matched := by
  induction moves generalizing c with
  | nil => exact h
  | cons m moves ih => exact ih (issued.step room) room.step (matched_step issued room h)

theorem toNat_lt_nextId (issued : c.Issued) (h : (c.standing r).Matched)
    (listed : r ∈ c.outstanding) : r.toNat < c.nextId.toNat := by
  obtain ⟨t, found, -⟩ := (mem_outstanding_iff h).mp listed
  exact issued r (by simp [found])

theorem mem_outstanding_heard (issued : c.Issued) (room : c.Room (registrations during))
    (h : (c.standing r).Matched) (met : r ∈ (c.heard m during).outstanding) :
    r ∈ c.outstanding ↔ r.toNat < c.nextId.toNat := by
  refine ⟨toNat_lt_nextId issued h, fun early => ?_⟩
  by_cases announced : (announcement? m).isSome
  · exact mem_outstanding_run room early (by simpa [heard, announced] using met)
  · simpa [heard, announced] using met

/-- A message settles only requests that were outstanding when it arrived if and only if no
listener of its announcement made a request that was given the id of the message and is still in
the table: so always if it is no call of the peer, and if the listeners make no requests.  It
settles the request that it finds under its id, and leaves every other one as it is, those that
the listeners made included. -/
theorem settles_arrived_iff_id_not_given_out (before during : List Move) (m : Message)
    (few : registrations (before ++ during) < 2 ^ 64 - 1) :
    let c := (run {} before).1
    let met := c.heard m during
    let routed := c.route m during
    (SettlesArrived c m during ↔
      ¬∃ r ∈ met.outstanding, m.responseId? = some r ∧ c.nextId.toNat ≤ r.toNat) ∧
    (m.method = none ∨ registrations during = 0 → SettlesArrived c m during) ∧
    (∀ r ∈ met.outstanding, m.responseId? = some r →
      r ∉ routed.outstanding ∧
        routed.ticket? r = (met.ticket? r).map (Ticket.settle (outcomeOf m))) ∧
    (∀ r ∈ met.outstanding, m.responseId? ≠ some r →
      r ∈ routed.outstanding ∧ routed.ticket? r = met.ticket? r) := by
  intro c met routed
  have begun : Room {} (registrations (before ++ during)) :=
    ⟨by decide, by show 1 + _ < 2 ^ 64; omega⟩
  obtain ⟨issued, room⟩ : c.Issued ∧ c.Room (registrations during) := issued_fresh.run begun
  have earlier : Room {} (registrations before) := by
    rw [registrations_append] at begun
    exact ⟨begun.begun, by have := begun.bounded; omega⟩
  have matched : ∀ r, (c.standing r).Matched :=
    matched_run issued_fresh earlier faithful_fresh.matched
  have known : ∀ r ∈ met.outstanding, (r ∈ c.outstanding ↔ r.toNat < c.nextId.toNat) :=
    fun r found => mem_outstanding_heard issued room (matched r) found
  have exact : SettlesArrived c m during ↔
      ¬∃ r ∈ met.outstanding, m.responseId? = some r ∧ c.nextId.toNat ≤ r.toNat := by
    rw [settlesArrived_iff]
    constructor
    · rintro arrived ⟨r, found, response, late⟩
      have early := (known r found).mp (arrived r found response)
      omega
    · intro arrived r found response
      refine (known r found).mpr ?_
      by_cases early : r.toNat < c.nextId.toNat
      · exact early
      · exact absurd ⟨r, found, response, by omega⟩ arrived
  refine ⟨exact, ?usual, ?own, ?others⟩
  case usual =>
      rintro (silent | none)
      · rw [settlesArrived_iff, heard_of_no_call silent]
        exact fun r found _ => found
      · rw [settlesArrived_iff]
        intro r found _
        by_cases announced : (announcement? m).isSome
        · exact mem_outstanding_run_of_no_calls none (by simpa [heard, announced] using found)
        · simpa [heard, announced] using found
  case own =>
      intro r found response
      refine ⟨fun kept => (mem_outstanding_route.mp kept).2 response, ?_⟩
      exact (ticket?_settle met r m).trans (if_pos ⟨response, found⟩)
  case others =>
      intro r found response
      refine ⟨mem_outstanding_route.mpr ⟨found, response⟩, ?_⟩
      exact (ticket?_settle met r m).trans (if_neg fun own => response own.1)

/-- Two requests are outstanding when a call of the peer with the id of the second one arrives, and
a listener makes a third one meanwhile. -/
theorem second_request_settled_by_call :
    let before : List Move := [.register "first", .register "second"]
    let during : List Move := [.register "third"]
    let m : Message := { method := some "p", id := .number 2, result := some (.bool true) }
    let c := (run {} before).1
    registrations (before ++ during) < 2 ^ 64 - 1 ∧ SettlesArrived c m during ∧
      (c.route m during).outstanding = [⟨1, by decide⟩, ⟨3, by decide⟩] := by
  intro before during m c
  have few : registrations (before ++ during) < 2 ^ 64 - 1 := by decide
  have exact := (settles_arrived_iff_id_not_given_out before during m few).1
  refine ⟨few, exact.mpr ?_, rfl⟩
  rintro ⟨r, -, response, late⟩
  have two : m.responseId? = some ⟨2, by decide⟩ := rfl
  obtain rfl : (⟨2, by decide⟩ : RequestId) = r := Option.some.inj (two.symm.trans response)
  exact absurd late (by decide)

/-- A listener's first request is settled by the very call that the listener was told of. -/
theorem request_settled_by_earlier_call :
    let during : List Move := [.register "inner"]
    let m : Message := { method := some "p", id := .number 1, result := some (.string "x") }
    let c : Correlator := (run {} []).1
    c.outstanding = [] ∧ (c.heard m during).outstanding = [⟨1, by decide⟩] ∧
      (c.route m during).outstanding = [] ∧ ¬SettlesArrived c m during ∧
      ((c.route m during).poll ⟨1, by decide⟩ 0).1 = .ready (.ok (.string "x")) := by
  intro during m c
  have met : (c.heard m during).outstanding = [⟨1, by decide⟩] := rfl
  have left : (c.route m during).outstanding = [] := rfl
  refine ⟨rfl, met, left, fun arrived => ?_, rfl⟩
  have there := arrived ⟨1, by decide⟩ (by simp [met]) (by simp [left])
  cases there

end DuplexRpc.Correlator
