import DuplexRpc.Proofs.Client.Owner

/-!
# Requests in the table

As long as the ids of requests do not come round, a request in the table is waited for, and no
dispatch is about to reject it.
-/

namespace DuplexRpc.Client

open DuplexRpc.Correlator DuplexRpc.Json DuplexRpc.Wire

variable {ω : Type} {s moved : Session ω} {seen : List Occurrence}

structure Tidy (s : Session ω) : Prop where
  issued : s.client.correlator.Issued
  rejected : ∀ d ∈ s.dispatches, ∀ r ∈ d.rejectees,
    r.toNat < s.client.correlator.nextId.toNat
  waited : ∀ r ∈ s.outstanding, ∃ t, s.ticket? r = some t ∧ t.stage = .waiting
  apart : ∀ r ∈ s.outstanding, ∀ d ∈ s.dispatches, r ∉ d.rejectees

namespace Tidy

theorem of_dispatches (h : Tidy s)
    (nextId : moved.client.correlator.nextId = s.client.correlator.nextId)
    (outstanding : moved.outstanding = s.outstanding) (ticket : moved.ticket? = s.ticket?)
    (rejected : ∀ d ∈ moved.dispatches, ∀ r ∈ d.rejectees,
      ∃ other ∈ s.dispatches, r ∈ other.rejectees) : Tidy moved where
  issued r found := by
    have same : moved.client.correlator.ticket? r = s.client.correlator.ticket? r :=
      congrFun ticket r
    rw [nextId]
    exact h.issued r (same ▸ found)
  rejected d mem r rejects := by
    obtain ⟨other, known, rejects⟩ := rejected d mem r rejects
    rw [nextId]
    exact h.rejected other known r rejects
  waited r listed := by
    rw [ticket]
    exact h.waited r (outstanding ▸ listed)
  apart r listed d mem rejects := by
    obtain ⟨other, known, rejects⟩ := rejected d mem r rejects
    exact h.apart r (outstanding ▸ listed) other known rejects

theorem room_one {c : Correlator} (room : c.Room 1) (m : Correlator.Move) :
    c.Room (registrations [m]) := by
  have few : registrations [m] ≤ 1 := List.countP_le_length
  have bounded := room.bounded
  exact ⟨room.begun, by omega⟩

theorem correlate (h : Tidy s) (room : s.client.correlator.Room 1) {m : Correlator.Move}
    (other : m.registers = false)
    (correlator : moved.client.correlator = (s.client.correlator.step m).1)
    (dispatches : moved.dispatches = s.dispatches) : Tidy moved := by
  have known : ∀ r, m.registers → r ≠ s.client.correlator.upcoming := by
    simp [other]
  constructor
  · rw [correlator]
    exact h.issued.step (room_one room m)
  · intro d mem r rejects
    rw [correlator, nextId_step other]
    exact h.rejected d (dispatches ▸ mem) r rejects
  · intro r listed
    rw [Session.outstanding, correlator] at listed
    obtain ⟨before, waits⟩ := outstanding_step (known r) listed
    obtain ⟨t, has, waiting⟩ := h.waited r before
    rw [Session.ticket?, correlator]
    exact waits t has waiting
  · intro r listed d mem
    rw [Session.outstanding, correlator] at listed
    exact h.apart r (outstanding_step (known r) listed).1 d (dispatches ▸ mem)

theorem register (h : Tidy s) (room : s.client.correlator.Room 1) (method : String)
    (correlator : moved.client.correlator = (s.client.correlator.register method).2)
    (dispatches : moved.dispatches = s.dispatches) : Tidy moved := by
  have fresh : ∀ r, r.toNat < s.client.correlator.nextId.toNat →
      r ≠ s.client.correlator.upcoming := fun r below => room.ne_upcoming below
  constructor
  · rw [correlator]
    exact h.issued.step (room_one room (.register method))
  · intro d mem r rejects
    have before := h.rejected d (dispatches ▸ mem) r rejects
    rw [correlator, room.nextId_register method]
    omega
  · intro r listed
    rw [Session.outstanding, correlator, outstanding_register, List.mem_append] at listed
    rw [Session.ticket?, correlator, ticket?_register]
    rcases listed with listed | own
    · obtain ⟨t, has, waiting⟩ := h.waited r listed
      refine ⟨t, ?_, waiting⟩
      rw [Session.ticket?] at has
      simp [has]
    · obtain rfl := List.mem_singleton.mp own
      have unknown : s.client.correlator.ticket? s.client.correlator.upcoming = none := by
        by_cases found : (s.client.correlator.ticket? s.client.correlator.upcoming).isSome
        · exact absurd rfl (fresh _ (h.issued _ found))
        · simpa using found
      exact ⟨{ id := s.client.correlator.upcoming }, by simp [unknown], rfl⟩
  · intro r listed d mem rejects
    rw [Session.outstanding, correlator, outstanding_register, List.mem_append] at listed
    rw [dispatches] at mem
    rcases listed with listed | own
    · exact h.apart r listed d mem rejects
    · exact fresh r (h.rejected d mem r rejects) (List.mem_singleton.mp own)

theorem of_enter (h : Tidy s) {k : Nat} {d : Dispatch ω} {stage : Dispatch.Stage ω}
    (found : s.dispatches[k]? = some d)
    (fewer : Dispatch.rejectees { d with stage } ⊆ d.rejectees) : Tidy (s.enter k d stage) := by
  refine h.of_dispatches rfl rfl rfl fun other mem r rejects => ?_
  rcases mem_enter mem with mem | rfl
  · exact ⟨other, mem, rejects⟩
  · exact ⟨d, List.mem_of_getElem? found, fewer rejects⟩

theorem deliver (h : Tidy s) {id : RequestId} {outcome : CallOutcome}
    (unlisted : id ∉ s.outstanding) :
    Tidy (s.correlate (s.client.correlator.deliver id outcome)) where
  issued r found := by
    simp only [Session.correlate, ticket?_deliver] at found
    refine h.issued r ?_
    split at found <;> simpa using found
  rejected := h.rejected
  waited r listed := by
    have other : r ≠ id := fun same => unlisted (same ▸ listed)
    simp only [Session.ticket?, Session.correlate, ticket?_deliver, other, if_false]
    exact h.waited r listed
  apart := h.apart

theorem drain (h : Tidy s) {k : Nat} {d : Dispatch ω} (fault : Fault)
    (targets : List (Listener (Reaction ω))) :
    Tidy ((s.correlate { s.client.correlator with pending := [] }).enter k d
      (.rejecting fault s.client.correlator.pending targets)) where
  issued := h.issued
  rejected other mem r rejects := by
    rcases mem_enter mem with mem | rfl
    · exact h.rejected other mem r rejects
    · obtain ⟨t, has, -⟩ := h.waited r rejects
      exact h.issued r (by simpa [Session.ticket?] using Option.isSome_of_mem has)
  waited r listed := by cases listed
  apart r listed := by cases listed

/-- Every request in the table is waited for, and no dispatch is about to reject it. -/
theorem stands (h : Tidy s) {r : RequestId} (listed : r ∈ s.outstanding) :
    s.stage? r = some .waiting ∧ ∀ d ∈ s.dispatches, r ∉ d.rejectees := by
  obtain ⟨t, has, waiting⟩ := h.waited r listed
  exact ⟨by simp [Session.stage?, has, waiting], h.apart r listed⟩

theorem step (h : Tidy s) (room : s.client.correlator.Room 1) (change : Change s moved seen) :
    Tidy moved := by
  cases change with
  | idle => exact h
  | channel | receive =>
      refine h.of_dispatches rfl rfl rfl fun d mem r rejects => ?_
      rcases mem_announce mem with mem | ⟨event, -, rfl⟩
      · exact ⟨d, mem, rejects⟩
      · cases rejects
  | handOver | refuse | on | off =>
      exact h.of_dispatches rfl rfl rfl fun d mem r rejects => ⟨d, mem, rejects⟩
  | register method params => exact h.register room method rfl rfl
  | withdraw call fault mem refusal =>
      exact h.correlate room (m := .refuse call.id fault) rfl rfl rfl
  | settle m => exact h.correlate room (m := .inbound m) rfl rfl rfl
  | limit id deadline free => exact h.correlate room (m := .limit id deadline) rfl rfl rfl
  | poll id now free => exact h.correlate room (m := .poll id now) rfl rfl rfl
  | drop id free => exact h.correlate room (m := .drop id) rfl rfl rfl
  | lookUp k d found stage | pass k d _ _ _ found stage _ | leave k d _ _ found stage =>
      exact h.of_enter found (by simp [Dispatch.rejectees])
  | drain k d fault listener targets found stage action => exact h.drain fault targets
  | reject k d fault request requests targets found stage =>
      have own : request.id ∈ d.rejectees := by simp [Dispatch.rejectees, stage]
      refine of_enter (h.deliver fun listed => ?_) found (by simp [Dispatch.rejectees, stage])
      exact h.apart request.id listed d (List.mem_of_getElem? found) own

end Tidy

/-! ## As long as ids do not come round -/

def Move.registers : Move ω → Bool
  | .register _ _ => true
  | _ => false

def registrations (moves : List (Move ω)) : Nat := moves.countP Move.registers

theorem nextId_kept {m : Move ω} (other : m.registers = false) :
    (s.step m).1.client.correlator.nextId = s.client.correlator.nextId := by
  cases m with
  | register method params => cases other
  | channel | on => rfl
  | settle m => exact nextId_settle s.client.correlator m
  | receive text =>
      simp only [Session.step, Correlator.receive]
      cases Message.decode text <;> rfl
  | handOver id => exact congrArg Correlator.nextId (correlator_handOver s id)
  | withdraw id =>
      simp only [Session.step, Session.withdraw]
      split <;> rfl
  | limit id deadline =>
      simp only [Session.step]
      split <;> rfl
  | poll id now =>
      simp only [Session.step]
      split
      · rfl
      · exact Correlator.nextId_step (c := s.client.correlator) (m := .poll id now) rfl
  | drop id =>
      simp only [Session.step]
      split
      · rfl
      · exact Correlator.nextId_step (c := s.client.correlator) (m := .drop id) rfl
  | off id =>
      simp only [Session.step]
      split <;> rfl
  | dispatch k =>
      simp only [Session.step, Session.advance]
      split
      · rfl
      · simp only [Dispatch.advance]
        split <;> try rfl
        split <;> rfl

theorem room_step {m : Move ω} {moves : List (Move ω)}
    (room : s.client.correlator.Room (registrations (m :: moves) + 1)) :
    (s.step m).1.client.correlator.Room (registrations moves + 1) ∧
      s.client.correlator.nextId.toNat ≤ (s.step m).1.client.correlator.nextId.toNat := by
  cases kind : m.registers with
  | false =>
      have count : registrations (m :: moves) = registrations moves :=
        List.countP_cons_of_neg (by simp [kind])
      rw [count] at room
      have kept := nextId_kept (s := s) kind
      refine ⟨⟨?_, ?_⟩, Nat.le_of_eq (congrArg UInt64.toNat kept.symm)⟩ <;> rw [kept]
      · exact room.begun
      · exact room.bounded
  | true =>
      have count : registrations (m :: moves) = registrations moves + 1 :=
        List.countP_cons_of_pos kind
      rw [count] at room
      cases m with
      | register method params =>
          have grown : (s.step (.register method params)).1.client.correlator.nextId.toNat =
              s.client.correlator.nextId.toNat + 1 := room.nextId_register method
          exact ⟨room.register method, by omega⟩
      | _ => cases kind

theorem room_one_of {moves : List (Move ω)}
    (room : s.client.correlator.Room (registrations moves + 1)) : s.client.correlator.Room 1 := by
  have bounded := room.bounded
  exact ⟨room.begun, by omega⟩

theorem run_tidy {moves : List (Move ω)} (h : Tidy s)
    (room : s.client.correlator.Room (registrations moves + 1)) : Tidy (s.run moves).1 := by
  induction moves generalizing s with
  | nil => exact h
  | cons m moves ih => exact ih (h.step (room_one_of room) (.of_step s m)) (room_step room).1

/-- The id of a request does not come up again. -/
def Unrepeated (s : Session ω) (r : RequestId) (moves : List (Move ω)) : Prop :=
  ∀ first rest, moves = first ++ rest → (s.run first).1.client.correlator.upcoming ≠ r

theorem unrepeated_of_room {r : RequestId} {moves : List (Move ω)}
    (known : r.toNat < s.client.correlator.nextId.toNat)
    (room : s.client.correlator.Room (registrations moves + 1)) : Unrepeated s r moves := by
  intro first rest split
  induction first generalizing s moves with
  | nil => exact (room.ne_upcoming known).symm
  | cons m first ih =>
      subst split
      obtain ⟨next, grows⟩ := room_step room
      exact ih (Nat.lt_of_lt_of_le known grows) next rfl

theorem outstanding_launch (policy : PendingPolicy) (requestTimeout : Option Time) :
    (Session.launch policy requestTimeout : Session ω).outstanding = [] := by
  cases policy <;> rfl

theorem tidy_launch (policy : PendingPolicy) (requestTimeout : Option Time) :
    Tidy (Session.launch policy requestTimeout : Session ω) := by
  constructor
  · cases policy <;> exact issued_fresh
  · simp
  · simp [outstanding_launch]
  · simp

theorem room_launch (policy : PendingPolicy) (requestTimeout : Option Time) {count : Nat}
    (few : count < 2 ^ 63) :
    (Session.launch policy requestTimeout : Session ω).client.correlator.Room (count + 1) := by
  let c := (Session.launch policy requestTimeout : Session ω).client.correlator
  have nextId : c.nextId = 1 := by cases policy <;> rfl
  constructor <;> rw [nextId, UInt64.toNat_one]
  · exact Nat.one_pos
  · omega

end DuplexRpc.Client
