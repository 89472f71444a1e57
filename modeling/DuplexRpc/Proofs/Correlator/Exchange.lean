import DuplexRpc.Proofs.Correlator.Standing

/-!
# Overlapping calls

Calls overlap: while a request is being sent anything else may happen, a response to it included.
Its caller has no ticket before the sink took or refused the request, so until then nobody polls,
limits or drops it.  A message may settle its request at any time after it was read, because the
listeners of its announcement may do anything in between.

A history lists what happened.  In it a request lives from its registration until it is refused,
answered, rejected or dropped, or until a poll finds that it expired.
-/

namespace DuplexRpc.Correlator

open DuplexRpc.Wire

structure Exchange where
  correlator : Correlator := {}
  /-- The requests that the sink has neither taken nor refused. -/
  sending : List RequestId := []

inductive Act where
  /-- The sink takes a request, and the caller gets its ticket. -/
  | accept (id : RequestId)
  | move (m : Move)

inductive Occurrence where
  | issued (id : RequestId)
  | accepted (id : RequestId)
  | refused (id : RequestId) (fault : Fault)
  /-- A message with this id came to the table. -/
  | answered (id : RequestId)
  | rejectedAll (fault : Fault)
  | collected (id : RequestId) (outcome : CallOutcome)
  | dropped (id : RequestId)

def Move.shows (c : Correlator) : Move → List Occurrence
  | .register _ => [.issued c.upcoming]
  | .refuse id fault => [.refused id fault]
  | .receive text =>
      (((Message.decode text).toOption.bind Message.responseId?).map .answered).toList
  | .inbound m => (m.responseId?.map .answered).toList
  | .failAll fault => [.rejectedAll fault]
  | .limit _ _ => []
  | .poll id now => ((c.poll id now).1.collected id).map fun given => .collected id given.outcome
  | .drop id => [.dropped id]

namespace Exchange

/-- Only the request that is being sent can be refused, and only then nobody has its ticket. -/
def allows (e : Exchange) : Move → Bool
  | .refuse id _ => id ∈ e.sending
  | .limit id _ | .poll id _ | .drop id => id ∉ e.sending
  | _ => true

def sendingAfter (e : Exchange) : Move → List RequestId
  | .register _ => e.sending ++ [e.correlator.upcoming]
  | .refuse id _ => e.sending.filter (· ≠ id)
  | _ => e.sending

/-- What does not apply changes nothing. -/
def step (e : Exchange) : Act → Exchange × List Occurrence
  | .accept id =>
      if id ∈ e.sending then
        ({ e with sending := e.sending.filter (· ≠ id) }, [.accepted id])
      else (e, [])
  | .move m =>
      if e.allows m then
        ({ correlator := (e.correlator.step m).1, sending := e.sendingAfter m },
          m.shows e.correlator)
      else (e, [])

def run : Exchange → List Act → Exchange × List Occurrence := replay step

end Exchange

def Act.calls : Act → Bool
  | .move m => m.registers
  | .accept _ => false

def calls (acts : List Act) : Nat := acts.countP Act.calls

theorem calls_cons (act : Act) (acts : List Act) :
    calls (act :: acts) = calls acts + calls [act] := by
  simp [calls, List.countP_cons]

/-! ## Living requests of a history -/

def Occurrence.issued? : Occurrence → Option RequestId
  | .issued id => some id
  | _ => none

def issued (seen : List Occurrence) : List RequestId := seen.filterMap Occurrence.issued?

def Occurrence.ends (r : RequestId) : Occurrence → Bool
  | .refused id _ | .answered id | .dropped id => id = r
  | .collected id (.error .timeout) => id = r
  | .rejectedAll _ => true
  | _ => false

/-- What happened after a request was issued. -/
def since (r : RequestId) : List Occurrence → List Occurrence
  | [] => []
  | shown :: later => if shown.issued? = some r then later else since r later

def ended (seen : List Occurrence) (r : RequestId) : Bool := (since r seen).any (·.ends r)

/-- The requests that were issued and did not end, in the order of their calls. -/
def living (seen : List Occurrence) : List RequestId :=
  (issued seen).filter fun r => !ended seen r

@[simp] theorem issued_append (seen later : List Occurrence) :
    issued (seen ++ later) = issued seen ++ issued later :=
  List.filterMap_append

theorem since_append_of_mem {seen : List Occurrence} {r : RequestId} (known : r ∈ issued seen)
    (later : List Occurrence) : since r (seen ++ later) = since r seen ++ later := by
  induction seen with
  | nil => cases known
  | cons shown seen ih =>
      by_cases own : shown.issued? = some r
      · simp [since, own]
      · have known : r ∈ issued seen := by
          simpa [issued, List.mem_filterMap, own] using known
        simp [since, own, ih known]

theorem since_append_of_not_mem {seen : List Occurrence} {r : RequestId}
    (unknown : r ∉ issued seen) (later : List Occurrence) :
    since r (seen ++ later) = since r later := by
  induction seen with
  | nil => rfl
  | cons shown seen ih =>
      have other : shown.issued? ≠ some r := by
        intro own
        exact unknown (by simp [issued, own])
      have unknown : r ∉ issued seen := by
        intro known
        exact unknown (by cases given : shown.issued? <;> simp_all [issued])
      simp [since, other, ih unknown]

theorem living_append {seen later : List Occurrence} (none : issued later = []) :
    living (seen ++ later) = (living seen).filter fun r => !later.any (·.ends r) := by
  simp only [living, issued_append, none, List.append_nil, List.filter_filter]
  apply List.filter_congr
  intro r known
  simp [ended, since_append_of_mem known, Bool.and_comm]

theorem living_issue {seen : List Occurrence} {r : RequestId} (fresh : r ∉ issued seen) :
    living (seen ++ [.issued r]) = living seen ++ [r] := by
  have before : ∀ known ∈ issued seen,
      (!ended (seen ++ [.issued r]) known) = !ended seen known := by
    intro known listed
    simp [ended, since_append_of_mem listed, Occurrence.ends]
  have own : ended (seen ++ [.issued r]) r = false := by
    simp [ended, since_append_of_not_mem fresh, since, Occurrence.issued?]
  have last : issued [.issued r] = [r] := rfl
  rw [living, issued_append, List.filter_append, List.filter_congr before, last]
  simp [living, own]

end DuplexRpc.Correlator
