import Mathlib.Algebra.Group.Nat.Defs
import DuplexRpc.Proofs.Correlator.Table
import DuplexRpc.Proofs.Replay

/-!
# Runs of a correlator

A run is any sequence of the operations of a correlator.  The two halves of a call are moves of
their own: a request is registered, and it may be refused later.  Listeners for the calls of the
peer leave the correlator alone, so an inbound message is one move.

A run shows the outcomes that were collected.
-/

namespace DuplexRpc.Correlator

open DuplexRpc.Wire

inductive Move where
  | register (method : String)
  | refuse (id : RequestId) (fault : Fault)
  | receive (text : String)
  | inbound (m : Message)
  | failAll (fault : Fault)
  | limit (id : RequestId) (deadline : Time)
  | poll (id : RequestId) (now : Time)
  | drop (id : RequestId)

/-- What a poll gave to the owner of a ticket. -/
structure Collected where
  id : RequestId
  outcome : CallOutcome

def Poll.collected (id : RequestId) : Poll → List Collected
  | .pending => []
  | .ready outcome => [{ id, outcome }]

def step (c : Correlator) : Move → Correlator × List Collected
  | .register method => ((c.register method).2, [])
  | .refuse id fault => ((c.refuse id fault).1, [])
  | .receive text => ((c.handleText text).1, [])
  | .inbound m => ((c.settle m).1, [])
  | .failAll fault => ((c.failAll fault).2, [])
  | .limit id deadline => (c.limit id deadline, [])
  | .poll id now => ((c.poll id now).2, (c.poll id now).1.collected id)
  | .drop id => (c.drop id, [])

def run : Correlator → List Move → Correlator × List Collected := replay step

def collected (r : RequestId) (seen : List Collected) : List CallOutcome :=
  (seen.filter (·.id = r)).map (·.outcome)

@[simp] theorem collected_nil (r : RequestId) : collected r [] = [] := rfl

@[simp] theorem collected_append (r : RequestId) (seen later : List Collected) :
    collected r (seen ++ later) = collected r seen ++ collected r later := by
  simp [collected]

theorem collected_of_ne {r id : RequestId} (ne : r ≠ id) (answer : Poll) :
    collected r (answer.collected id) = [] := by
  cases answer <;> simp [Poll.collected, collected, ne.symm]

theorem handleText_fst (c : Correlator) (text : String) :
    ∃ discarded, (c.handleText text).1 =
      match (Message.decode text).toOption with
      | none => { c with discarded }
      | some m => (c.settle m).1 := by
  cases decoded : Message.decode text with
  | error fault =>
      exact ⟨c.discarded + 1, by simp [handleText, receive, decoded, discard, Except.toOption]⟩
  | ok m => exact ⟨0, by simp [handleText, receive, decoded, Except.toOption]⟩

/-! ## Ids are given out once -/

def Move.registers : Move → Bool
  | .register _ => true
  | _ => false

def registrations (moves : List Move) : Nat := moves.countP Move.registers

theorem registrations_register (method : String) (moves : List Move) :
    registrations (.register method :: moves) = registrations moves + 1 :=
  List.countP_cons_of_pos rfl

theorem registrations_cons (m : Move) (moves : List Move) :
    registrations (m :: moves) = registrations moves + if m.registers then 1 else 0 := by
  simp [registrations, List.countP_cons]

theorem nextId_settle (c : Correlator) (m : Message) : (c.settle m).1.nextId = c.nextId := by
  rcases c.settle_cases m with ⟨id, listed, response, same⟩ | ⟨stray, discarded, same⟩
  · rw [same]
    rfl
  · rw [same]

theorem nextId_reject (c : Correlator) (fault : Fault) (requests : List PendingRequest) :
    (c.reject fault requests).nextId = c.nextId := by
  induction requests generalizing c with
  | nil => rfl
  | cons request requests ih => exact (ih _).trans rfl

theorem nextId_step {c : Correlator} {m : Move} (other : m.registers = false) :
    (c.step m).1.nextId = c.nextId := by
  cases m with
  | register method => cases other
  | refuse id fault | limit id deadline => rfl
  | receive text =>
      obtain ⟨discarded, same⟩ := c.handleText_fst text
      simp only [step, same]
      split
      · rfl
      · exact c.nextId_settle _
  | inbound m => exact c.nextId_settle m
  | failAll fault => exact nextId_reject _ fault _
  | poll id now =>
      rcases c.poll_cases id now with same | same | same <;> simp only [step, same] <;> rfl
  | drop id =>
      simp only [step, Correlator.drop]
      split <;> rfl

/-- The ids do not come round within the next so many registrations. -/
structure Room (c : Correlator) (count : Nat) : Prop where
  begun : 0 < c.nextId.toNat
  bounded : c.nextId.toNat + count < 2 ^ 64

theorem Room.nextId_ne {c : Correlator} {count : Nat} (room : c.Room count) : c.nextId ≠ 0 := by
  intro zero
  have begun := room.begun
  simp [zero] at begun

theorem Room.upcoming {c : Correlator} {count : Nat} (room : c.Room count) :
    c.upcoming.toNat = c.nextId.toNat := by
  simp [Correlator.upcoming, takeId, room.nextId_ne, RequestId.toNat]

theorem Room.nextId_register {c : Correlator} {count : Nat} (room : c.Room (count + 1))
    (method : String) : (c.register method).2.nextId.toNat = c.nextId.toNat + 1 := by
  have bounded := room.bounded
  have next : (c.register method).2.nextId = c.nextId + 1 := by
    simp [register, takeId, room.nextId_ne]
  rw [next, UInt64.toNat_add, UInt64.toNat_one]
  omega

theorem Room.register {c : Correlator} {count : Nat} (room : c.Room (count + 1))
    (method : String) : (c.register method).2.Room count := by
  have next := room.nextId_register method
  have bounded := room.bounded
  constructor <;> omega

theorem Room.nextId_le {c : Correlator} {m : Move} {moves : List Move}
    (room : c.Room (registrations (m :: moves))) :
    c.nextId.toNat ≤ (c.step m).1.nextId.toNat := by
  cases m with
  | register method =>
      rw [registrations_register] at room
      have next := room.nextId_register method
      simp only [Correlator.step, next]
      omega
  | _ => exact Nat.le_of_eq (congrArg UInt64.toNat (nextId_step rfl).symm)

theorem Room.step {c : Correlator} {m : Move} {moves : List Move}
    (room : c.Room (registrations (m :: moves))) : (c.step m).1.Room (registrations moves) := by
  cases m with
  | register method =>
      rw [registrations_register] at room
      exact room.register method
  | _ =>
      obtain ⟨begun, bounded⟩ := room
      constructor <;> rw [nextId_step rfl]
      · exact begun
      · simpa [registrations_cons, Move.registers] using bounded

end DuplexRpc.Correlator
