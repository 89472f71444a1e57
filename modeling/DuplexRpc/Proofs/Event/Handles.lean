import Mathlib.Algebra.Group.Nat.Defs
import Mathlib.Logic.Function.Basic
import DuplexRpc.Event.Registry
import DuplexRpc.Proofs.Replay

/-!
# Handles of independent registries

Every registry counts its own listeners, and a handle is nothing but such a number.  A registry
takes a handle for the listener that it gave the same number to, whichever registry gave the handle
out.  Until its numbers come round, it holds the listeners that it gave numbers to and did not take
off.
-/

namespace DuplexRpc.Registry

variable {ι α : Type}

def ids (r : Registry α) : List ListenerId := r.listeners.map (·.id)

/-! ## Independent registries -/

inductive Use (ι α : Type) where
  | on (emitter : ι) (event : String) (action : α)
  | off (emitter : ι) (id : ListenerId)

inductive Seen (ι : Type) where
  | given (emitter : ι) (id : ListenerId)
  | removed (emitter : ι) (id : ListenerId) (was : Bool)

section

variable [DecidableEq ι]

def step (registries : ι → Registry α) : Use ι α → (ι → Registry α) × List (Seen ι)
  | .on emitter event action =>
      let (id, r) := (registries emitter).on event action
      (Function.update registries emitter r, [.given emitter id])
  | .off emitter id =>
      let (was, r) := (registries emitter).off id
      (Function.update registries emitter r, [.removed emitter id was])

def run : (ι → Registry α) → List (Use ι α) → (ι → Registry α) × List (Seen ι) := replay step

/-- The handles that an emitter gave out. -/
def given (emitter : ι) (seen : List (Seen ι)) : List ListenerId :=
  seen.filterMap fun
    | .given own id => if own = emitter then some id else none
    | .removed .. => none

/-- The handles by which an emitter took a listener off. -/
def gone (emitter : ι) (seen : List (Seen ι)) : List ListenerId :=
  seen.filterMap fun
    | .removed own id was => if own = emitter ∧ was then some id else none
    | .given .. => none

end

/-! ## One registry -/

theorem off_eq_true_iff {r : Registry α} {id : ListenerId} : (r.off id).1 = true ↔ id ∈ r.ids := by
  simp [off, ids]

theorem off_eq_self {r : Registry α} {id : ListenerId} (unknown : (r.off id).1 = false) :
    (r.off id).2 = r := by
  have kept : r.listeners.filter (·.id ≠ id) = r.listeners := by
    simpa [off, List.filter_eq_self] using unknown
  simp only [off, kept]

theorem ids_off (r : Registry α) (id : ListenerId) :
    (r.off id).2.ids = r.ids.filter (· ≠ id) := by
  simp [off, ids, List.filter_map, Function.comp_def]

theorem ids_on (r : Registry α) (event : String) (action : α) :
    (r.on event action).2.ids = r.ids ++ [(r.on event action).1] := by
  simp [on, ids]

/-- The last id counts on, unless it comes round. -/
theorem toNat_lastId_on {r : Registry α} (room : r.lastId.toNat + 1 < 2 ^ 64) (event : String)
    (action : α) : (r.on event action).2.lastId.toNat = r.lastId.toNat + 1 := by
  change (r.lastId + 1).toNat = r.lastId.toNat + 1
  rw [UInt64.toNat_add]
  exact Nat.mod_eq_of_lt room

/-- Numbers are given out up to the last one. -/
def Counted (r : Registry α) : Prop := ∀ id ∈ r.ids, id.value ≤ r.lastId

/-- Numbers did not come round. -/
def Room (first : Registry α) (given : List ListenerId) : Prop :=
  first.lastId.toNat + given.length < 2 ^ 64

/-- What became of a registry that gave out some handles and took some listeners off. -/
structure Numbered (first r : Registry α) (given gone : List ListenerId) : Prop where
  lastId : r.lastId = first.lastId + UInt64.ofNat given.length
  numbers : given =
    (List.range given.length).map fun k => ⟨first.lastId + UInt64.ofNat (k + 1)⟩
  bounded : Room first given → ∀ id ∈ gone, id.value ≤ r.lastId
  listed : Room first given → r.ids = (first.ids ++ given).filter (· ∉ gone)

theorem Room.of_append {first : Registry α} {given more : List ListenerId}
    (room : Room first (given ++ more)) : Room first given := by
  unfold Room at room ⊢
  rw [List.length_append] at room
  omega

namespace Numbered

variable {first r : Registry α} {given gone : List ListenerId} {id : ListenerId}

theorem refl (first : Registry α) : Numbered first first [] [] where
  lastId := (UInt64.add_zero _).symm
  numbers := rfl
  bounded _ := nofun
  listed _ := by simp [List.filter_eq_self.mpr]

theorem toNat_lastId (room : Room first given) (h : Numbered first r given gone) :
    r.lastId.toNat = first.lastId.toNat + given.length := by
  unfold Room at room
  rw [h.lastId, UInt64.toNat_add, UInt64.toNat_ofNat']
  omega

theorem mem_ids_iff (room : Room first given) (h : Numbered first r given gone) :
    id ∈ r.ids ↔ (id ∈ first.ids ∨ id ∈ given) ∧ id ∉ gone := by
  simp [h.listed room, or_and_right]

theorem mem_given_iff (room : Room first given) (h : Numbered first r given gone) :
    id ∈ given ↔ first.lastId < id.value ∧ id.value ≤ r.lastId := by
  have total := h.toNat_lastId room
  unfold Room at room
  rw [UInt64.lt_iff_toNat_lt, UInt64.le_iff_toNat_le, total, h.numbers, List.mem_map]
  simp only [List.length_map, List.length_range, List.mem_range]
  constructor
  · rintro ⟨k, below, rfl⟩
    rw [UInt64.toNat_add, UInt64.toNat_ofNat']
    omega
  · rintro ⟨above, below⟩
    refine ⟨id.value.toNat - first.lastId.toNat - 1, by omega, ?_⟩
    congr 1
    apply UInt64.toNat_inj.mp
    rw [UInt64.toNat_add, UInt64.toNat_ofNat']
    omega

theorem toNat_on {event : String} {action : α} (h : Numbered first r given gone)
    (room : Room first (given ++ [(r.on event action).1])) :
    (r.on event action).2.lastId.toNat = r.lastId.toNat + 1 := by
  have total := h.toNat_lastId room.of_append
  simp only [Room, List.length_append, List.length_singleton] at room
  exact toNat_lastId_on (by omega) event action

theorem on (h : Numbered first r given gone) (event : String) (action : α) :
    Numbered first (r.on event action).2 (given ++ [(r.on event action).1]) gone where
  lastId := by simp [Registry.on, h.lastId, UInt64.ofNat_add, UInt64.add_assoc]
  numbers := by
    rw [List.length_append, List.length_singleton, List.range_succ, List.map_append, ← h.numbers]
    simp [Registry.on, h.lastId, UInt64.ofNat_add, UInt64.add_assoc]
  bounded room id known := by
    have known := h.bounded room.of_append id known
    rw [UInt64.le_iff_toNat_le] at known ⊢
    rw [h.toNat_on room]
    exact Nat.le_succ_of_le known
  listed room := by
    have fresh : (r.on event action).1 ∉ gone := by
      intro known
      have known := h.bounded room.of_append _ known
      rw [UInt64.le_iff_toNat_le] at known
      exact Nat.not_succ_le_self _ (h.toNat_on room ▸ known)
    rw [ids_on, h.listed room.of_append, ← List.append_assoc, List.filter_append _ [_]]
    simp [fresh]

theorem off (counted : first.Counted) (h : Numbered first r given gone) (id : ListenerId) :
    Numbered first (r.off id).2 given (gone ++ if (r.off id).1 then [id] else []) := by
  cases was : (r.off id).1 with
  | false => simpa [off_eq_self was] using h
  | true =>
      refine ⟨h.lastId, h.numbers, fun room other known => ?_, fun room => ?_⟩
      · rcases List.mem_append.mp known with known | own
        · exact h.bounded room other known
        · obtain rfl : other = id := List.mem_singleton.mp own
          rcases ((h.mem_ids_iff room).mp (off_eq_true_iff.mp was)).1 with own | own
          · have own := counted other own
            have total := h.toNat_lastId room
            rw [UInt64.le_iff_toNat_le] at own ⊢
            simp only [Registry.off]
            omega
          · exact ((h.mem_given_iff room).mp own).2
      · rw [ids_off, h.listed room, List.filter_filter]
        refine List.filter_congr fun other known => ?_
        simp [and_comm]

end Numbered

/-! ## All registries -/

variable [DecidableEq ι] {first registries : ι → Registry α} {seen : List (Seen ι)}

theorem step_other {emitter other : ι} {id : ListenerId} (apart : other ≠ emitter) :
    (step registries (.off emitter id)).1 other = registries other :=
  Function.update_of_ne apart _ _

theorem numbered_step (counted : ∀ e, (first e).Counted)
    (h : ∀ e, Numbered (first e) (registries e) (given e seen) (gone e seen)) (use : Use ι α)
    (e : ι) :
    Numbered (first e) ((step registries use).1 e) (given e (seen ++ (step registries use).2))
      (gone e (seen ++ (step registries use).2)) := by
  cases use with
  | on emitter event action =>
      by_cases own : e = emitter
      · subst own
        simpa [step, given, gone] using (h e).on event action
      · simpa [step, given, gone, own, Ne.symm own] using h e
  | off emitter id =>
      by_cases own : e = emitter
      · subst own
        have after := (h e).off (counted e) id
        cases was : ((registries e).off id).1 <;> simpa [step, given, gone, was] using after
      · simpa [step, given, gone, own, Ne.symm own] using h e

theorem numbered_run (counted : ∀ e, (first e).Counted) (uses : List (Use ι α)) (e : ι) :
    Numbered (first e) ((run first uses).1 e) (given e (run first uses).2)
      (gone e (run first uses).2) :=
  replay_keeps
    (fun (s : ι → Registry α) seen =>
      ∀ e, Numbered (first e) (s e) (given e seen) (gone e seen))
    (fun _ _ use _ h => numbered_step counted h use) (fun e => .refl (first e)) e

end DuplexRpc.Registry
