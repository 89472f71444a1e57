import Mathlib.Algebra.Group.Nat.Defs
import DuplexRpc.Proofs.Event.History

/-!
# Registrations

What the history of a script says about listeners: which were registered and removed so far, and
which are therefore live. The one registry of a stage holds just the live ones, in the order of
their registration. Scripts here are on one emitter, whichever handles they use.
-/

namespace DuplexRpc.Script

mutual

/-- No other emitter is made, also not by a listener. -/
def Action.Single : Action → Prop
  | .newEmitter => False
  | .on _ _ listener => ∀ call, (listener call).Single
  | _ => True

def Body.Single : Body → Prop
  | .done => True
  | .act action next => action.Single ∧ ∀ outcome, (next outcome).Single

end

theorem Body.single_ofList {actions : List Action} (h : ∀ action ∈ actions, action.Single) :
    (ofList actions).Single := by
  induction actions with
  | nil => trivial
  | cons action rest ih =>
      obtain ⟨own, others⟩ := List.forall_mem_cons.mp h
      exact ⟨own, fun _ => ih others⟩

namespace Occurrence

/-- The number and the name that a listener was registered under. -/
def registration? : Occurrence → Option (Nat × String)
  | .did _ _ (.on _ event _) (.listener number) => some (number, event)
  | _ => none

def removal? : Occurrence → Option Nat
  | .did _ running (.off _ listener) (.removed true) => listener.or running
  | _ => none

/-- The listener that an emission at this depth calls. -/
def called? (depth : Nat) : Occurrence → Option Nat
  | .heard own _ listener => if own = depth then some listener else none
  | _ => none

end Occurrence

def registered (past : List Occurrence) : List (Nat × String) :=
  past.filterMap Occurrence.registration?

def removed (past : List Occurrence) : List Nat := past.filterMap Occurrence.removal?

/-- The listeners registered under a name and not removed, in the order of their registration. -/
def live (name : String) (past : List Occurrence) : List Nat :=
  ((registered past).filter fun (number, event) => event = name ∧ number ∉ removed past).map
    Prod.fst

section

variable {past later : List Occurrence}

@[simp] theorem registered_append :
    registered (past ++ later) = registered past ++ registered later := List.filterMap_append

@[simp] theorem removed_append : removed (past ++ later) = removed past ++ removed later :=
  List.filterMap_append

end

theorem registered_length_le (past later : List Occurrence) :
    (registered past).length ≤ (registered (past ++ later)).length := by
  simp

/-! ## What a stage holds -/

/-- The id behind a listener's number. -/
def idOf (number : Nat) : ListenerId := ⟨UInt64.ofNat (number + 1)⟩

/-- Ids tell listeners apart until they come round. -/
theorem idOf_inj {m n count : Nat} (few : count < 2 ^ 64) (hm : m < count) (hn : n < count) :
    idOf m = idOf n ↔ m = n := by
  refine ⟨fun same => ?_, congrArg idOf⟩
  have same := congrArg (fun id => id.value.toNat) same
  simp only [idOf, UInt64.toNat_ofNat'] at same
  omega

/-- The one registry of a stage, after all that happened. -/
structure Kept (past : List Occurrence) (s : Stage) (r : Registry Program) : Prop where
  alone : s.registries = [r]
  shared : ∀ handle ∈ s.handles, handle = 0
  lastId : r.lastId = UInt64.ofNat (registered past).length
  issued : s.issued = (List.range (registered past).length).map idOf
  numbers : (registered past).map Prod.fst = List.range (registered past).length
  gone : ∀ number ∈ removed past, number < (registered past).length
  named : ∀ listener ∈ r.listeners, listener.id = idOf listener.action.number
  known : ∀ listener ∈ r.listeners, listener.action.number < (registered past).length
  listed : (registered past).length < 2 ^ 64 →
    r.listeners.map (fun listener => (listener.action.number, listener.event)) =
      (registered past).filter (·.1 ∉ removed past)
  bodies : ∀ listener ∈ r.listeners, ∀ call, (listener.action.body call).Single

namespace Kept

variable {past : List Occurrence} {s : Stage} {r : Registry Program} {emitter : Nat}
  {name : String}

theorem registryIndex_eq (kept : Kept past s r) : s.registryIndex emitter = 0 := by
  unfold Stage.registryIndex
  rw [List.getD_eq_getElem?_getD]
  cases found : s.handles[emitter]? with
  | none => rfl
  | some handle => exact kept.shared handle (List.mem_of_getElem? found)

theorem registry_eq (kept : Kept past s r) : s.registry emitter = r := by
  simp [Stage.registry, kept.registryIndex_eq, kept.alone]

theorem setRegistry_eq (kept : Kept past s r) (r' : Registry Program) :
    s.setRegistry emitter r' = { s with registries := [r'] } := by
  simp [Stage.setRegistry, kept.registryIndex_eq, kept.alone]

theorem issued_length (kept : Kept past s r) : s.issued.length = (registered past).length := by
  simp [kept.issued]

theorem upcoming (kept : Kept past s r) : ⟨r.lastId + 1⟩ = idOf (registered past).length := by
  simp [idOf, kept.lastId, UInt64.ofNat_add]

/-- Calls and ends of actions that change no registration. -/
theorem silent (kept : Kept past s r) {later : List Occurrence} (none_on : registered later = [])
    (none_off : removed later = []) : Kept (past ++ later) s r where
  alone := kept.alone
  shared := kept.shared
  lastId := by simp [none_on, kept.lastId]
  issued := by simp [none_on, kept.issued]
  numbers := by simp [none_on, kept.numbers]
  gone := by simpa [none_on, none_off] using kept.gone
  named := kept.named
  known := by simpa [none_on] using kept.known
  listed := by simpa [none_on, none_off] using kept.listed
  bodies := kept.bodies

theorem hear (kept : Kept past s r) (event : Event) (listener depth : Nat) :
    Kept past (s.hear event listener depth) r :=
  { kept with }

theorem note (kept : Kept past s r) (entry : Entry) : Kept past (s.note entry) r :=
  { kept with }

section

variable (few : (registered past).length < 2 ^ 64)
include few

theorem targets_map (kept : Kept past s r) :
    (r.targets name).map (·.action.number) = live name past := by
  have listed := congrArg (fun found => (found.filter (·.2 = name)).map Prod.fst) (kept.listed few)
  simpa [List.filter_map, List.filter_filter, Function.comp_def, Registry.targets, live]
    using listed

theorem targets_length (kept : Kept past s r) :
    (r.targets name).length = (live name past).length := by
  rw [← kept.targets_map few, List.length_map]

theorem id_eq_iff (kept : Kept past s r) {number : Nat} (issued : number < (registered past).length)
    {listener : Listener Program} (known : listener ∈ r.listeners) :
    listener.id = idOf number ↔ listener.action.number = number := by
  rw [kept.named listener known]
  exact idOf_inj few (kept.known listener known) issued

/-- A number behind which there is an id belongs to one listener at most. -/
theorem any_id (kept : Kept past s r) {number : Nat} (issued : number < (registered past).length) :
    (r.listeners.any (·.id = idOf number)) = true ↔
      number ∈ (registered past).map Prod.fst ∧ number ∉ removed past := by
  have listed : number ∈ r.listeners.map (·.action.number) ↔
      number ∈ ((registered past).filter (·.1 ∉ removed past)).map Prod.fst := by
    rw [← kept.listed few, List.map_map]
    rfl
  calc (r.listeners.any (·.id = idOf number)) = true
      ↔ number ∈ r.listeners.map (·.action.number) := by
        simp only [List.any_eq_true, decide_eq_true_eq, List.mem_map]
        exact exists_congr fun listener =>
          and_congr_right fun known => kept.id_eq_iff few issued known
    _ ↔ _ := listed
    _ ↔ _ := by
        simp only [List.mem_map, List.mem_filter, decide_eq_true_eq]
        constructor
        · rintro ⟨entry, ⟨known, standing⟩, rfl⟩
          exact ⟨⟨entry, known, rfl⟩, standing⟩
        · rintro ⟨⟨entry, known, rfl⟩, standing⟩
          exact ⟨entry, ⟨known, standing⟩, rfl⟩

end

theorem on (kept : Kept past s r) {event : String} {body : Call → Body}
    (single : ∀ call, (body call).Single) (depth : Nat) (running : Option Nat) :
    let number := (registered past).length
    Kept (past ++ [.did depth running (.on emitter event body) (.listener number)])
      { s with registries := [(r.on event ⟨number, body⟩).2],
               issued := s.issued ++ [(r.on event ⟨number, body⟩).1] }
      (r.on event ⟨number, body⟩).2 := by
  intro number
  have added : registered [.did depth running (.on emitter event body) (.listener number)] =
      [(number, event)] := rfl
  have none_off :
      removed [.did depth running (.on emitter event body) (.listener number)] = [] := rfl
  have fresh : number ∉ removed past := fun known => Nat.lt_irrefl _ (kept.gone _ known)
  have own : (r.on event ⟨number, body⟩).1 = idOf number := kept.upcoming
  exact {
    alone := rfl
    shared := kept.shared
    lastId := by simp [added, Registry.on, kept.lastId, UInt64.ofNat_add]
    issued := by simp [added, own, kept.issued, List.range_succ, number]
    numbers := by simp [added, kept.numbers, List.range_succ, number]
    gone := by
      simp only [removed_append, none_off, List.append_nil, registered_append, List.length_append]
      exact fun found known => Nat.lt_add_right _ (kept.gone found known)
    named := by
      simp only [Registry.on, List.mem_append, List.mem_singleton]
      rintro found (known | rfl)
      · exact kept.named found known
      · exact own
    known := by
      simp only [Registry.on, List.mem_append, List.mem_singleton, registered_append, added,
        List.length_append]
      rintro found (known | rfl)
      · exact Nat.lt_add_right _ (kept.known found known)
      · exact Nat.lt_succ_self number
    listed := by
      intro few
      have listed := kept.listed (Nat.lt_of_le_of_lt (registered_length_le _ _) few)
      simp [added, none_off, Registry.on, listed, fresh]
    bodies := by
      simp only [Registry.on, List.mem_append, List.mem_singleton]
      rintro found (known | rfl)
      · exact kept.bodies found known
      · exact single }

theorem off (kept : Kept past s r) {number : Nat} (issued : number < (registered past).length)
    (depth : Nat) {running listener : Option Nat} (target : listener.or running = some number) :
    Kept (past ++ [.did depth running (.off emitter listener) (.removed (r.off (idOf number)).1)])
      { s with registries := [(r.off (idOf number)).2] } (r.off (idOf number)).2 := by
  have none_on : registered [.did depth running (.off emitter listener)
      (.removed (r.off (idOf number)).1)] = [] := rfl
  have removal : removed [.did depth running (.off emitter listener)
      (.removed (r.off (idOf number)).1)] = if (r.off (idOf number)).1 then [number] else [] := by
    cases (r.off (idOf number)).1 <;> simp [removed, Occurrence.removal?, target]
  exact {
    alone := rfl
    shared := kept.shared
    lastId := by
      simp only [registered_append, none_on, List.append_nil]
      exact kept.lastId
    issued := by simp [none_on, kept.issued]
    numbers := by simp [none_on, kept.numbers]
    gone := by
      simp only [removed_append, removal, registered_append, none_on, List.append_nil,
        List.mem_append]
      rintro found (known | own)
      · exact kept.gone found known
      · obtain ⟨-, rfl⟩ : (r.off (idOf number)).1 = true ∧ found = number := by simpa using own
        exact issued
    named := fun found known => kept.named found (List.mem_filter.mp known).1
    known := by
      simp only [registered_append, none_on, List.append_nil]
      exact fun found known => kept.known found (List.mem_filter.mp known).1
    listed := by
      simp only [registered_append, none_on, List.append_nil, removed_append, removal]
      intro few
      have was : (r.off (idOf number)).1 = true ↔
          number ∈ (registered past).map Prod.fst ∧ number ∉ removed past := kept.any_id few issued
      have remaining : (r.off (idOf number)).2.listeners =
          r.listeners.filter (·.action.number ≠ number) := by
        refine List.filter_congr fun listener known => ?_
        simp [kept.id_eq_iff few issued known]
      have standing : ((registered past).filter fun entry =>
            entry.1 ≠ number ∧ entry.1 ∉ removed past) =
          (registered past).filter fun entry =>
            entry.1 ∉ removed past ++ if (r.off (idOf number)).1 then [number] else [] := by
        refine List.filter_congr fun entry known => ?_
        have listed : entry.1 ∈ (registered past).map Prod.fst := List.mem_map_of_mem known
        cases outcome : (r.off (idOf number)).1 <;> grind
      have filtered := congrArg (List.filter (·.1 ≠ number)) (kept.listed few)
      rw [← standing, remaining]
      simpa [List.filter_map, List.filter_filter, Function.comp_def] using filtered
    bodies := fun found known => kept.bodies found (List.mem_filter.mp known).1 }

end Kept

end DuplexRpc.Script
