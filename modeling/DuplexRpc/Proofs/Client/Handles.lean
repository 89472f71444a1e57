import DuplexRpc.Event.Script
import DuplexRpc.Proofs.Client.Listeners
import DuplexRpc.Proofs.Event.Handles

/-!
# Handles of other emitters

A client is the owner of an emitter that already has listeners, its own ones, which were given the
first numbers.  So a handle that another emitter gave out may be taken for one of them.  Until its
numbers come round, a client gives out only greater ones than that of the listener for the closing,
but other emitters start with its number.
-/

namespace DuplexRpc.Client

open DuplexRpc.Registry

variable {ω ι : Type} {policy : PendingPolicy} {id : ListenerId}

/-- Whose an emitter is. -/
inductive Origin where
  | nobody
  | client (policy : PendingPolicy) (requestTimeout : Option Time)

namespace Origin

def registry : Origin → Registry (Reaction ω)
  | nobody => {}
  | client policy requestTimeout => (launch policy requestTimeout : Client ω).listeners

theorem registry_client (policy : PendingPolicy) (requestTimeout : Option Time) :
    ((client policy requestTimeout).registry : Registry (Reaction ω)) =
      { lastId := UInt64.ofNat (own policy : List (Listener (Reaction ω))).length
        listeners := own policy } := by
  cases policy <;> rfl

theorem counted_registry (origin : Origin) :
    (origin.registry : Registry (Reaction ω)).Counted := by
  cases origin with
  | nobody => exact nofun
  | client policy requestTimeout =>
      rw [registry_client]
      cases policy <;> simp [Counted, ids, own, closer, rejecter]

end Origin

theorem mem_off_iff {r : Registry (Reaction ω)} {listener : Listener (Reaction ω)} :
    listener ∈ (r.off id).2.listeners ↔ listener ∈ r.listeners ∧ listener.id ≠ id := by
  simp [Registry.off]

/-- The numbers that a client's emitter gives out are above those of its own listeners. -/
theorem own_lt_of_given [DecidableEq ι] {origins : ι → Origin} {e : ι}
    {requestTimeout : Option Time} {uses : List (Use ι (Reaction ω))}
    (owned : origins e = .client policy requestTimeout)
    (room : Room ((origins e).registry : Registry (Reaction ω))
      (given e (Registry.run (fun e => (origins e).registry) uses).2))
    (known : id ∈ given e (Registry.run (fun e => (origins e).registry) uses).2) :
    1 < id.value ∧ (policy = .rejectOnDisconnect → 2 < id.value) := by
  have numbered := numbered_run (fun e => (origins e).counted_registry) uses e
  have above := ((numbered.mem_given_iff room).mp known).1
  rw [owned, Origin.registry_client] at above
  cases policy with
  | keepAcrossReconnect => exact ⟨above, nofun⟩
  | rejectOnDisconnect =>
      have above : 2 < id.value := above
      exact ⟨UInt64.lt_trans (by decide) above, fun _ => above⟩

/-- The emitters that are used are any number of clients and of others.  A handle, whoever gave it
out, is taken for the number that it is: until the numbers of an emitter come round, it takes a
listener off exactly if the emitter gave that number to a listener and did not take it off yet;
then it takes off no other, and otherwise it changes nothing.  No other emitter is concerned.  The
handle of a client never takes the listener for the closing off another client, and the one for
lost links only if it is the first handle of a client without such a listener. -/
theorem handle_taken_for_number [DecidableEq ι] (origins : ι → Origin)
    (uses : List (Use ι (Reaction ω))) :
    let first (e : ι) : Registry (Reaction ω) := (origins e).registry
    let after := (Registry.run first uses).1
    let seen := (Registry.run first uses).2
    (∀ e, given e seen =
      (List.range (given e seen).length).map fun k =>
        ⟨(first e).lastId + UInt64.ofNat (k + 1)⟩) ∧
    (∀ e id,
      (Room (first e) (given e seen) → (((after e).off id).1 = true ↔
        (id ∈ (first e).ids ∨ id ∈ given e seen) ∧ id ∉ gone e seen)) ∧
      (((after e).off id).1 = false → ((after e).off id).2 = after e) ∧
      (∀ listener ∈ (after e).listeners, listener.id ≠ id →
        listener ∈ ((after e).off id).2.listeners) ∧
      ∀ other, other ≠ e → (Registry.step after (.off e id)).1 other = after other) ∧
    ∀ e f policy requestTimeout, origins f = .client policy requestTimeout →
      Room (first f) (given f seen) → ∀ id ∈ given f seen,
        (closer ∈ (after e).listeners → closer ∈ ((after e).off id).2.listeners) ∧
        (rejecter ∈ (after e).listeners → rejecter ∉ ((after e).off id).2.listeners →
          id = ⟨2⟩ ∧ policy = .keepAcrossReconnect) := by
  intro first after seen
  have numbered := numbered_run (fun e => (origins e).counted_registry (ω := ω)) uses
  refine ⟨fun e => (numbered e).numbers, fun e id => ⟨?taken, off_eq_self, ?others, ?apart⟩, ?own⟩
  case taken => exact fun room => off_eq_true_iff.trans ((numbered e).mem_ids_iff room)
  case others => exact fun listener listed different => mem_off_iff.mpr ⟨listed, different⟩
  case apart => exact fun other apart => step_other apart
  case own =>
      intro e f policy requestTimeout owned room id known
      obtain ⟨above, beyond⟩ := own_lt_of_given owned room known
      constructor
      · intro listed
        refine mem_off_iff.mpr ⟨listed, ?_⟩
        rintro rfl
        exact UInt64.lt_irrefl 1 above
      · intro listed removed
        have same : (rejecter : Listener (Reaction ω)).id = id := by
          by_contra different
          exact removed (mem_off_iff.mpr ⟨listed, different⟩)
        refine ⟨same.symm, ?_⟩
        cases policy with
        | keepAcrossReconnect => rfl
        | rejectOnDisconnect => exact absurd (beyond rfl) (same ▸ UInt64.lt_irrefl 2)

/-- The first listener that one client registers gets the number of another's own. -/
theorem first_handle_taken_for_rejecter :
    let origins (keeps : Bool) : Origin :=
      .client (if keeps then .keepAcrossReconnect else .rejectOnDisconnect) none
    let first (keeps : Bool) : Registry (Reaction Unit) := (origins keeps).registry
    let uses : List (Use Bool (Reaction Unit)) := [.on true "connect" (.observe ())]
    let after := (Registry.run first uses).1
    given true (Registry.run first uses).2 = [⟨2⟩] ∧ rejecter ∈ (after false).listeners ∧
      ((after false).off ⟨2⟩).1 = true ∧ closer ∈ ((after false).off ⟨2⟩).2.listeners := by
  intro origins first uses after
  obtain ⟨-, taken, spared⟩ := handle_taken_for_number (ω := Unit) origins uses
  have known : given true (Registry.run first uses).2 = [⟨2⟩] := rfl
  have none_given : given false (Registry.run first uses).2 = [] := rfl
  have listed : (first false).ids = [⟨1⟩, ⟨2⟩] := rfl
  have room : Room (first false) (given false (Registry.run first uses).2) := by
    rw [none_given]
    exact (by decide : 2 + 0 < 2 ^ 64)
  have foreign : Room (first true) (given true (Registry.run first uses).2) := by
    rw [known]
    exact (by decide : 1 + 1 < 2 ^ 64)
  refine ⟨known, List.mem_cons_of_mem _ List.mem_cons_self, ?_, ?_⟩
  · refine ((taken false ⟨2⟩).1 room).mpr ⟨.inl ?_, List.not_mem_nil⟩
    show ⟨2⟩ ∈ (first false).ids
    simp [listed]
  · refine (spared false true .keepAcrossReconnect none rfl foreign ⟨2⟩ ?_).1 List.mem_cons_self
    show ⟨2⟩ ∈ given true (Registry.run first uses).2
    simp [known]

/-- Two emitters, each with one listener: the handle of the first one takes the listener off the
second.  The first handle of an emitter takes the listener for the closing off a client, and the
first handle of a client takes the listener for lost links off another one. -/
theorem foreign_handle_takes_listener_off :
    (Script.run [.newEmitter, .on 0 "connect" fun _ => .done, .on 1 "connect" fun _ => .done,
      .off 1 (some 0), .count 1 "connect"] {}).map (·.1) =
        [.emitter 1, .listener 0, .listener 1, .removed true, .counted 0] ∧
    (let foreign := (({} : Registry Unit).on "connect" ()).1
     let client : Client Unit := launch .keepAcrossReconnect none
     (client.off foreign).1 = true ∧ client.listeners.count "close" = 1 ∧
       (client.off foreign).2.listeners.count "close" = 0) ∧
    (let foreign := ((launch .keepAcrossReconnect none : Client Unit).listen "connect" ()).1
     let client : Client Unit := launch .rejectOnDisconnect none
     (client.off foreign).1 = true ∧ client.listeners.count "disconnect" = 1 ∧
       (client.off foreign).2.listeners.count "disconnect" = 0) := by
  decide

end DuplexRpc.Client
