import Mathlib.Data.List.Induction
import DuplexRpc.Json.Value

/-!
# Members by name

Gathered members are in the strict order of their names, and the last member of a name is the one
that is found.  Members that are in order already are gathered unchanged.
-/

namespace DuplexRpc.Json.Members

def Sorted (members : Members) : Prop := members.Pairwise fun first second => first.1 < second.1

def names (members : Members) : List String := members.map (·.1)

variable {name other : String} {v : Value} {members : Members}

/-! ## Looking up -/

@[simp] theorem get?_nil : Members.get? name [] = none := rfl

@[simp] theorem get?_cons :
    Members.get? name ((other, v) :: members) =
      if name = other then some v else members.get? name := rfl

theorem get?_append (members later : Members) :
    Members.get? name (members ++ later) = (members.get? name).or (later.get? name) := by
  induction members with
  | nil => simp
  | cons entry members ih =>
      obtain ⟨other, v⟩ := entry
      by_cases same : name = other <;> simp [same, ih]

theorem get?_eq_none (absent : name ∉ names members) : members.get? name = none := by
  induction members with
  | nil => rfl
  | cons entry members ih =>
      obtain ⟨other, v⟩ := entry
      obtain ⟨different, absent⟩ : name ≠ other ∧ name ∉ names members := by
        simpa [names] using absent
      simp [different, ih absent]

theorem get?_of_mem (distinct : (names members).Nodup) (listed : (name, v) ∈ members) :
    members.get? name = some v := by
  induction members with
  | nil => cases listed
  | cons entry members ih =>
      obtain ⟨other, w⟩ := entry
      obtain ⟨absent, distinct⟩ := List.nodup_cons.mp distinct
      rcases List.mem_cons.mp listed with same | later
      · obtain ⟨rfl, rfl⟩ := Prod.mk.inj same
        simp
      · have different : name ≠ other := by
          rintro rfl
          exact absent (List.mem_map.mpr ⟨(name, v), later, rfl⟩)
        simpa [different] using ih distinct later

theorem mem_of_get? (found : members.get? name = some v) : (name, v) ∈ members := by
  induction members with
  | nil => cases found
  | cons entry members ih =>
      obtain ⟨other, w⟩ := entry
      rw [get?_cons] at found
      split at found
      · rename_i same
        obtain rfl := Option.some.inj found
        exact same ▸ List.mem_cons_self
      · exact List.mem_cons_of_mem _ (ih found)

theorem get?_reverse (distinct : (names members).Nodup) :
    Members.get? name members.reverse = members.get? name := by
  induction members with
  | nil => rfl
  | cons entry members ih =>
      obtain ⟨other, v⟩ := entry
      obtain ⟨absent, distinct⟩ := List.nodup_cons.mp distinct
      rw [List.reverse_cons, get?_append, ih distinct]
      by_cases same : name = other
      · subst same
        simp [get?_eq_none absent]
      · simp [same]

/-! ## Gathering -/

theorem get?_insert : (members.insert other v).get? name =
    if name = other then some v else members.get? name := by
  induction members with
  | nil => simp [insert]
  | cons entry members ih =>
      obtain ⟨next, kept⟩ := entry
      rw [insert]
      by_cases same : other = next
      · subst same
        simp only [if_true, get?_cons]
        split <;> rfl
      · by_cases before : other < next
        · simp [same, before]
        · simp only [same, before, if_false, get?_cons, ih]
          grind

theorem ofList_concat : ofList (members ++ [(name, v)]) = (ofList members).insert name v := by
  simp [ofList]

theorem get?_ofList : (ofList members).get? name = Members.get? name members.reverse := by
  induction members using List.reverseRecOn with
  | nil => rfl
  | append_singleton members entry ih =>
      obtain ⟨other, v⟩ := entry
      rw [ofList_concat, get?_insert, ih, List.reverse_append]
      rfl

theorem mem_insert {entry : String × Value} (listed : entry ∈ members.insert other v) :
    entry = (other, v) ∨ entry ∈ members := by
  induction members with
  | nil => simpa [insert] using listed
  | cons head members ih =>
      rw [insert] at listed
      split at listed <;> grind

theorem Sorted.insert (sorted : Sorted members) : Sorted (members.insert other v) := by
  induction members with
  | nil => simp [Members.insert, Sorted]
  | cons head members ih =>
      obtain ⟨next, kept⟩ := head
      obtain ⟨above, later⟩ := List.pairwise_cons.mp sorted
      rw [Members.insert]
      by_cases same : other = next
      · subst same
        rw [if_pos rfl]
        exact List.pairwise_cons.mpr ⟨above, later⟩
      · by_cases before : other < next
        · simp only [same, before, if_true, if_false]
          refine List.pairwise_cons.mpr ⟨fun entry listed => ?_, sorted⟩
          rcases List.mem_cons.mp listed with rfl | listed
          · exact before
          · exact String.lt_trans before (above entry listed)
        · have after : next < other := by grind
          simp only [same, before, if_false]
          refine List.pairwise_cons.mpr ⟨fun entry listed => ?_, ih later⟩
          rcases mem_insert listed with rfl | listed
          · exact after
          · exact above entry listed

theorem sorted_ofList (members : Members) : Sorted (ofList members) := by
  induction members using List.reverseRecOn with
  | nil => exact List.Pairwise.nil
  | append_singleton members entry ih =>
      rw [ofList_concat]
      exact ih.insert

theorem mem_ofList {entry : String × Value} (kept : entry ∈ ofList members) : entry ∈ members := by
  induction members using List.reverseRecOn with
  | nil => cases kept
  | append_singleton members last ih =>
      rw [ofList_concat] at kept
      rcases mem_insert kept with rfl | earlier
      · simp
      · exact List.mem_append_left _ (ih earlier)

theorem Sorted.nodup_names (sorted : Sorted members) : (names members).Nodup := by
  refine List.pairwise_map.mpr (sorted.imp ?_)
  rintro first second before same
  exact String.lt_irrefl second.1 (same ▸ before)

theorem get?_ofList_of_distinct (distinct : (names members).Nodup) :
    (ofList members).get? name = members.get? name := by
  rw [get?_ofList, get?_reverse distinct]

theorem insert_of_above (above : ∀ entry ∈ members, entry.1 < other) :
    members.insert other v = members ++ [(other, v)] := by
  induction members with
  | nil => rfl
  | cons head members ih =>
      obtain ⟨next, kept⟩ := head
      have below : next < other := above (next, kept) (by simp)
      have later := ih fun entry listed => above entry (List.mem_cons_of_mem _ listed)
      have different : other ≠ next := by
        rintro rfl
        exact String.lt_irrefl _ below
      have not_before : ¬other < next := fun before =>
        String.lt_irrefl _ (String.lt_trans before below)
      simp only [insert, different, not_before, if_false, later, List.cons_append]

theorem Sorted.ofList_eq (sorted : Sorted members) : ofList members = members := by
  induction members using List.reverseRecOn with
  | nil => rfl
  | append_singleton members entry ih =>
      obtain ⟨earlier, -, above⟩ := List.pairwise_append.mp sorted
      rw [ofList_concat, ih earlier]
      exact insert_of_above fun entry listed => above entry listed _ (List.mem_singleton_self _)

end DuplexRpc.Json.Members
