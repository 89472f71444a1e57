import DuplexRpc.Proofs.Json.Denoted
import DuplexRpc.Proofs.Json.Record

/-!
# What typed readers accept

Which values a reader takes, and what it makes of them.
-/

namespace DuplexRpc.Json

theorem bind_eq_ok_iff {ε α β : Type} {x : Except ε α} {f : α → Except ε β} {b : β} :
    (x >>= f) = .ok b ↔ ∃ a, x = .ok a ∧ f a = .ok b := by
  cases x <;> simp [bind, Except.bind]

theorem required_eq_ok_iff {α : Type} {name : String} {a? : Option α} {a : α} :
    required name a? = .ok a ↔ a? = some a := by
  cases a? <;> simp [required]

section Readers

variable {α β : Type} {r : Reader α} {v : Value}

theorem refine_ofValue_iff {check : α → Except Mismatch β} {b : β} :
    (r.refine check).ofValue v = .ok b ↔ ∃ a, r.ofValue v = .ok a ∧ check a = .ok b :=
  bind_eq_ok_iff

theorem map_ofValue_iff {f : α → β} {b : β} :
    (r.map f).ofValue v = .ok b ↔ ∃ a, r.ofValue v = .ok a ∧ f a = b := by
  simp only [Reader.map, refine_ofValue_iff, Except.ok.injEq]

theorem integer_ofValue_iff {wanted : String} {low high n : Int} :
    (Reader.integer wanted low high).ofValue v = .ok n ↔ v = .int n ∧ low ≤ n ∧ n ≤ high := by
  cases v with
  | int m =>
      simp only [Reader.integer, Reader.scalar, Bool.and_eq_true, decide_eq_true_eq]
      split <;> grind
  | _ => simp [Reader.integer, Reader.scalar]

theorem string_ofValue_iff {s : String} : Reader.string.ofValue v = .ok s ↔ v = .string s := by
  cases v <;> simp [Reader.string, Reader.scalar]

theorem int64_ofValue_iff {n : Int64} : Reader.int64.ofValue v = .ok n ↔ v = .int n.toInt := by
  simp only [Reader.int64, map_ofValue_iff, integer_ofValue_iff]
  constructor
  · rintro ⟨m, ⟨rfl, bounds⟩, rfl⟩
    rw [toInt_ofInt_of_isInt64 (by simpa [isInt64] using bounds)]
  · rintro rfl
    exact ⟨n.toInt, ⟨rfl, by simpa [isInt64] using isInt64_toInt n⟩, Int64.ofInt_toInt n⟩

theorem uint64_ofValue_iff {n : UInt64} : Reader.uint64.ofValue v = .ok n ↔ v = .int n.toNat := by
  simp only [Reader.uint64, map_ofValue_iff, integer_ofValue_iff]
  constructor
  · rintro ⟨m, ⟨rfl, low, high⟩, rfl⟩
    simp only [uint64Max] at high
    rw [UInt64.toNat_ofNat_of_lt' (by simp only [UInt64.size]; omega), Int.toNat_of_nonneg low]
  · rintro rfl
    have bounded := n.toNat_lt
    exact ⟨n.toNat, ⟨rfl, by omega, by simp only [uint64Max]; omega⟩, by simp⟩

theorem optional_ofValue_iff {a? : Option α} :
    r.optional.ofValue v = .ok a? ↔
      v = .null ∧ none = a? ∨ v ≠ .null ∧ ∃ a, r.ofValue v = .ok a ∧ some a = a? := by
  have mapped {x : Except Mismatch α} : x.map some = .ok a? ↔ ∃ a, x = .ok a ∧ some a = a? := by
    cases x <;> simp [Except.map]
  cases v <;> simp [Reader.optional, Value.isNull, mapped]

end Readers

section Fields

variable {σ α : Type} {name : String} {required : Bool} {rd : Reader α} {get : σ → Option α}
  {set : α → σ → σ} {v : Value} {draft filled : σ}

theorem Field.of_ofValue_eq_ok_iff :
    (Field.of name required rd get set).ofValue v draft = .ok filled ↔
      ∃ a, rd.ofValue v = .ok a ∧ set a draft = filled := by
  simp only [Field.of, bind_eq_ok_iff, Except.ok.injEq]

/-- Every member that a record knows was accepted by its field. -/
theorem Record.accepted_of_fillMembers {r : Record σ α} {field : Field σ} {members : Members}
    (known : r.field? name = some field) (read : r.fillMembers draft members = .ok filled)
    (listed : (name, v) ∈ members) : ∃ before after, field.ofValue v before = .ok after := by
  by_contra refused
  push Not at refused
  exact fillMembers_refused known refused listed read

end Fields

section Members

variable {σ α : Type} {r : Record σ α}

/-- What one member does to the draft. -/
def Record.take (r : Record σ α) (draft : σ) (entry : String × Value) : Except Mismatch σ :=
  match r.field? entry.1 with
  | none => .ok draft
  | some field => field.ofValue entry.2 draft

theorem Record.fillMembers_cons (draft : σ) (entry : String × Value) (members : Members) :
    r.fillMembers draft (entry :: members) =
      r.take draft entry >>= fun next => r.fillMembers next members := by
  obtain ⟨name, v⟩ := entry
  cases known : r.field? name <;> simp [fillMembers, take, known, bind, Except.bind]

end Members

/-! ## Arrays -/

section Arrays

variable {σ α : Type} {r : Record σ α} {field : Field σ} {fields : List (Field σ)} {n : Nat}
  {draft : σ} {v : Value} {items : List Value} {out : σ × List Value} {a : α}

@[simp] theorem Field.of_required {name : String} {required : Bool} {rd : Reader α}
    {get : σ → Option α} {set : α → σ → σ} :
    (Field.of name required rd get set).required = required := rfl

@[simp] theorem Record.fillItems_nil : r.fillItems n [] draft items = .ok (draft, items) := by
  cases items <;> rfl

theorem Record.fillItems_cons_iff :
    r.fillItems n (field :: fields) draft (v :: items) = .ok out ↔
      ∃ next, field.ofValue v draft = .ok next ∧ r.fillItems (n + 1) fields next items = .ok out :=
  bind_eq_ok_iff

theorem Record.fillItems_missing_iff :
    r.fillItems n (field :: fields) draft [] = .ok out ↔
      field.required = false ∧ r.fillItems n fields draft [] = .ok out := by
  rw [fillItems]
  split <;> simp_all

/-- All items of an array are taken, or it is refused. -/
theorem Record.ofValue_array_iff :
    r.ofValue (.array items) = .ok a ↔
      ∃ filled, r.fillItems 0 r.fields r.empty items = .ok (filled, []) ∧
        r.build filled = .ok a := by
  simp only [ofValue, bind_eq_ok_iff, Prod.exists]
  constructor
  · rintro ⟨filled, extra, fills, b, built, finished⟩
    cases extra with
    | nil => exact ⟨filled, fills, built.trans finished⟩
    | cons v extra => cases finished
  · rintro ⟨filled, fills, built⟩
    exact ⟨filled, [], fills, a, built, rfl⟩

end Arrays

end DuplexRpc.Json
