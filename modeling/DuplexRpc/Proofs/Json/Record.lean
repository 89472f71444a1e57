import DuplexRpc.Json.Reader
import DuplexRpc.Proofs.Json.Members

/-!
# Reading records

A record takes the members of an object one after another.  Each one that it knows is read by its
field, and all others are passed over.
-/

namespace DuplexRpc.Json

theorem Field.of_ofValue {σ α : Type} {name : String} {required : Bool} {r : Reader α}
    {get : σ → Option α} {set : α → σ → σ} {v : Value} {a : α} (draft : σ)
    (read : r.ofValue v = .ok a) :
    (Field.of name required r get set).ofValue v draft = .ok (set a draft) := by
  simp [Field.of, read, bind, Except.bind]

@[simp] theorem Field.of_name {σ α : Type} {name : String} {required : Bool} {r : Reader α}
    {get : σ → Option α} {set : α → σ → σ} : (Field.of name required r get set).name = name := rfl

namespace Record

variable {σ α : Type} {r : Record σ α} {name : String} {v : Value} {draft filled : σ}
variable {members : Members}

theorem fillMembers_known {field : Field σ} (known : r.field? name = some field)
    (read : field.ofValue v draft = .ok filled) :
    r.fillMembers draft ((name, v) :: members) = r.fillMembers filled members := by
  simp [fillMembers, known, read, bind, Except.bind]

theorem fillMembers_unknown (unknown : r.field? name = none) :
    r.fillMembers draft ((name, v) :: members) = r.fillMembers draft members := by
  simp [fillMembers, unknown]

/-- What a record is filled with, said by the names of the members.  It is enough to say how one
member changes what the members behind it fill in. -/
theorem fillMembers_eq {overlay : σ → Members → σ} (fits : String → Value → Prop)
    (nil : ∀ draft, overlay draft [] = draft)
    (known : ∀ field ∈ r.fields, ∀ v draft members, fits field.name v →
      members.get? field.name = none → ∃ filled, field.ofValue v draft = .ok filled ∧
        overlay filled members = overlay draft ((field.name, v) :: members))
    (unknown : ∀ name v draft members, (∀ field ∈ r.fields, field.name ≠ name) →
      overlay draft ((name, v) :: members) = overlay draft members)
    (distinct : (Members.names members).Nodup) (all : ∀ entry ∈ members, fits entry.1 entry.2) :
    r.fillMembers draft members = .ok (overlay draft members) := by
  induction members generalizing draft with
  | nil => rw [nil, fillMembers]
  | cons entry members ih =>
      obtain ⟨name, v⟩ := entry
      obtain ⟨absent, distinct⟩ := List.nodup_cons.mp distinct
      have later : ∀ draft, r.fillMembers draft members = .ok (overlay draft members) :=
        fun _ => ih distinct fun entry listed => all entry (List.mem_cons_of_mem _ listed)
      cases found : r.field? name with
      | none =>
          have others : ∀ field ∈ r.fields, field.name ≠ name := by
            simpa [field?] using found
          rw [fillMembers_unknown found, later, unknown name v draft members others]
      | some field =>
          obtain rfl : field.name = name := by simpa using List.find?_some found
          obtain ⟨filled, read, same⟩ := known field (List.mem_of_find?_eq_some found) v draft
            members (all _ List.mem_cons_self) (Members.get?_eq_none absent)
          rw [fillMembers_known found read, later, same]

theorem ofValue_object (read : r.fillMembers r.empty members = .ok filled) :
    r.ofValue (.object members) = r.build filled := by
  simp [ofValue, read, bind, Except.bind]

/-- A member that its field refuses makes the object unreadable, wherever it stands. -/
theorem fillMembers_refused {field : Field σ} (known : r.field? name = some field)
    (refuses : ∀ draft filled, field.ofValue v draft ≠ .ok filled)
    (listed : (name, v) ∈ members) : r.fillMembers draft members ≠ .ok filled := by
  induction members generalizing draft with
  | nil => cases listed
  | cons entry members ih =>
      obtain ⟨other, w⟩ := entry
      cases found : r.field? other with
      | none =>
          rw [fillMembers_unknown found]
          rcases List.mem_cons.mp listed with same | later
          · obtain ⟨rfl, -⟩ := Prod.mk.inj same
            cases known.symm.trans found
          · exact ih later
      | some reading =>
          cases read : reading.ofValue w draft with
          | error reason => simp [fillMembers, found, read, bind, Except.bind]
          | ok next =>
              rw [fillMembers_known found read]
              rcases List.mem_cons.mp listed with same | later
              · obtain ⟨rfl, rfl⟩ := Prod.mk.inj same
                obtain rfl := Option.some.inj (known.symm.trans found)
                exact absurd read (refuses draft next)
              · exact ih later

end Record

/-! ## Scalars, and members that may be absent -/

def Value.string? : Value → Option String
  | .string s => some s
  | _ => none

def Value.int64? : Value → Option Int64
  | .int n => if isInt64 n then some (Int64.ofInt n) else none
  | _ => none

theorem string_ofValue {v : Value} {s : String} (given : v.string? = some s) :
    Reader.string.ofValue v = .ok s := by
  cases v with
  | string t => exact congrArg Except.ok (Option.some.inj given)
  | _ => cases given

theorem int64_ofValue {v : Value} {n : Int64} (given : v.int64? = some n) :
    Reader.int64.ofValue v = .ok n := by
  cases v with
  | int m =>
      by_cases fits : isInt64 m
      · obtain rfl : Int64.ofInt m = n := by simpa [Value.int64?, fits] using given
        have bounded : int64Min ≤ m ∧ m ≤ int64Max := by simpa [isInt64] using fits
        simp [Reader.int64, Reader.integer, Reader.map, Reader.refine, Reader.scalar, bind,
          Except.bind, bounded]
      · simp [Value.int64?, fits] at given
  | _ => cases given

def Value.Textual (v : Value) : Prop := v = .null ∨ ∃ s, v = .string s

theorem optional_string {v : Value} (textual : v.Textual) :
    Reader.string.optional.ofValue v = .ok v.string? := by
  rcases textual with rfl | ⟨s, rfl⟩ <;> rfl

theorem optional_string_refused {v : Value} (misfit : ¬v.Textual) (s : Option String) :
    Reader.string.optional.ofValue v ≠ .ok s := by
  cases v with
  | null => exact absurd (.inl rfl) misfit
  | string s => exact absurd (.inr ⟨s, rfl⟩) misfit
  | _ => nofun

theorem optional_value (v : Value) : Reader.value.optional.ofValue v = .ok v.nonNull? := by
  cases v <;> rfl

@[simp] theorem nonNull?_ne_null (v : Value) : v.nonNull? ≠ some .null := by
  cases v <;> simp [Value.nonNull?, Value.isNull]

end DuplexRpc.Json
