import DuplexRpc.Proofs.Json.Typed
import DuplexRpc.Proofs.Wire.Acceptance
import DuplexRpc.Proofs.Wire.Stability

/-!
# What an error member says

An error member is absent, `null`, a structured error, or any other value.  A structured error is an
object, or an array of its members in order.  No other value is lost: it becomes an internal error
that carries it.
-/

namespace DuplexRpc.Wire

open DuplexRpc.Json

/-- The value spells a structured error. -/
inductive ErrorObject : Value → RpcError → Prop where
  | object {members : Members} {code : Int64} {message : String} {data : Option Value}
      (coded : members.get? "code" = some (.int code.toInt))
      (worded : members.get? "message" = some (.string message))
      (detailed : Message.ValueMember (members.get? "data") data) :
      ErrorObject (.object members) { code, message, data }
  | pair (code : Int64) (message : String) :
      ErrorObject (.array [.int code.toInt, .string message]) { code, message, data := none }
  | triple (code : Int64) (message : String) {v : Value} {data : Option Value}
      (detailed : Message.ValueMember (some v) data) :
      ErrorObject (.array [.int code.toInt, .string message, v]) { code, message, data }

/-- What an error member reads as. -/
inductive ErrorMember : Option Value → Option RpcError → Prop where
  | absent : ErrorMember none none
  | null : ErrorMember (some .null) none
  | structured {v : Value} {e : RpcError} (spelled : ErrorObject v e) :
      ErrorMember (some v) (some e)
  | malformed {v : Value} (present : v ≠ .null) (other : ∀ e, ¬ErrorObject v e) :
      ErrorMember (some v)
        (some { code := -32603, message := "Malformed error object", data := some v })

variable {v : Value} {e : RpcError} {e? : Option RpcError} {members : Members}

namespace RpcError

theorem optional_value_iff {a? : Option Value} :
    Reader.value.optional.ofValue v = .ok a? ↔ Message.ValueMember (some v) a? := by
  rw [optional_value, Except.ok.injEq, Message.valueMember_iff, eq_comm]
  rfl

/-- What was read had a code and a message that fit. -/
theorem reader_object_fits (read : reader.ofValue (.object members) = .ok e) :
    (∀ v, members.get? "code" = some v → ∃ n : Int64, v = .int n.toInt) ∧
      ∀ v, members.get? "message" = some v → ∃ s, v = .string s := by
  obtain ⟨filled, fills, -⟩ := bind_eq_ok_iff.mp read
  constructor
  · intro v found
    obtain ⟨_, _, taken⟩ := Record.accepted_of_fillMembers rfl fills (Members.mem_of_get? found)
    obtain ⟨n, given, -⟩ := Field.of_ofValue_eq_ok_iff.mp taken
    exact ⟨n, int64_ofValue_iff.mp given⟩
  · intro v found
    obtain ⟨_, _, taken⟩ := Record.accepted_of_fillMembers rfl fills (Members.mem_of_get? found)
    obtain ⟨s, given, -⟩ := Field.of_ofValue_eq_ok_iff.mp taken
    exact ⟨s, string_ofValue_iff.mp given⟩

theorem reader_object_iff (distinct : (Members.names members).Nodup) :
    reader.ofValue (.object members) = .ok e ↔ ErrorObject (.object members) e := by
  constructor
  · intro read
    obtain ⟨code, message⟩ := reader_object_fits read
    have overlaid :
        record.fillMembers record.empty members = .ok (record.empty.overlay members) := by
      refine fillMembers_eq _ distinct (fun v found => ?_) (fun v found => ?_)
      · obtain ⟨n, rfl⟩ := code v found
        simp [Value.int64?, isInt64_toInt]
      · obtain ⟨s, rfl⟩ := message v found
        rfl
    have built := (Record.ofValue_object overlaid).symm.trans read
    simp only [record, bind_eq_ok_iff, required_eq_ok_iff, Draft.overlay, Option.or_none] at built
    obtain ⟨n, coded, s, worded, same⟩ := built
    obtain rfl := Except.ok.inj same
    obtain ⟨v, found, coded⟩ := Option.bind_eq_some_iff.mp coded
    obtain ⟨w, listed, worded⟩ := Option.bind_eq_some_iff.mp worded
    obtain rfl := int64_ofValue_iff.mp (int64_ofValue coded)
    obtain rfl := string_ofValue_iff.mp (string_ofValue worded)
    refine .object found listed (Message.valueMember_iff.mpr ?_)
    simp [← Option.bind_id_eq_join, Option.bind_map]
  · rintro ⟨coded, worded, detailed⟩
    obtain rfl := Message.valueMember_iff.mp detailed
    exact reader_object distinct (by simp [coded, Value.int64?, isInt64_toInt])
      (by simp [worded, Value.string?])

theorem reader_array_iff {items : List Value} :
    reader.ofValue (.array items) = .ok e ↔ ErrorObject (.array items) e := by
  refine Record.ofValue_array_iff.trans ?_
  simp only [record]
  rcases items with _ | ⟨code, _ | ⟨message, _ | ⟨data, items⟩⟩⟩
  all_goals
    simp only [Record.fillItems_cons_iff, Record.fillItems_missing_iff, Record.fillItems_nil,
      Field.of_ofValue_eq_ok_iff, Field.of_required, int64_ofValue_iff, string_ofValue_iff,
      optional_value_iff, bind_eq_ok_iff, required_eq_ok_iff, Except.ok.injEq, Prod.mk.injEq]
  case nil => exact iff_of_false (by simp) (by rintro ⟨⟩)
  case cons.nil => exact iff_of_false (by simp) (by rintro ⟨⟩)
  case cons.cons.nil =>
      constructor
      · rintro ⟨_, ⟨_, ⟨n, rfl, rfl⟩, _, ⟨s, rfl, rfl⟩, -, rfl, -⟩, _, ⟨⟩, _, ⟨⟩, rfl⟩
        exact .pair n s
      · rintro ⟨⟩
        exact ⟨_, ⟨_, ⟨_, rfl, rfl⟩, _, ⟨_, rfl, rfl⟩, trivial, rfl, trivial⟩, _, rfl, _, rfl, rfl⟩
  case cons.cons.cons =>
      constructor
      · rintro ⟨_, ⟨_, ⟨n, rfl, rfl⟩, _, ⟨s, rfl, rfl⟩, _, ⟨_, detailed, rfl⟩, rfl, rfl⟩, _, ⟨⟩, _,
          ⟨⟩, rfl⟩
        exact .triple n s detailed
      · rintro (_ | _ | ⟨_, _, detailed⟩)
        exact ⟨_, ⟨_, ⟨_, rfl, rfl⟩, _, ⟨_, rfl, rfl⟩, _, ⟨_, detailed, rfl⟩, rfl, rfl⟩, _, rfl, _,
          rfl, rfl⟩

theorem reader_iff (ordered : v.Ordered) : reader.ofValue v = .ok e ↔ ErrorObject v e := by
  cases v with
  | object members =>
      cases ordered with
      | scalar scalar => cases scalar
      | object sorted _ => exact reader_object_iff sorted.nodup_names
  | array items => exact reader_array_iff
  | _ => exact iff_of_false nofun nofun

end RpcError

namespace Message

variable {m : Message} {v? : Option Value} {text : String} {written : Members}

theorem errorMember_none_iff : ErrorMember v? none ↔ v? = none ∨ v? = some .null := by
  constructor
  · rintro (_ | _)
    · exact .inl rfl
    · exact .inr rfl
  · rintro (rfl | rfl)
    · exact .absent
    · exact .null

/-- The two ways of writing no error are alike. -/
theorem errorMember_bind_nonNull? :
    ErrorMember (v?.bind Value.nonNull?) e? ↔ ErrorMember v? e? := by
  cases v? with
  | none => rfl
  | some v =>
      cases v with
      | null =>
          constructor
          · rintro ⟨⟩
            exact .null
          · rintro (_ | _ | spelled | ⟨present, -⟩)
            · exact .absent
            · cases spelled
            · exact absurd rfl present
      | _ => rfl

theorem rpcError?_iff (kept : ∀ v ∈ m.error, v ≠ .null ∧ v.Ordered) :
    m.rpcError? = e? ↔ ErrorMember m.error e? := by
  unfold rpcError?
  cases given : m.error with
  | none =>
      constructor
      · rintro rfl
        exact .absent
      · rintro ⟨⟩
        rfl
  | some v =>
      obtain ⟨present, ordered⟩ := kept v given
      have spells {e : RpcError} := RpcError.reader_iff (e := e) ordered
      rw [Option.map_some]
      constructor
      · rintro rfl
        cases read : RpcError.reader.ofValue v with
        | ok e => exact .structured (spells.mp read)
        | error reason =>
            refine .malformed present fun e spelled => ?_
            cases read.symm.trans (spells.mpr spelled)
      · rintro (_ | _ | spelled | ⟨-, other⟩)
        · exact absurd rfl present
        · rw [spells.mpr spelled]
        · cases read : RpcError.reader.ofValue v with
          | ok e => exact absurd (spells.mp read) (other e)
          | error reason => rfl

/-- The error of a decoded message, by the member that its text has. -/
theorem rpcError?_iff_of_decode (decoded : decode text = .ok m) (writes : Writes text written) :
    m.rpcError? = e? ↔ ErrorMember (last? "error" written) e? := by
  have member := valueMember_iff.mp (reads_of_decode decoded writes).error
  rw [← errorMember_bind_nonNull?, ← member]
  refine rpcError?_iff fun v given => ?_
  rw [member] at given
  obtain ⟨w, found, same⟩ := Option.bind_eq_some_iff.mp given
  obtain ⟨rfl, present⟩ := nonNull?_eq_some_iff.mp same
  exact ⟨present, ordered_of_last? writes found⟩

end Message
end DuplexRpc.Wire
