import DuplexRpc.Proofs.Json.Denoted
import DuplexRpc.Proofs.Wire.Reading
import DuplexRpc.Wire.Codec

/-!
# What a decoded message can hold

A message is decoded from the members of the object that its text denotes.  A member that is written
as `null` reads as a member that is absent.
-/

namespace DuplexRpc.Wire

open DuplexRpc.Json

theorem RequestId.toNat_pos (r : RequestId) : 0 < r.toNat := by
  apply Nat.pos_of_ne_zero
  intro zero
  exact r.ne_zero (UInt64.toNat_inj.mp zero)

theorem RequestId.ofUInt64?_eq_some_iff {r : RequestId} {raw : UInt64} :
    RequestId.ofUInt64? raw = some r ↔ raw = r.value := by
  unfold RequestId.ofUInt64?
  split
  · rename_i zero
    apply iff_of_false (by simp)
    rw [zero]
    exact r.ne_zero.symm
  · obtain ⟨value, ne_zero⟩ := r
    simp

/-- Classifying an id loses nothing of it. -/
theorem Id.toValue_ofValue (v : Value) : (Id.ofValue v).toValue = v := by
  cases v with
  | int i =>
      by_cases fits : isInt64 i
      · simp [Id.ofValue, Id.toValue, fits, toInt_ofInt_of_isInt64 fits]
      · simp [Id.ofValue, Id.toValue, fits]
  | _ => rfl

namespace Message

variable {text : String} {m : Message} {fault : Fault} {members : Members}

theorem decode_object (denoted : Denotes text (.object members)) :
    decode text = match reader.ofValue (.object members) with
      | .ok m => .ok m
      | .error reason => .error (.rpc (.invalidRequest reason.message)) := by
  have parsed := parse_eq_some_iff.mpr denoted
  unfold decode
  cases read : reader.ofValue (.object members) <;> simp [parsed, read]

theorem decode_eq_ok_iff :
    decode text = .ok m ↔ ∃ members : Members, Denotes text (.object members) ∧
      (∀ v, members.get? "jsonrpc" = some v → v.Textual) ∧
      (∀ v, members.get? "method" = some v → v.Textual) ∧ m = ofMembers members := by
  constructor
  · intro decoded
    unfold decode at decoded
    split at decoded
    case h_3 members parsed =>
        have denoted := parse_eq_some_iff.mp parsed
        split at decoded
        · rename_i read
          cases decoded
          exact ⟨members, denoted, (reader_object_iff denoted.sorted.nodup_names).mp read⟩
        · cases decoded
    all_goals cases decoded
  · rintro ⟨members, denoted, fits⟩
    rw [decode_object denoted, (reader_object_iff denoted.sorted.nodup_names).mpr fits]

/-- There are two ways to fail: the text denotes nothing, or what it denotes is no message. -/
theorem decode_eq_error (failed : decode text = .error fault) :
    ((¬∃ v, Denotes text v) ∧ fault = .rpc .parseError) ∨
      ∃ v reason, Denotes text v ∧ fault = .rpc (.invalidRequest reason) := by
  unfold decode at failed
  split at failed
  case h_1 parsed =>
      cases failed
      exact .inl ⟨parse_eq_none_iff.mp parsed, rfl⟩
  case h_3 members parsed =>
      split at failed
      · cases failed
      · cases failed
        exact .inr ⟨_, _, parse_eq_some_iff.mp parsed, rfl⟩
  all_goals
    rename_i parsed
    cases failed
    exact .inr ⟨_, _, parse_eq_some_iff.mp parsed, rfl⟩

theorem decode_error_ne_null (h : decode text = .ok m) : m.error ≠ some .null := by
  obtain ⟨members, -, -, -, rfl⟩ := decode_eq_ok_iff.mp h
  intro null
  obtain ⟨v, -, given⟩ := Option.bind_eq_some_iff.mp null
  exact nonNull?_ne_null v given

end Message
end DuplexRpc.Wire
