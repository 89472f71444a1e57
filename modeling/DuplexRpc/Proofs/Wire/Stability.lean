import Mathlib
import DuplexRpc.Proofs.Wire.Decode
import DuplexRpc.Proofs.Wire.RoundTrip

/-!
# Messages that were received

Decoding brings a message to a form that writing it and reading it again does not change: no part is
`null`, the id is classified, and every value stands one level below the deepest that a text can
hold.  Such a message is written as a text that decodes to the same message.
-/

namespace DuplexRpc.Wire.Message

open DuplexRpc.Json

variable {text : String} {members : Members} {v : Value} {m : Message}

/-- The members of the message that may be any value but `null`. -/
def parts (m : Message) : List Value := m.params.toList ++ m.result.toList ++ m.error.toList

def values (m : Message) : List Value := m.id.toValue :: m.parts

def FloatFree (m : Message) : Prop := ∀ v ∈ m.values, v.FloatFree

/-- The form that decoding brings a message to. -/
structure Received (m : Message) : Prop where
  id : Id.ofValue m.id.toValue = m.id
  present : ∀ v ∈ m.parts, v ≠ .null
  spelled : ∀ v ∈ m.values, ∃ cs, ValueText (maxDepth - 1) cs v

/-! ## What is read -/

theorem nonNull?_eq_some_iff {w : Value} : w.nonNull? = some v ↔ w = v ∧ v ≠ .null := by
  cases w <;> simp [Value.nonNull?, Value.isNull] <;> grind

theorem mem_parts_ofMembers (listed : v ∈ (ofMembers members).parts) :
    v ≠ .null ∧ ∃ name, (name, v) ∈ members := by
  have part {name : String} (given : (members.get? name).bind Value.nonNull? = some v) :
      v ≠ .null ∧ ∃ name, (name, v) ∈ members := by
    obtain ⟨w, found, kept⟩ := Option.bind_eq_some_iff.mp given
    obtain ⟨rfl, present⟩ := nonNull?_eq_some_iff.mp kept
    exact ⟨present, name, Members.mem_of_get? found⟩
  simp only [parts, ofMembers, List.mem_append, Option.mem_toList] at listed
  rcases listed with (given | given) | given <;> exact part given

theorem idValue_ofMembers (members : Members) :
    (ofMembers members).id.toValue = .null ∨
      ∃ name, (name, (ofMembers members).id.toValue) ∈ members := by
  cases found : members.get? "id" with
  | none => exact .inl (by simp [ofMembers, found, Id.toValue])
  | some v =>
      have same : (ofMembers members).id.toValue = v := by
        simp [ofMembers, found, Id.toValue_ofValue]
      exact .inr ⟨"id", same ▸ Members.mem_of_get? found⟩

theorem received_of_decode (decoded : decode text = .ok m) : m.Received := by
  obtain ⟨members, denoted, -, -, rfl⟩ := decode_eq_ok_iff.mp decoded
  constructor
  case id =>
      cases found : members.get? "id" with
      | none => simp [ofMembers, found, Id.toValue, Id.ofValue]
      | some v => simp [ofMembers, found, Id.toValue_ofValue]
  case present => exact fun v listed => (mem_parts_ofMembers listed).1
  case spelled =>
      have member (v : Value) (listed : ∃ name, (name, v) ∈ members) :
          ∃ cs, ValueText (maxDepth - 1) cs v := by
        obtain ⟨name, listed⟩ := listed
        exact denoted.member listed
      intro v listed
      rcases List.mem_cons.mp listed with rfl | part
      · rcases idValue_ofMembers members with null | listed
        · rw [null]
          exact ⟨_, ScalarText.null.valueText _⟩
        · exact member _ listed
      · exact member v (mem_parts_ofMembers part).2

/-! ## What is written -/

theorem nodup_members (m : Message) : (Members.names m.members).Nodup := by
  obtain ⟨jsonrpc, method, id, params, result, error⟩ := m
  cases jsonrpc <;> cases method <;> cases params <;> cases result <;> cases error <;>
    simp [members, optionalMember, Members.names]

theorem mem_members {entry : String × Value} (listed : entry ∈ m.members) :
    (∃ s, entry.2 = .string s) ∨ entry.2 ∈ m.values := by
  simp only [members, List.mem_append, List.mem_singleton, mem_optionalMember,
    Option.map_eq_some_iff] at listed
  simp only [values, parts, List.mem_cons, List.mem_append, Option.mem_toList]
  rcases listed with ((((⟨_, ⟨s, -, rfl⟩, rfl⟩ | ⟨_, ⟨s, -, rfl⟩, rfl⟩) | rfl) | ⟨v, given, rfl⟩) |
    ⟨v, given, rfl⟩) | ⟨v, given, rfl⟩
  · exact .inl ⟨s, rfl⟩
  · exact .inl ⟨s, rfl⟩
  · exact .inr (.inl rfl)
  all_goals simp [given]

/-- Every part of a message is found under its name. -/
theorem get?_members (m : Message) (name : String) :
    m.members.get? name =
      if name = "jsonrpc" then m.jsonrpc.map .string else
      if name = "method" then m.method.map .string else
      if name = "id" then some m.id.toValue else
      if name = "params" then m.params else
      if name = "result" then m.result else
      if name = "error" then m.error else none := by
  simp only [members, Members.get?_append, get?_optionalMember, Members.get?_cons, Members.get?_nil]
  grind

theorem bind_nonNull? {v? : Option Value} (present : ∀ v ∈ v?, v ≠ .null) :
    v?.bind Value.nonNull? = v? := by
  cases v? with
  | none => rfl
  | some v => exact nonNull?_eq_some_iff.mpr ⟨rfl, present v rfl⟩

theorem bind_string? (s? : Option String) : (s?.map Value.string).bind Value.string? = s? := by
  cases s? <;> rfl

namespace Received

variable {entry : String × Value}

theorem spelled_members (received : m.Received) (listed : entry ∈ m.members) :
    ∃ cs, ValueText (maxDepth - 1) cs entry.2 := by
  rcases mem_members listed with ⟨s, same⟩ | value
  · rw [same]
    exact ⟨_, (Value.Exact.scalarText (.string s) rfl).valueText _⟩
  · exact received.spelled _ value

theorem exact_members (received : m.Received) (free : m.FloatFree) :
    (Value.object m.members).Exact := by
  apply Value.Exact.object
  intro entry listed
  rcases mem_members listed with ⟨s, same⟩ | value
  · rw [same]
    exact .string s
  · obtain ⟨cs, spelled⟩ := received.spelled _ value
    exact spelled.exact (free _ value)

theorem depth_members (received : m.Received) : (Value.object m.members).depth ≤ maxDepth := by
  apply Nat.succ_le_succ
  apply membersDepth_le
  intro entry listed
  obtain ⟨cs, spelled⟩ := received.spelled_members listed
  exact spelled.depth_le

theorem ofMembers_members (received : m.Received) : ofMembers m.members = m := by
  have present := received.present
  simp only [parts, List.mem_append, Option.mem_toList, or_imp, forall_and] at present
  obtain ⟨⟨params, result⟩, error⟩ := present
  simp [ofMembers, get?_members, bind_string?, received.id, bind_nonNull? params,
    bind_nonNull? result, bind_nonNull? error]

theorem reads_back (received : m.Received) (free : m.FloatFree) :
    decode m.encode = .ok m := by
  have textual {name : String} {s? : Option String}
      (given : m.members.get? name = s?.map .string) :
      ∀ v, m.members.get? name = some v → v.Textual := by
    intro v found
    obtain ⟨s, -, same⟩ := Option.map_eq_some_iff.mp (given.symm.trans found)
    exact .inr ⟨s, same.symm⟩
  have normal : normalMembers m.members = m.members := by
    apply normalMembers_eq
    intro entry listed
    obtain ⟨cs, spelled⟩ := received.spelled_members listed
    exact spelled.ordered.normal_eq
  have decoded := decode_encodeMembers m.nodup_members (received.exact_members free)
    received.depth_members (textual (get?_members m "jsonrpc")) (textual (get?_members m "method"))
  rw [normal, received.ofMembers_members] at decoded
  exact decoded

end Received

/-- Whatever was decoded, with no float among its values, is written as a text that decodes to the
same message. -/
theorem decode_encode_decoded (decoded : decode text = .ok m) (free : m.FloatFree) :
    decode m.encode = .ok m :=
  (received_of_decode decoded).reads_back free

/-- Members out of order, an escape, a blank, and an id beyond 64 bits that stands behind another
one, which is a float. -/
theorem unordered_text_decodes_to_itself :
    let text :=
      "\x7b\"id\":1.5,\"params\":\x7b\"b\":0,\"a\":\"\\u0041\"\x7d,\"id\": 9223372036854775808\x7d"
    let m : Message := {
      id := .other (.int 0x8000000000000000)
      params := some (.object [("a", .string "A"), ("b", .int 0)]) }
    decode text = .ok m ∧ m.FloatFree ∧ decode m.encode = .ok m := by
  intro text m
  have decoded : decode text = .ok m := by
    simp only [text, m]
    cbv
  have free : m.FloatFree := by
    intro v listed x inner
    have values : m.values = [.int 0x8000000000000000,
      .object [("a", .string "A"), ("b", .int 0)]] := rfl
    rw [values] at listed
    simp only [List.mem_cons, List.not_mem_nil, or_false] at listed
    rcases listed with rfl | rfl
    · cases inner
    · cases inner with
      | member listed inner =>
          simp only [List.mem_cons, List.not_mem_nil, or_false] at listed
          rcases listed with rfl | rfl <;> cases inner
  exact ⟨decoded, free, decode_encode_decoded decoded free⟩

end DuplexRpc.Wire.Message
