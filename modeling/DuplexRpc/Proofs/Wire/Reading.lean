import DuplexRpc.Proofs.Json.Record
import DuplexRpc.Wire.Message

/-!
# Messages and error objects by their members

What an envelope or an error object reads as, when no name occurs twice: each part is the member of
its name, and a part that may be absent is absent when its member is `null` or missing.
-/

namespace DuplexRpc.Wire

open DuplexRpc.Json

variable {members : Members}

namespace Message

/-- The draft with the parts that the members give. -/
def Draft.overlay (d : Draft) (members : Members) : Draft where
  jsonrpc := ((members.get? "jsonrpc").map Value.string?).or d.jsonrpc
  method := ((members.get? "method").map Value.string?).or d.method
  id := ((members.get? "id").map Id.ofValue).or d.id
  params := ((members.get? "params").map Value.nonNull?).or d.params
  result := ((members.get? "result").map Value.nonNull?).or d.result
  error := ((members.get? "error").map Value.nonNull?).or d.error

theorem fillMembers_eq (d : Draft) (distinct : (Members.names members).Nodup)
    (jsonrpc : ∀ v, members.get? "jsonrpc" = some v → v.Textual)
    (method : ∀ v, members.get? "method" = some v → v.Textual) :
    record.fillMembers d members = .ok (d.overlay members) := by
  refine Record.fillMembers_eq (fun name v => name ∈ ["jsonrpc", "method"] → v.Textual) ?nil
    ?known ?unknown distinct ?fitting
  case nil => simp [Draft.overlay]
  case known =>
      intro field listed v d members fits absent
      simp only [record, List.mem_cons, List.not_mem_nil, or_false] at listed
      rcases listed with rfl | rfl | rfl | rfl | rfl | rfl <;> rw [Field.of_name] at absent fits
      case inl | inr.inl =>
          have read := optional_string (fits (by simp))
          exact ⟨_, Field.of_ofValue d read, by simp [Draft.overlay, absent]⟩
      case inr.inr.inl =>
          have read : Id.reader.ofValue v = .ok (Id.ofValue v) := rfl
          exact ⟨_, Field.of_ofValue d read, by simp [Draft.overlay, absent]⟩
      all_goals
        have read := optional_value v
        exact ⟨_, Field.of_ofValue d read, by simp [Draft.overlay, absent]⟩
  case unknown =>
      intro name v d members others
      simp only [record, List.forall_mem_cons, Field.of_name] at others
      simp [Draft.overlay, others]
  case fitting =>
      rintro ⟨name, v⟩ listed tagged
      have found := Members.get?_of_mem distinct listed
      simp only [List.mem_cons, List.not_mem_nil, or_false] at tagged
      rcases tagged with rfl | rfl
      · exact jsonrpc v found
      · exact method v found

def ofMembers (members : Members) : Message where
  jsonrpc := (members.get? "jsonrpc").bind Value.string?
  method := (members.get? "method").bind Value.string?
  id := ((members.get? "id").map Id.ofValue).getD .null
  params := (members.get? "params").bind Value.nonNull?
  result := (members.get? "result").bind Value.nonNull?
  error := (members.get? "error").bind Value.nonNull?

theorem reader_object (distinct : (Members.names members).Nodup)
    (jsonrpc : ∀ v, members.get? "jsonrpc" = some v → v.Textual)
    (method : ∀ v, members.get? "method" = some v → v.Textual) :
    reader.ofValue (.object members) = .ok (ofMembers members) := by
  have read := Record.ofValue_object (fillMembers_eq record.empty distinct jsonrpc method)
  refine read.trans ?_
  simp [record, ofMembers, Draft.overlay, ← Option.bind_id_eq_join, Option.bind_map]

theorem reader_object_refused {name : String} {v : Value}
    (named : name = "jsonrpc" ∨ name = "method") (listed : (name, v) ∈ members)
    (misfit : ¬v.Textual) (m : Message) :
    reader.ofValue (.object members) ≠ .ok m := by
  have unfilled : ∀ filled, record.fillMembers record.empty members ≠ .ok filled := by
    intro filled
    rcases named with rfl | rfl <;>
      refine Record.fillMembers_refused rfl (fun draft filled read => ?_) listed
    all_goals
      simp only [Field.of, bind, Except.bind] at read
      split at read
      · cases read
      · rename_i given
        exact optional_string_refused misfit _ given
  cases filled : record.fillMembers record.empty members with
  | error reason => simp [reader, Record.reader, Record.ofValue, filled, bind, Except.bind]
  | ok draft => exact absurd filled (unfilled draft)

/-- An envelope is read exactly when its version tag and its method are texts or absent. -/
theorem reader_object_iff {m : Message} (distinct : (Members.names members).Nodup) :
    reader.ofValue (.object members) = .ok m ↔
      (∀ v, members.get? "jsonrpc" = some v → v.Textual) ∧
      (∀ v, members.get? "method" = some v → v.Textual) ∧ m = ofMembers members := by
  constructor
  · intro read
    have textual (name : String) (named : name = "jsonrpc" ∨ name = "method") :
        ∀ v, members.get? name = some v → v.Textual := by
      intro v found
      by_contra misfit
      exact reader_object_refused named (Members.mem_of_get? found) misfit m read
    have jsonrpc := textual "jsonrpc" (.inl rfl)
    have method := textual "method" (.inr rfl)
    rw [reader_object distinct jsonrpc method] at read
    exact ⟨jsonrpc, method, (Except.ok.inj read).symm⟩
  · rintro ⟨jsonrpc, method, rfl⟩
    exact reader_object distinct jsonrpc method

end Message

namespace RpcError

/-- The draft with the parts that the members give. -/
def Draft.overlay (d : Draft) (members : Members) : Draft where
  code := ((members.get? "code").bind Value.int64?).or d.code
  message := ((members.get? "message").bind Value.string?).or d.message
  data := ((members.get? "data").map Value.nonNull?).or d.data

theorem fillMembers_eq (d : Draft) (distinct : (Members.names members).Nodup)
    (code : ∀ v, members.get? "code" = some v → v.int64?.isSome)
    (message : ∀ v, members.get? "message" = some v → v.string?.isSome) :
    record.fillMembers d members = .ok (d.overlay members) := by
  refine Record.fillMembers_eq
    (fun name v => (name = "code" → v.int64?.isSome) ∧ (name = "message" → v.string?.isSome)) ?nil
    ?known ?unknown distinct ?fitting
  case nil => simp [Draft.overlay]
  case known =>
      intro field listed v d members fits absent
      simp only [record, List.mem_cons, List.not_mem_nil, or_false] at listed
      rcases listed with rfl | rfl | rfl <;> rw [Field.of_name] at absent fits
      case inl =>
          obtain ⟨n, given⟩ := Option.isSome_iff_exists.mp (fits.1 rfl)
          have read := int64_ofValue given
          exact ⟨_, Field.of_ofValue d read, by simp [Draft.overlay, absent, given]⟩
      case inr.inl =>
          obtain ⟨s, given⟩ := Option.isSome_iff_exists.mp (fits.2 rfl)
          have read := string_ofValue given
          exact ⟨_, Field.of_ofValue d read, by simp [Draft.overlay, absent, given]⟩
      case inr.inr =>
          have read := optional_value v
          exact ⟨_, Field.of_ofValue d read, by simp [Draft.overlay, absent]⟩
  case unknown =>
      intro name v d members others
      simp only [record, List.forall_mem_cons, Field.of_name] at others
      simp [Draft.overlay, others]
  case fitting =>
      rintro ⟨name, v⟩ listed
      have found := Members.get?_of_mem distinct listed
      exact ⟨by rintro rfl; exact code v found, by rintro rfl; exact message v found⟩

theorem reader_object {code : Int64} {message : String} (distinct : (Members.names members).Nodup)
    (coded : (members.get? "code").bind Value.int64? = some code)
    (worded : (members.get? "message").bind Value.string? = some message) :
    reader.ofValue (.object members) =
      .ok { code, message, data := (members.get? "data").bind Value.nonNull? } := by
  have filled := fillMembers_eq record.empty distinct
    (fun v found => by simpa [found] using Option.isSome_of_eq_some coded)
    (fun v found => by simpa [found] using Option.isSome_of_eq_some worded)
  refine (Record.ofValue_object filled).trans ?_
  simp [record, Draft.overlay, coded, worded, required, bind, Except.bind,
    ← Option.bind_id_eq_join, Option.bind_map]

end RpcError
end DuplexRpc.Wire
