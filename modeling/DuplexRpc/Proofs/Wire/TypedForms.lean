import DuplexRpc.Proofs.Json.ReadingBack
import DuplexRpc.Proofs.Wire.Decode
import DuplexRpc.Proofs.Wire.RoundTrip

/-!
# Reading back what is typed

Requests, notifications, responses and error objects are written as objects with their members in
the order of the protocol.  Each of them is read back as the same type, from its text and from the
value that the text denotes; a part that is written as `null` is read as absent.
-/

namespace DuplexRpc.Wire

open DuplexRpc.Json

variable {v : Value}

/-! ## Parts -/

/-- A value that a text keeps, with its members as a value keeps them. -/
def Kept (v : Value) : Prop := v.Exact ∧ v.Ordered

/-! What is received of a typed form: a part that is `null` is absent. -/

def Request.received (r : Request) : Request := { r with params := r.params.bind Value.nonNull? }

def Notification.received (n : Notification) : Notification :=
  { n with params := n.params.bind Value.nonNull? }

def RpcError.received (e : RpcError) : RpcError := { e with data := e.data.bind Value.nonNull? }

def Response.received (r : Response) : Response :=
  { r with result := r.result.bind Value.nonNull?, error := r.error.map RpcError.received }

theorem takesBack_string (s : String) : Reader.string.TakesBack (.string s) s :=
  Reader.faithful_string.takesBack (.string s) rfl

theorem takesBack_value (kept : Kept v) : Reader.value.optional.TakesBack v v.nonNull? :=
  Reader.takesBack_optional_value kept.1 kept.2

theorem RequestId.reader_ofValue_iff {id : RequestId} :
    RequestId.reader.ofValue v = .ok id ↔ v = id.toValue := by
  simp only [reader, refine_ofValue_iff, uint64_ofValue_iff]
  constructor
  · rintro ⟨n, rfl, given⟩
    split at given
    · cases given
    · rename_i found
      cases given
      obtain rfl := ofUInt64?_eq_some_iff.mp found
      rfl
  · rintro rfl
    have found : ofUInt64? id.value = some id := ofUInt64?_eq_some_iff.mpr rfl
    exact ⟨id.value, rfl, by rw [found]⟩

theorem notificationIdReader_ofValue_iff {u : Unit} :
    notificationIdReader.ofValue v = .ok u ↔ v = .null ∨ v = .int 0 := by
  simp only [notificationIdReader, refine_ofValue_iff, optional_ofValue_iff, uint64_ofValue_iff]
  constructor
  · rintro ⟨_, ⟨rfl, rfl⟩ | ⟨-, n, rfl, rfl⟩, given⟩
    · exact .inl rfl
    · by_cases zero : n = 0
      · exact .inr (by simp [zero])
      · simp [zero] at given
  · rintro (rfl | rfl)
    · exact ⟨none, .inl ⟨rfl, rfl⟩, rfl⟩
    · exact ⟨some 0, .inr ⟨nofun, 0, rfl, rfl⟩, rfl⟩

theorem RequestId.faithful_reader : RequestId.reader.Faithful := Reader.faithful_uint64.refine _

theorem faithful_notificationIdReader : notificationIdReader.Faithful :=
  Reader.faithful_uint64.optional.refine _

theorem fills_optionalMember {σ α : Type} {r : Record σ α} {name : String} {field : Json.Field σ}
    {draft : σ} {next : Value → σ} {v? : Option Value} (known : r.field? name = some field)
    (unset : field.isSet draft = false) (takes : ∀ v ∈ v?, field.TakesBack v draft (next v)) :
    r.Fills draft (optionalMember name v?) (v?.elim draft next) := by
  cases v? with
  | none => exact .nil
  | some v => exact .cons known unset (takes v rfl) .nil

/-! ## Requests -/

namespace Request

theorem apart_record : record.Apart := by
  refine .of_pairwise ?_
  simp only [record, List.pairwise_cons, List.forall_mem_cons]
  and_intros <;> first | exact Field.independent_of (by intros; rfl) | simp

theorem takesBack {r : Request} (kept : ∀ v ∈ r.params, Kept v) :
    reader.TakesBack (.object r.members) r.received := by
  have id : RequestId.reader.TakesBack r.id.toValue r.id :=
    RequestId.faithful_reader.takesBack (.int (isExactInteger_toNat r.id.value))
      (RequestId.reader_ofValue_iff.mpr rfl)
  have named : record.Fills {} [("jsonrpc", .string r.jsonrpc), ("method", .string r.method),
        ("id", r.id.toValue)]
      { jsonrpc := some r.jsonrpc, method := some r.method, id := some r.id } :=
    .cons rfl rfl ((takesBack_string r.jsonrpc).field _)
      (.cons rfl rfl ((takesBack_string r.method).field _) (.cons rfl rfl (id.field _) .nil))
  have params : record.Fills { jsonrpc := some r.jsonrpc, method := some r.method, id := some r.id }
      (optionalMember "params" r.params) _ :=
    fills_optionalMember rfl rfl fun v given => (takesBack_value (kept v given)).field _
  refine (named.append params).takesBack apart_record ?_ (by simp) ?_
  · exact (OutboundMessage.request r).nodup_members
  · rw [received]
    cases r.params <;> rfl

theorem readsBack {r : Request} (kept : ∀ v ∈ r.params, Kept v)
    (depth : (Value.object r.members).depth ≤ maxDepth) :
    reader.ReadsBack (encodeMembers r.members) r.received := by
  have exact : (Value.object (OutboundMessage.request r).members).Exact := by
    apply OutboundMessage.exact_members
    simpa [OutboundMessage.values, OutboundMessage.params?, OutboundMessage.result?,
      OutboundMessage.error?] using fun v given => (kept v given).1
  exact (takesBack kept).readsBack exact depth

end Request

/-! ## Notifications -/

namespace Notification

theorem apart_record : record.Apart := by
  refine .of_pairwise ?_
  simp only [record, List.pairwise_cons, List.forall_mem_cons]
  and_intros <;> first | exact Field.independent_of (by intros; rfl) | simp

theorem takesBack {n : Notification} (kept : ∀ v ∈ n.params, Kept v) :
    reader.TakesBack (.object n.members) n.received := by
  have id : notificationIdReader.TakesBack (.int 0) () :=
    faithful_notificationIdReader.takesBack (.int (by decide))
      (notificationIdReader_ofValue_iff.mpr (.inr rfl))
  have named : record.Fills {} [("jsonrpc", .string n.jsonrpc), ("method", .string n.method),
        ("id", .int 0)]
      { jsonrpc := some n.jsonrpc, method := some n.method, id := some () } :=
    .cons rfl rfl ((takesBack_string n.jsonrpc).field _)
      (.cons rfl rfl ((takesBack_string n.method).field _) (.cons rfl rfl (id.field _) .nil))
  have params : record.Fills { jsonrpc := some n.jsonrpc, method := some n.method, id := some () }
      (optionalMember "params" n.params) _ :=
    fills_optionalMember rfl rfl fun v given => (takesBack_value (kept v given)).field _
  refine (named.append params).takesBack apart_record ?_ (by simp) ?_
  · exact (OutboundMessage.notification n).nodup_members
  · rw [received]
    cases n.params <;> rfl

theorem readsBack {n : Notification} (kept : ∀ v ∈ n.params, Kept v)
    (depth : (Value.object n.members).depth ≤ maxDepth) :
    reader.ReadsBack (encodeMembers n.members) n.received := by
  have exact : (Value.object (OutboundMessage.notification n).members).Exact := by
    apply OutboundMessage.exact_members
    simpa [OutboundMessage.values, OutboundMessage.params?, OutboundMessage.result?,
      OutboundMessage.error?] using fun v given => (kept v given).1
  exact (takesBack kept).readsBack exact depth

end Notification

/-! ## Error objects -/

namespace RpcError

theorem apart_record : record.Apart := by
  refine .of_pairwise ?_
  simp only [record, List.pairwise_cons, List.forall_mem_cons]
  and_intros <;> first | exact Field.independent_of (by intros; rfl) | simp

theorem takesBack {e : RpcError} (kept : ∀ v ∈ e.data, Kept v) :
    reader.TakesBack e.toValue e.received := by
  have code : Reader.int64.TakesBack (.int e.code.toInt) e.code :=
    Reader.faithful_int64.takesBack (.int (isExactInteger_of_isInt64 (isInt64_toInt e.code)))
      (int64_ofValue_iff.mpr rfl)
  have named : record.Fills {} [("code", .int e.code.toInt), ("message", .string e.message)]
      { code := some e.code, message := some e.message } :=
    .cons rfl rfl (code.field _) (.cons rfl rfl ((takesBack_string e.message).field _) .nil)
  have data : record.Fills { code := some e.code, message := some e.message }
      (optionalMember "data" e.data) _ :=
    fills_optionalMember rfl rfl fun v given => (takesBack_value (kept v given)).field _
  refine (named.append data).takesBack apart_record e.nodup_members (by simp) ?_
  rw [received]
  cases e.data <;> rfl

theorem readsBack {e : RpcError} (kept : ∀ v ∈ e.data, Kept v)
    (depth : e.toValue.depth ≤ maxDepth) :
    reader.ReadsBack (encodeMembers e.members) e.received :=
  (takesBack kept).readsBack (exact_toValue fun v given => (kept v given).1) depth

end RpcError

/-! ## Responses -/

namespace Response

theorem apart_record : record.Apart := by
  refine .of_pairwise ?_
  simp only [record, List.pairwise_cons, List.forall_mem_cons]
  and_intros <;> first | exact Field.independent_of (by intros; rfl) | simp

theorem takesBack {r : Response} (echoed : Id.ofValue r.id.toValue = r.id) (id : Kept r.id.toValue)
    (result : ∀ v ∈ r.result, Kept v) (data : ∀ e ∈ r.error, ∀ v ∈ e.data, Kept v) :
    reader.TakesBack (.object r.members) r.received := by
  have id : Id.reader.TakesBack r.id.toValue r.id :=
    (Reader.faithful_value.refine _).takesBack id.1
      (map_ofValue_iff.mpr ⟨_, rfl, by rw [id.2.normal_eq, echoed]⟩)
  have named : record.Fills {} [("jsonrpc", .string r.jsonrpc), ("id", r.id.toValue)]
      { jsonrpc := some r.jsonrpc, id := some r.id } :=
    .cons rfl rfl ((takesBack_string r.jsonrpc).field _) (.cons rfl rfl (id.field _) .nil)
  have answer : record.Fills { jsonrpc := some r.jsonrpc, id := some r.id }
      (optionalMember "result" r.result) _ :=
    fills_optionalMember rfl rfl fun v given => (takesBack_value (result v given)).field _
  generalize answered : Option.elim r.result _ _ = draft at answer
  have unset : draft.error = none := by
    rw [← answered]
    cases r.result <;> rfl
  have failure : record.Fills draft (optionalMember "error" (r.error.map RpcError.toValue))
      ((r.error.map RpcError.toValue).elim draft fun _ =>
        { draft with error := some (r.error.map RpcError.received) }) := by
    refine fills_optionalMember rfl (by simp [Field.of, unset]) fun v given => ?_
    obtain ⟨e, failed, rfl⟩ := Option.map_eq_some_iff.mp given
    rw [failed]
    exact (RpcError.takesBack (data e failed)).optional.field draft
  refine ((named.append answer).append failure).takesBack apart_record ?_ (by simp) ?_
  · exact (OutboundMessage.response r).nodup_members
  · rw [← answered, received]
    cases r.result <;> cases r.error <;> rfl

theorem readsBack {r : Response} (echoed : Id.ofValue r.id.toValue = r.id) (id : Kept r.id.toValue)
    (result : ∀ v ∈ r.result, Kept v) (data : ∀ e ∈ r.error, ∀ v ∈ e.data, Kept v)
    (depth : (Value.object r.members).depth ≤ maxDepth) :
    reader.ReadsBack (encodeMembers r.members) r.received := by
  have exact : (Value.object (OutboundMessage.response r).members).Exact := by
    apply OutboundMessage.exact_members
    intro v listed
    simp only [OutboundMessage.values, OutboundMessage.params?, OutboundMessage.result?,
      OutboundMessage.error?, List.mem_append, List.mem_singleton, Option.mem_toList,
      Option.bind_eq_some_iff, reduceCtorEq, false_or] at listed
    rcases listed with (given | ⟨e, failed, given⟩) | rfl
    · exact (result v given).1
    · exact (data e failed v given).1
    · exact id.1
  exact (takesBack echoed id result data).readsBack exact depth

end Response

end DuplexRpc.Wire
