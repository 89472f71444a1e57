import DuplexRpc.Proofs.Json.Text
import DuplexRpc.Proofs.Wire.Reading
import DuplexRpc.Wire.Codec

/-!
# Reading back what was written

The envelope and the error object are written with their members in the order of the protocol and
read with their members in the order of the names.  What was written is found again under its
name, and a member that was written as `null` is found to be absent.
-/

namespace DuplexRpc.Wire

open DuplexRpc.Json

/-! ## Envelopes -/

theorem Message.decode_encodeMembers {members : Members} (distinct : (Members.names members).Nodup)
    (exact : (Value.object members).Exact) (depth : (Value.object members).depth ≤ maxDepth)
    (jsonrpc : ∀ v, members.get? "jsonrpc" = some v → v.Textual)
    (method : ∀ v, members.get? "method" = some v → v.Textual) :
    Message.decode (encodeMembers members) = .ok (.ofMembers (normalMembers members)) := by
  have parsed : parse (encodeMembers members) =
      some (.object (Members.ofList (normalMembers members))) := parse_text exact depth
  have found := get?_ofList_normalMembers distinct
  have textual : ∀ name, (∀ v, members.get? name = some v → v.Textual) →
      ∀ v, (Members.ofList (normalMembers members)).get? name = some v → v.Textual := by
    intro name all v given
    rw [found, Option.map_eq_some_iff] at given
    obtain ⟨w, listed, rfl⟩ := given
    rcases all w listed with rfl | ⟨s, rfl⟩
    · exact .inl rfl
    · exact .inr ⟨s, rfl⟩
  have read := reader_object (Members.sorted_ofList (normalMembers members)).nodup_names
    (textual "jsonrpc" jsonrpc) (textual "method" method)
  simp only [Message.decode, parsed, read]
  simp [ofMembers, found]

@[simp] theorem get?_optionalMember {name other : String} {v : Option Value} :
    (optionalMember name v).get? other = if other = name then v else none := by
  cases v <;> simp [optionalMember]

@[simp] theorem mem_optionalMember {name : String} {v : Option Value} {entry : String × Value} :
    entry ∈ optionalMember name v ↔ ∃ w, v = some w ∧ (name, w) = entry := by
  simp [optionalMember]

/-! ## Error objects -/

namespace RpcError

theorem nodup_members (e : RpcError) : (Members.names e.members).Nodup := by
  cases data : e.data <;> simp [members, data, Members.names]

theorem exact_toValue {e : RpcError} (exact : ∀ v ∈ e.data, v.Exact) : e.toValue.Exact := by
  refine .object fun entry listed => ?_
  simp only [members, List.cons_append, List.nil_append, List.mem_cons, Option.mem_toList,
    Option.map_eq_some_iff] at listed
  rcases listed with rfl | rfl | ⟨v, given, rfl⟩
  · exact .int (isExactInteger_of_isInt64 (isInt64_toInt e.code))
  · exact .string e.message
  · exact exact v given

theorem reader_toValue {e : RpcError} (ordered : ∀ v ∈ e.data, v.Ordered) :
    reader.ofValue e.toValue.normal = .ok { e with data := e.data.bind Value.nonNull? } := by
  have found := get?_ofList_normalMembers e.nodup_members
  have code : (e.members.get? "code").map Value.normal = some (.int e.code.toInt) := rfl
  have message : (e.members.get? "message").map Value.normal = some (.string e.message) := rfl
  have data : (e.members.get? "data").map Value.normal = e.data := by
    cases given : e.data with
    | none => simp [members, given]
    | some v => simp [members, given, (ordered v (by simp [given])).normal_eq]
  have coded : ((Members.ofList (normalMembers e.members)).get? "code").bind Value.int64? =
      some e.code := by
    simp [found, code, Value.int64?, isInt64_toInt]
  have worded : ((Members.ofList (normalMembers e.members)).get? "message").bind Value.string? =
      some e.message := by
    simp [found, message, Value.string?]
  have distinct := (Members.sorted_ofList (normalMembers e.members)).nodup_names
  refine (reader_object distinct coded worded).trans ?_
  rw [found, data]

end RpcError

/-! ## What the client writes -/

namespace OutboundMessage

/-- Made by the constructors of the protocol. -/
inductive Built : OutboundMessage → Prop where
  | request (method : String) (id : RequestId) (params : Option Value) :
      Built (.request { method, id, params })
  | notification (method : String) (params : Option Value) :
      Built (.notification { method, params })
  | success (id : Id) (result : Value) : Built (.response (.success id result))
  | failure (id : Id) (error : RpcError) : Built (.response (.failure id error))

def params? : OutboundMessage → Option Value
  | .request r => r.params
  | .notification n => n.params
  | .response _ => none

def result? : OutboundMessage → Option Value
  | .response r => r.result
  | _ => none

def error? : OutboundMessage → Option RpcError
  | .response r => r.error
  | _ => none

/-- The id under which the message is received. -/
def receivedId : OutboundMessage → Id
  | .request r =>
    if r.id.toNat ≤ int64Max then .number (Int64.ofNat r.id.toNat) else .other (.int r.id.toNat)
  | .notification _ => .number 0
  | .response r => r.id

def idValue : OutboundMessage → Value
  | .request r => r.id.toValue
  | .notification _ => .int 0
  | .response r => r.id.toValue

/-- The values that the message was given, the id of an answered call included. -/
def values (m : OutboundMessage) : List Value :=
  m.params?.toList ++ m.result?.toList ++ (m.error?.bind (·.data)).toList ++
    match m with
    | .response r => [r.id.toValue]
    | _ => []

theorem nodup_members (m : OutboundMessage) : (Members.names m.members).Nodup := by
  cases m with
  | request r => cases given : r.params <;>
      simp [members, Request.members, optionalMember, Members.names, given]
  | notification n => cases given : n.params <;>
      simp [members, Notification.members, optionalMember, Members.names, given]
  | response r => cases given : r.result <;> cases failed : r.error <;>
      simp [members, Response.members, optionalMember, Members.names, given, failed]

theorem Built.get?_jsonrpc {m : OutboundMessage} (built : m.Built) :
    m.members.get? "jsonrpc" = some (.string "2.0") := by
  cases built <;> rfl

/-- Every part of a message is found under its name. -/
theorem get?_members (m : OutboundMessage) :
    m.members.get? "method" = m.method?.map .string ∧ m.members.get? "id" = some m.idValue ∧
      m.members.get? "params" = m.params? ∧ m.members.get? "result" = m.result? ∧
      m.members.get? "error" = m.error?.map RpcError.toValue := by
  cases m <;>
    simp [members, Request.members, Notification.members, Response.members, method?, idValue,
      params?, result?, error?, Members.get?_append]

theorem exact_members {m : OutboundMessage} (exact : ∀ v ∈ m.values, v.Exact) :
    (Value.object m.members).Exact := by
  refine .object fun entry listed => ?_
  cases m with
  | request r =>
      simp only [members, Request.members, List.cons_append, List.nil_append, List.mem_cons,
        mem_optionalMember] at listed
      rcases listed with rfl | rfl | rfl | ⟨v, given, rfl⟩
      · exact .string r.jsonrpc
      · exact .string r.method
      · exact .int (isExactInteger_toNat r.id.value)
      · exact exact v (by simp [values, params?, given])
  | notification n =>
      simp only [members, Notification.members, List.cons_append, List.nil_append, List.mem_cons,
        mem_optionalMember] at listed
      rcases listed with rfl | rfl | rfl | ⟨v, given, rfl⟩
      · exact .string n.jsonrpc
      · exact .string n.method
      · exact .int (by decide)
      · exact exact v (by simp [values, params?, given])
  | response r =>
      simp only [members, Response.members, List.cons_append, List.nil_append, List.mem_cons,
        List.mem_append, mem_optionalMember, Option.map_eq_some_iff] at listed
      rcases listed with rfl | rfl | ⟨v, given, rfl⟩ | ⟨_, ⟨e, failed, rfl⟩, rfl⟩
      · exact .string r.jsonrpc
      · exact exact r.id.toValue (by simp [values])
      · exact exact v (by simp [values, result?, given])
      · refine RpcError.exact_toValue fun v given => exact v ?_
        simp [values, error?, failed, Option.mem_def.mp given]

theorem ordered_idValue {m : OutboundMessage} (ordered : ∀ v ∈ m.values, v.Ordered) :
    m.idValue.Ordered := by
  cases m with
  | request r => exact .scalar rfl
  | notification n => exact .scalar rfl
  | response r => exact ordered r.id.toValue (by simp [values])

theorem receivedId_eq {m : OutboundMessage} (ordered : m.idValue.Ordered)
    (echoed : ∀ r, m = .response r → Id.ofValue r.id.toValue = r.id) :
    Id.ofValue m.idValue.normal = m.receivedId := by
  rw [ordered.normal_eq]
  cases m with
  | request r =>
      have low : int64Min ≤ (r.id.toNat : Int) := by
        simp only [int64Min]
        omega
      by_cases fits : (r.id.toNat : Int) ≤ int64Max
      · have signed : isInt64 r.id.toNat := by simp [isInt64, low, fits]
        change (if isInt64 r.id.toNat then Id.number (Int64.ofInt r.id.toNat) else _) = _
        rw [if_pos signed, Int64.ofInt_eq_ofNat, receivedId, if_pos fits]
      · have unsigned : ¬isInt64 r.id.toNat := by simp [isInt64, fits]
        change (if isInt64 r.id.toNat then _ else Id.other (.int r.id.toNat)) = _
        rw [if_neg unsigned, receivedId, if_neg fits]
  | notification n => rfl
  | response r => exact echoed r rfl

/-- Whatever the client writes is read back: the version tag, the same method, parameters, result
and error, where `null` reads as absent, and the id under which the message is received. -/
theorem decode_encode {m : OutboundMessage} (built : m.Built) (exact : ∀ v ∈ m.values, v.Exact)
    (ordered : ∀ v ∈ m.values, v.Ordered)
    (echoed : ∀ r, m = .response r → Id.ofValue r.id.toValue = r.id)
    (depth : (Value.object m.members).depth ≤ maxDepth) :
    ∃ received, Message.decode m.encode = .ok received ∧
      received.jsonrpc = some "2.0" ∧
      received.method = m.method? ∧
      received.params = m.params?.bind Value.nonNull? ∧
      received.result = m.result?.bind Value.nonNull? ∧
      received.id = m.receivedId ∧
      received.rpcError? = m.error?.map fun e => { e with data := e.data.bind Value.nonNull? } := by
  obtain ⟨method, id, params, result, error⟩ := m.get?_members
  have jsonrpc := built.get?_jsonrpc
  have textual : ∀ v, m.members.get? "method" = some v → v.Textual := by
    intro v found
    rw [method, Option.map_eq_some_iff] at found
    obtain ⟨s, -, rfl⟩ := found
    exact .inr ⟨s, rfl⟩
  have tagged : ∀ v, m.members.get? "jsonrpc" = some v → v.Textual := by
    intro v found
    exact .inr ⟨"2.0", Option.some.inj (found.symm.trans jsonrpc)⟩
  have decoded := Message.decode_encodeMembers m.nodup_members (exact_members exact) depth tagged
    textual
  refine ⟨_, decoded, ?jsonrpc, ?method, ?params, ?result, ?id, ?error⟩
  case jsonrpc => simp [Message.ofMembers, jsonrpc, Value.normal, Value.string?]
  case method =>
      cases given : m.method? <;>
        simp [Message.ofMembers, method, given, Value.normal, Value.string?]
  case params =>
      cases given : m.params? with
      | none => simp [Message.ofMembers, params, given]
      | some v =>
          have same := (ordered v (by simp [values, given])).normal_eq
          simp [Message.ofMembers, params, given, same]
  case result =>
      cases given : m.result? with
      | none => simp [Message.ofMembers, result, given]
      | some v =>
          have same := (ordered v (by simp [values, given])).normal_eq
          simp [Message.ofMembers, result, given, same]
  case id =>
      have same := receivedId_eq (ordered_idValue ordered) echoed
      simpa [Message.ofMembers, id] using same
  case error =>
      cases given : m.error? with
      | none => simp [Message.ofMembers, Message.rpcError?, error, given]
      | some e =>
          have read := RpcError.reader_toValue (e := e) fun v listed =>
            ordered v (by simp [values, given, Option.mem_def.mp listed])
          have present : e.toValue.normal.nonNull? = some e.toValue.normal := rfl
          simp [Message.ofMembers, Message.rpcError?, error, given, present, read]

/-- An error whose data is written as `null`, in answer to a call with a nested id. -/
theorem failure_with_nested_id_read_back :
    let id : Id := .other (.array [.int 0xFFFFFFFFFFFFFFFF, .object [("a", .string "\n\"")]])
    let error : RpcError := { code := -32000, message := "\x00\\", data := some .null }
    let m : OutboundMessage := .response (.failure id error)
    m.Built ∧ (∀ v ∈ m.values, v.Exact) ∧ (∀ v ∈ m.values, v.Ordered) ∧
      (∀ r, m = .response r → Id.ofValue r.id.toValue = r.id) ∧
      (Value.object m.members).depth = 3 ∧
      ∃ received, Message.decode m.encode = .ok received ∧ received.id = id ∧
        received.rpcError? = some { error with data := none } := by
  intro id error m
  have built : m.Built := .failure id error
  have values : m.values = [.null, id.toValue] := rfl
  have exact : ∀ v ∈ m.values, v.Exact := by
    rw [values]
    have inner : (Value.object [("a", .string "\n\"")]).Exact :=
      .object (List.forall_mem_singleton.mpr (.string _))
    have nested : id.toValue.Exact :=
      .array (List.forall_mem_cons.mpr ⟨.int (by decide), List.forall_mem_singleton.mpr inner⟩)
    exact List.forall_mem_cons.mpr ⟨.null, List.forall_mem_singleton.mpr nested⟩
  have ordered : ∀ v ∈ m.values, v.Ordered := by
    rw [values]
    have inner : (Value.object [("a", .string "\n\"")]).Ordered :=
      .object (List.pairwise_singleton _ _) (List.forall_mem_singleton.mpr (.scalar rfl))
    have nested : id.toValue.Ordered :=
      .array (List.forall_mem_cons.mpr ⟨.scalar rfl, List.forall_mem_singleton.mpr inner⟩)
    exact List.forall_mem_cons.mpr ⟨.scalar rfl, List.forall_mem_singleton.mpr nested⟩
  have echoed : ∀ r, m = .response r → Id.ofValue r.id.toValue = r.id := by
    intro r same
    obtain rfl := OutboundMessage.response.inj same
    rfl
  have depth : (Value.object m.members).depth = 3 := rfl
  obtain ⟨received, decoded, -, -, -, -, same, failed⟩ :=
    decode_encode built exact ordered echoed (by rw [depth]; decide)
  exact ⟨built, exact, ordered, echoed, depth, received, decoded, same, failed⟩

end OutboundMessage
end DuplexRpc.Wire
