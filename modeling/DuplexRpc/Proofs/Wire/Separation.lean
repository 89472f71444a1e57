import DuplexRpc.Proofs.Json.RecordText
import DuplexRpc.Proofs.Wire.TypedForms

/-!
# Requests apart from notifications

A request and a notification are written alike but for the id.  A text is never taken for both, on
whatever route and in whatever form: zero, `null` and nothing are the ids of notifications, and
every request has another one.
-/

namespace DuplexRpc.Wire

open DuplexRpc.Json

/-- The members of a call, in the order in which an array has them. -/
def callNames : List String := ["jsonrpc", "method", "id", "params"]

/-- The text gives this id, if any: as a member of an object, or as the third item of an array. -/
def GivesId (text : String) (id? : Option Value) : Prop := Gives callNames "id" text id?

/-- The id is zero, `null` or absent. -/
def Sentinel (id? : Option Value) : Prop := id? = none ∨ id? = some .null ∨ id? = some (.int 0)

variable {text : String} {id? : Option Value}

theorem GivesId.of_object {members : Members} (denoted : Denotes text (.object members)) :
    GivesId text (members.get? "id") := Gives.of_object denoted

theorem GivesId.of_array {items : List Value} (denoted : Denotes text (.array items)) :
    GivesId text items[2]? := Gives.array denoted

theorem RequestId.not_sentinel (id : RequestId) : ¬Sentinel (some id.toValue) := by
  rintro (absent | null | zero)
  · cases absent
  · cases null
  · have same : (id.value.toNat : Int) = 0 := Value.int.inj (Option.some.inj zero)
    have positive := id.toNat_pos
    rw [RequestId.toNat] at positive
    omega

/-! ## Requests -/

namespace Request

theorem faithful_record : record.Faithful where
  fields := by
    simp only [record, List.forall_mem_cons]
    exact ⟨Reader.faithful_string.field, Reader.faithful_string.field,
      RequestId.faithful_reader.field, Reader.faithful_value.optional.field,
      List.forall_mem_nil _⟩
  distinct := by decide

theorem sets_id : record.Sets "id" RequestId.reader (·.id) := by
  refine .of_fields rfl (fun _ _ => rfl) ?_
  simp only [record, List.forall_mem_cons]
  exact ⟨fun _ => Field.keeps_of (by intros; rfl), fun _ => Field.keeps_of (by intros; rfl),
    absurd rfl, fun _ => Field.keeps_of (by intros; rfl), List.forall_mem_nil _⟩

theorem givesId {r : Request} (decoded : reader.Decodes text r) :
    GivesId text (some r.id.toValue) := by
  obtain ⟨written, filled, fills, built, given⟩ :=
    faithful_record.gives (show "id" ∈ record.names by decide) decoded
  have held := sets_id.fillMembers fills
  simp only [record, bind_eq_ok_iff, required_eq_ok_iff, Except.ok.injEq] at built
  obtain ⟨_, -, _, -, id, found, rfl⟩ := built
  generalize Members.get? "id" written.reverse = id? at held given
  simp only [found] at held
  cases held with
  | read read =>
      obtain rfl := RequestId.reader_ofValue_iff.mp read
      exact given

end Request

/-! ## Notifications -/

namespace Notification

theorem faithful_record : record.Faithful where
  fields := by
    simp only [record, List.forall_mem_cons]
    exact ⟨Reader.faithful_string.field, Reader.faithful_string.field,
      faithful_notificationIdReader.field, Reader.faithful_value.optional.field,
      List.forall_mem_nil _⟩
  distinct := by decide

theorem sets_id : record.Sets "id" notificationIdReader (·.id) := by
  refine .of_fields rfl (fun _ _ => rfl) ?_
  simp only [record, List.forall_mem_cons]
  exact ⟨fun _ => Field.keeps_of (by intros; rfl), fun _ => Field.keeps_of (by intros; rfl),
    absurd rfl, fun _ => Field.keeps_of (by intros; rfl), List.forall_mem_nil _⟩

theorem givesId {n : Notification} (decoded : reader.Decodes text n) :
    ∃ id?, GivesId text id? ∧ Sentinel id? := by
  obtain ⟨written, filled, fills, -, given⟩ :=
    faithful_record.gives (show "id" ∈ record.names by decide) decoded
  have held := sets_id.fillMembers fills
  refine ⟨_, given, ?_⟩
  generalize Members.get? "id" written.reverse = id?, filled.id = unit? at held
  cases held with
  | kept => exact .inl rfl
  | read read =>
      rcases notificationIdReader_ofValue_iff.mp read with rfl | rfl
      · exact .inr (.inl rfl)
      · exact .inr (.inr rfl)

end Notification

/-! ## Both -/

theorem not_both_decode (text : String) :
    ¬((∃ r, Request.reader.Decodes text r) ∧ ∃ n, Notification.reader.Decodes text n) := by
  rintro ⟨⟨r, request⟩, n, notification⟩
  obtain ⟨id?, given, sentinel⟩ := Notification.givesId notification
  obtain rfl := given.unique (Request.givesId request)
  exact r.id.not_sentinel sentinel

/-! ## Typed forms -/

/-- Whatever is written of a typed form is read back as that form, on both routes and with the parts
that were `null` absent.  No text is a request and a notification: the id that it gives, on whatever
route it is read, is that of a request or it is one of the three that mark a notification. -/
theorem typed_forms_read_back_and_apart :
    (∀ r : Request, (∀ v ∈ r.params, Kept v) → (Value.object r.members).depth ≤ maxDepth →
      Request.reader.ReadsBack (encodeMembers r.members) r.received) ∧
    (∀ n : Notification, (∀ v ∈ n.params, Kept v) → (Value.object n.members).depth ≤ maxDepth →
      Notification.reader.ReadsBack (encodeMembers n.members) n.received) ∧
    (∀ r : Response, Id.ofValue r.id.toValue = r.id → Kept r.id.toValue →
      (∀ v ∈ r.result, Kept v) → (∀ e ∈ r.error, ∀ v ∈ e.data, Kept v) →
      (Value.object r.members).depth ≤ maxDepth →
      Response.reader.ReadsBack (encodeMembers r.members) r.received) ∧
    (∀ e : RpcError, (∀ v ∈ e.data, Kept v) → (Value.object e.members).depth ≤ maxDepth →
      RpcError.reader.ReadsBack (encodeMembers e.members) e.received) ∧
    ∀ text,
      (∀ members : Members, Denotes text (.object members) →
        GivesId text (members.get? "id")) ∧
      (∀ items, Denotes text (.array items) → GivesId text items[2]?) ∧
      ¬((∃ r, Request.reader.Decodes text r) ∧ ∃ n, Notification.reader.Decodes text n) ∧
      (∀ r, Request.reader.Decodes text r → GivesId text (some r.id.toValue)) ∧
      (∀ n, Notification.reader.Decodes text n → ∃ id?, GivesId text id? ∧ Sentinel id?) ∧
      ∀ id?, GivesId text id? →
        (Sentinel id? → ∀ r, ¬Request.reader.Decodes text r) ∧
        (¬Sentinel id? → ∀ n, ¬Notification.reader.Decodes text n) := by
  refine ⟨fun r => Request.readsBack, fun n => Notification.readsBack, fun r => Response.readsBack,
    fun e => RpcError.readsBack, fun text => ⟨fun members => GivesId.of_object,
      fun items => GivesId.of_array, not_both_decode text, fun r => Request.givesId,
      fun n => Notification.givesId, fun id? given => ⟨?_, ?_⟩⟩⟩
  · intro sentinel r request
    obtain rfl := given.unique (Request.givesId request)
    exact r.id.not_sentinel sentinel
  · intro other n notification
    obtain ⟨again?, again, sentinel⟩ := Notification.givesId notification
    obtain rfl := given.unique again
    exact other sentinel

/-- An answer to a call with a nested id, and a call of another version that wants no answer. -/
theorem nested_answer_read_back_and_call_apart :
    let id : Id := .other (.array [.int 0xFFFFFFFFFFFFFFFF, .int (-1)])
    let error : RpcError := { code := -32000, message := "late", data := some .null }
    let answer : Response := { jsonrpc := "1.0", id, result := none, error := some error }
    let call : Notification := { jsonrpc := "1.0", method := "gone", params := some .null }
    Response.reader.ReadsBack (encodeMembers answer.members)
        { answer with error := some { error with data := none } } ∧
      Notification.reader.ReadsBack (encodeMembers call.members) { call with params := none } ∧
      ∀ r, ¬Request.reader.Decodes (encodeMembers call.members) r := by
  intro id error answer call
  have null : Kept .null := ⟨.null, .scalar rfl⟩
  have nested : Kept id.toValue := by
    constructor
    · exact .array (List.forall_mem_cons.mpr
        ⟨.int (by decide), List.forall_mem_singleton.mpr (.int (by decide))⟩)
    · exact .array (List.forall_mem_cons.mpr
        ⟨.scalar rfl, List.forall_mem_singleton.mpr (.scalar rfl)⟩)
  obtain ⟨-, notifications, responses, -, texts⟩ := typed_forms_read_back_and_apart
  have answered := responses answer rfl nested nofun
    (by rintro _ ⟨⟩ _ ⟨⟩; exact null) (by decide)
  have called := notifications call (by rintro _ ⟨⟩; exact null) (by decide)
  exact ⟨answered, called, fun r request =>
    (texts _).2.2.1 ⟨⟨r, request⟩, _, .inl called.1⟩⟩

end DuplexRpc.Wire
