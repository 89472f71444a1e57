import DuplexRpc.Proofs.Wire.Decode

/-!
# Which texts are messages

A text fails to decode in two ways only.  It is refused as a text when it denotes no value, and as a
request when its value is no object or when the version tag or the method of the object is neither a
text nor `null`.  Every other object is a message, whatever else its members hold.
-/

namespace DuplexRpc.Wire.Message

open DuplexRpc.Json

/-! ## Members as they are written -/

/-- The value that counts for a name, which may be written more than once. -/
def last? (name : String) (written : Members) : Option Value := Members.get? name written.reverse

/-- What a member reads as that may be a text. -/
inductive TextMember : Option Value → Option String → Prop where
  | absent : TextMember none none
  | null : TextMember (some .null) none
  | text (s : String) : TextMember (some (.string s)) (some s)

/-- What a member reads as that may be any value. -/
inductive ValueMember : Option Value → Option Value → Prop where
  | absent : ValueMember none none
  | null : ValueMember (some .null) none
  | value {v : Value} (present : v ≠ .null) : ValueMember (some v) (some v)

/-- What an id reads as. -/
inductive IdMember : Option Value → Id → Prop where
  | absent : IdMember none .null
  | null : IdMember (some .null) .null
  | number (n : Int64) : IdMember (some (.int n.toInt)) (.number n)
  | string (s : String) : IdMember (some (.string s)) (.string s)
  | other {v : Value} (present : v ≠ .null) (noNumber : ∀ n : Int64, v ≠ .int n.toInt)
      (noString : ∀ s, v ≠ .string s) : IdMember (some v) (.other v)

/-- The message holds what the members of an object say, the last one of each name. -/
structure Reads (m : Message) (written : Members) : Prop where
  jsonrpc : TextMember (last? "jsonrpc" written) m.jsonrpc
  method : TextMember (last? "method" written) m.method
  id : IdMember (last? "id" written) m.id
  params : ValueMember (last? "params" written) m.params
  result : ValueMember (last? "result" written) m.result
  error : ValueMember (last? "error" written) m.error

variable {v : Value} {v? w? : Option Value} {s? : Option String} {id : Id} {m : Message}
variable {text : String} {members written : Members}

theorem textMember_iff :
    TextMember v? s? ↔ (∀ v, v? = some v → v.Textual) ∧ s? = v?.bind Value.string? := by
  constructor
  · rintro (_ | _ | s)
    · exact ⟨nofun, rfl⟩
    · exact ⟨fun v given => .inl (Option.some.inj given).symm, rfl⟩
    · exact ⟨fun v given => .inr ⟨s, (Option.some.inj given).symm⟩, rfl⟩
  · rintro ⟨textual, rfl⟩
    cases v? with
    | none => exact .absent
    | some v =>
        rcases textual v rfl with rfl | ⟨s, rfl⟩
        · exact .null
        · exact .text s

theorem valueMember_iff : ValueMember v? w? ↔ w? = v?.bind Value.nonNull? := by
  constructor
  · rintro (_ | _ | present)
    · rfl
    · rfl
    · rename_i v
      cases v <;> first | rfl | exact absurd rfl present
  · rintro rfl
    cases v? with
    | none => exact .absent
    | some v =>
        cases v with
        | null => exact .null
        | _ => exact .value nofun

theorem idMember_iff : IdMember v? id ↔ id = (v?.map Id.ofValue).getD .null := by
  constructor
  · rintro (_ | _ | n | s | ⟨present, noNumber, noString⟩)
    case number => simp [Id.ofValue, isInt64_toInt]
    case other v =>
        cases v with
        | null => exact absurd rfl present
        | string s => exact absurd rfl (noString s)
        | int i =>
            have wide : ¬isInt64 i := by
              intro fits
              exact noNumber (Int64.ofInt i) (by rw [toInt_ofInt_of_isInt64 fits])
            simp [Id.ofValue, wide]
        | _ => rfl
    all_goals rfl
  · rintro rfl
    cases v? with
    | none => exact .absent
    | some v =>
        cases v with
        | null => exact .null
        | string s => exact .string s
        | int i =>
            by_cases fits : isInt64 i
            · have number := IdMember.number (Int64.ofInt i)
              rw [toInt_ofInt_of_isInt64 fits] at number
              simpa [Id.ofValue, fits] using number
            · have wide : ∀ n : Int64, Value.int i ≠ .int n.toInt := by
                rintro n same
                obtain rfl := Value.int.inj same
                exact fits (isInt64_toInt n)
              have other : IdMember (some (.int i)) (.other (.int i)) :=
                .other (by simp) wide (by simp)
              simpa [Id.ofValue, fits] using other
        | _ => exact .other (by simp) (by simp) (by simp)

theorem reads_iff : m.Reads written ↔
    (∀ v, (Members.ofList written).get? "jsonrpc" = some v → v.Textual) ∧
      (∀ v, (Members.ofList written).get? "method" = some v → v.Textual) ∧
      m = ofMembers (Members.ofList written) := by
  have found (name : String) : (Members.ofList written).get? name = last? name written :=
    Members.get?_ofList
  constructor
  · rintro ⟨jsonrpc, method, id, params, result, error⟩
    rw [textMember_iff, ← found] at jsonrpc method
    rw [idMember_iff, ← found] at id
    rw [valueMember_iff, ← found] at params result error
    refine ⟨jsonrpc.1, method.1, ?_⟩
    cases m
    simp_all [ofMembers]
  · rintro ⟨jsonrpc, method, rfl⟩
    constructor
    case jsonrpc => exact textMember_iff.mpr ⟨found _ ▸ jsonrpc, found _ ▸ rfl⟩
    case method => exact textMember_iff.mpr ⟨found _ ▸ method, found _ ▸ rfl⟩
    case id => exact idMember_iff.mpr (found _ ▸ rfl)
    all_goals exact valueMember_iff.mpr (found _ ▸ rfl)

/-- The version tag or the method is neither a text nor `null`. -/
def Misfit (written : Members) : Prop :=
  ∃ name v, (name = "jsonrpc" ∨ name = "method") ∧ last? name written = some v ∧ ¬v.Textual

theorem exists_reads_iff : (∃ m : Message, m.Reads written) ↔ ¬Misfit written := by
  constructor
  · rintro ⟨m, reads⟩ ⟨name, v, named, given, misfit⟩
    obtain ⟨jsonrpc, method, -⟩ := reads_iff.mp reads
    have found := Members.get?_ofList.trans given
    rcases named with rfl | rfl
    · exact misfit (jsonrpc v found)
    · exact misfit (method v found)
  · intro fits
    have textual (name : String) (named : name = "jsonrpc" ∨ name = "method") :
        ∀ v, (Members.ofList written).get? name = some v → v.Textual := by
      intro v given
      by_contra misfit
      exact fits ⟨name, v, named, Members.get?_ofList.symm.trans given, misfit⟩
    exact ⟨_, reads_iff.mpr ⟨textual _ (.inl rfl), textual _ (.inr rfl), rfl⟩⟩

/-! ## Texts that are messages -/

theorem decode_eq_ok_iff_reads :
    decode text = .ok m ↔ ∃ written, Writes text written ∧ m.Reads written := by
  rw [decode_eq_ok_iff]
  constructor
  · rintro ⟨members, denoted, fits⟩
    obtain ⟨written, writes, rfl⟩ := denotes_object_iff.mp denoted
    exact ⟨written, writes, reads_iff.mpr fits⟩
  · rintro ⟨written, writes, reads⟩
    exact ⟨_, denotes_object_iff.mpr ⟨written, writes, rfl⟩, reads_iff.mp reads⟩

/-- A message holds what any reading of its text as members says. -/
theorem reads_of_decode (decoded : decode text = .ok m) (writes : Writes text written) :
    m.Reads written := by
  obtain ⟨members, denoted, fits⟩ := decode_eq_ok_iff.mp decoded
  have object := denotes_object_iff.mpr ⟨written, writes, rfl⟩
  obtain rfl := Value.object.inj (denoted.unique object)
  exact reads_iff.mpr fits

theorem ordered_of_last? {name : String} (writes : Writes text written)
    (given : last? name written = some v) : v.Ordered := by
  have found := Members.get?_ofList.trans given
  have object := denotes_object_iff.mpr ⟨written, writes, rfl⟩
  obtain ⟨cs, spelled⟩ := object.member (Members.mem_of_get? found)
  exact spelled.ordered

theorem decodes_iff :
    (∃ m, decode text = .ok m) ↔ ∃ written, Writes text written ∧ ¬Misfit written := by
  simp only [decode_eq_ok_iff_reads, ← exists_reads_iff]
  constructor
  · rintro ⟨m, written, writes, reads⟩
    exact ⟨written, writes, m, reads⟩
  · rintro ⟨written, writes, m, reads⟩
    exact ⟨m, written, writes, reads⟩

/-- Whether the version tag and the method fit is a matter of the text alone. -/
theorem Misfit.of_writes {again : Members} (misfit : Misfit written) (writes : Writes text written)
    (rewrites : Writes text again) : Misfit again := by
  have first := denotes_object_iff.mpr ⟨written, writes, rfl⟩
  have second := denotes_object_iff.mpr ⟨again, rewrites, rfl⟩
  have same := Value.object.inj (first.unique second)
  obtain ⟨name, v, named, given, other⟩ := misfit
  refine ⟨name, v, named, ?_, other⟩
  rw [last?, ← Members.get?_ofList, ← same, Members.get?_ofList]
  exact given

/-! ## Texts that are refused -/

def FailsWith (text : String) (code : Int64) : Prop :=
  ∃ e, decode text = .error (.rpc e) ∧ e.code = code

theorem FailsWith.unique {first second : Int64} (failed : FailsWith text first)
    (again : FailsWith text second) : first = second := by
  obtain ⟨e, decoded, rfl⟩ := failed
  obtain ⟨_, same, rfl⟩ := again
  obtain rfl := Fault.rpc.inj (Except.error.inj (decoded.symm.trans same))
  rfl

theorem decode_cases (text : String) :
    ((¬∃ v, Denotes text v) ∧ FailsWith text (-32700)) ∨
      ∃ v, Denotes text v ∧ ((∃ m, decode text = .ok m) ∨ FailsWith text (-32600)) := by
  cases decoded : decode text with
  | ok m =>
      obtain ⟨members, denoted, -⟩ := decode_eq_ok_iff.mp decoded
      exact .inr ⟨_, denoted, .inl ⟨m, rfl⟩⟩
  | error fault =>
      rcases decode_eq_error decoded with ⟨none, rfl⟩ | ⟨v, reason, denoted, rfl⟩
      · exact .inl ⟨none, _, decoded, rfl⟩
      · exact .inr ⟨v, denoted, .inr ⟨_, decoded, rfl⟩⟩

theorem failsWith_parseError_iff : FailsWith text (-32700) ↔ ¬∃ v, Denotes text v := by
  rcases decode_cases text with ⟨none, failed⟩ | ⟨v, denoted, outcome⟩
  · exact iff_of_true failed none
  · apply iff_of_false
    · intro failed
      rcases outcome with ⟨m, decoded⟩ | other
      · obtain ⟨e, refused, -⟩ := failed
        cases decoded.symm.trans refused
      · exact absurd (failed.unique other) (by decide)
    · exact not_not_intro ⟨v, denoted⟩

theorem failsWith_invalidRequest_iff :
    FailsWith text (-32600) ↔
      (∃ v, Denotes text v ∧ ∀ members, v ≠ .object members) ∨
        ∃ written, Writes text written ∧ Misfit written := by
  constructor
  · intro failed
    rcases decode_cases text with ⟨-, other⟩ | ⟨v, denoted, -⟩
    · exact absurd (failed.unique other) (by decide)
    · cases v with
      | object members =>
          obtain ⟨written, writes, rfl⟩ := denotes_object_iff.mp denoted
          refine .inr ⟨written, writes, ?_⟩
          by_contra fits
          obtain ⟨m, decoded⟩ := decodes_iff.mpr ⟨written, writes, fits⟩
          obtain ⟨e, refused, -⟩ := failed
          cases decoded.symm.trans refused
      | _ => exact .inl ⟨_, denoted, nofun⟩
  · intro refused
    rcases decode_cases text with ⟨none, -⟩ | ⟨v, denoted, decoded | failed⟩
    · rcases refused with ⟨v, denoted, -⟩ | ⟨written, writes, -⟩
      · exact absurd ⟨v, denoted⟩ none
      · exact absurd ⟨_, denotes_object_iff.mpr ⟨written, writes, rfl⟩⟩ none
    · obtain ⟨again, rewrites, fits⟩ := decodes_iff.mp decoded
      rcases refused with ⟨w, other, bare⟩ | ⟨written, writes, misfit⟩
      · have object := denotes_object_iff.mpr ⟨again, rewrites, rfl⟩
        exact absurd (other.unique object) (bare _)
      · exact absurd (misfit.of_writes writes rewrites) fits
    · exact failed

/-- Every text is refused as a text, refused as a request or decoded, each exactly when the grammar
and the two members that may not fit say so; and a text that is decoded gives the message that its
members say. -/
theorem decode_accepts_exactly (text : String) :
    (FailsWith text (-32700) ↔ ¬∃ v, Denotes text v) ∧
    (FailsWith text (-32600) ↔
      (∃ v, Denotes text v ∧ ∀ members, v ≠ .object members) ∨
        ∃ written, Writes text written ∧ Misfit written) ∧
    ((∃ m, decode text = .ok m) ↔ ∃ written, Writes text written ∧ ¬Misfit written) ∧
    ((∃ m, decode text = .ok m) ∨ FailsWith text (-32700) ∨ FailsWith text (-32600)) ∧
    ∀ m, decode text = .ok m ↔ ∃ written, Writes text written ∧ m.Reads written := by
  refine ⟨failsWith_parseError_iff, failsWith_invalidRequest_iff, decodes_iff, ?_,
    fun m => decode_eq_ok_iff_reads⟩
  rcases decode_cases text with ⟨-, failed⟩ | ⟨-, -, decoded | failed⟩
  · exact .inr (.inl failed)
  · exact .inl decoded
  · exact .inr (.inr failed)

end DuplexRpc.Wire.Message
