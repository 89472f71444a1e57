import Mathlib
import DuplexRpc.Proofs.Correlator.Run
import DuplexRpc.Proofs.Wire.Acceptance

/-!
# Which requests can be answered

A request carries its id as an unsigned integer and a response is found by a signed one.  Below
`2 ^ 63` the two agree, so a response that repeats the id of a request finds it.  From there on the
repeated id is read as a value that is only kept to be echoed, and finds nothing.
-/

namespace DuplexRpc.Wire

open DuplexRpc.Json

variable {r : RequestId} {n : Int64}

theorem isInt64_toNat_iff {k : Nat} : isInt64 (k : Int) ↔ k < 2 ^ 63 := by
  simp only [isInt64, Bool.and_eq_true, decide_eq_true_eq]
  simp only [int64Min, int64Max]
  omega

theorem toNat_toUInt64 (positive : 0 < n) : (n.toUInt64.toNat : Int) = n.toInt := by
  have signed : (0 : Int) < n.toInt := Int64.lt_iff_toInt_lt.mp positive
  have same : n.toUInt64.toNat = n.toInt.toNat :=
    Int64.toNat_toUInt64_of_le (Int64.le_of_lt positive)
  omega

namespace Id

/-- An id finds a request exactly when it is a signed integer of the same value. -/
theorem requestId?_eq_some_iff {id : Id} :
    id.requestId? = some r ↔ ∃ n : Int64, id = .number n ∧ n.toInt = r.toNat := by
  constructor
  · intro found
    unfold requestId? at found
    split at found
    · rename_i n
      split at found
      · rename_i positive
        have same := RequestId.ofUInt64?_eq_some_iff.mp found
        refine ⟨n, rfl, ?_⟩
        rw [← toNat_toUInt64 positive, same]
        rfl
      · cases found
    · cases found
  · rintro ⟨n, rfl, same⟩
    have positive : 0 < n := by
      have above := r.toNat_pos
      apply Int64.lt_iff_toInt_lt.mpr
      rw [same]
      exact Int.natCast_pos.mpr above
    have value : n.toUInt64 = r.value := by
      apply UInt64.toNat_inj.mp
      have unsigned := toNat_toUInt64 positive
      have whole : r.value.toNat = r.toNat := rfl
      omega
    rw [requestId?, if_pos positive, RequestId.ofUInt64?_eq_some_iff]
    exact value

theorem requestId?_ofValue_toValue (signed : r.toNat < 2 ^ 63) :
    (Id.ofValue r.toValue).requestId? = some r := by
  have fits : isInt64 (r.toNat : Int) := isInt64_toNat_iff.mpr signed
  have read : Id.ofValue r.toValue = .number (Int64.ofInt r.toNat) := if_pos fits
  rw [read, requestId?_eq_some_iff]
  exact ⟨_, rfl, toInt_ofInt_of_isInt64 fits⟩

theorem ofValue_toValue_of_le (unsigned : 2 ^ 63 ≤ r.toNat) :
    Id.ofValue r.toValue = .other r.toValue := by
  apply if_neg
  intro fits
  have signed : r.toNat < 2 ^ 63 := isInt64_toNat_iff.mp fits
  omega

theorem requestId?_ofRequestId (signed : r.toNat < 2 ^ 63) :
    (Id.ofRequestId r).requestId? = some r := by
  rw [requestId?_eq_some_iff]
  refine ⟨r.value.toInt64, rfl, ?_⟩
  have bits : r.value.toInt64.toInt = r.value.toBitVec.toInt := rfl
  rw [bits, BitVec.toInt_eq_toNat_of_lt]
  · rfl
  · have whole : r.value.toBitVec.toNat = r.toNat := rfl
    omega

end Id

/-- The text is a message that repeats the id of another one. -/
def Echoes (text : String) (request : OutboundMessage) : Prop :=
  ∃ members : Members, Denotes text (.object members) ∧
    members.get? "id" = request.members.get? "id" ∧
    ∀ name v, name = "jsonrpc" ∨ name = "method" → members.get? name = some v → v.Textual

theorem Echoes.decode {text : String} {request : OutboundMessage} (echoed : Echoes text request) :
    ∃ m, Message.decode text = .ok m ∧
      m.id = ((request.members.get? "id").map Id.ofValue).getD .null := by
  obtain ⟨members, denoted, same, textual⟩ := echoed
  refine ⟨.ofMembers members, Message.decode_eq_ok_iff.mpr ⟨members, denoted, ?_, ?_, rfl⟩, ?_⟩
  · exact fun v => textual "jsonrpc" v (.inl rfl)
  · exact fun v => textual "method" v (.inr rfl)
  · rw [← same]
    rfl

end DuplexRpc.Wire

namespace DuplexRpc.Correlator

open DuplexRpc.Json DuplexRpc.Wire

variable {c : Correlator} {m : Message} {r : RequestId} {text : String}

theorem handleText_of_decode (decoded : Message.decode text = .ok m) :
    (c.handleText text).1 = (c.settle m).1 := by
  simp [handleText, receive, decoded]

theorem discarded_settle_of_mem (response : m.responseId? = some r) (listed : r ∈ c.outstanding) :
    (c.settle m).1.discarded = c.discarded := by
  rw [settle_of_mem response listed]
  rfl

theorem settle_of_uncorrelatable (none : m.responseId? = none) (silent : m.method = .none) :
    (c.settle m).1 = { c with discarded := c.discarded + 1 } := by
  have stray : ∀ id ∈ c.outstanding, m.responseId? ≠ some id := by simp [none]
  have answer : ¬m.isRequest := by simp [Message.isRequest, silent]
  rw [settle_of_stray stray, if_neg answer]

/-- Whatever else it says, a message that repeats the id of a request is decoded.  Below `2 ^ 63`
it has the id of the request, as has the id that is made of the request's, and it settles the
request if it is outstanding.  From there on its id is the bare value, and it finds nothing. -/
theorem echoed_id_settles (r : RequestId) (method : String) (params : Option Value) (text : String)
    (echoed : Echoes text (requestMessage r method params)) :
    ∃ m, Message.decode text = .ok m ∧
      (r.toNat < 2 ^ 63 →
        m.responseId? = some r ∧ (Id.ofRequestId r).requestId? = some r ∧
        ∀ c : Correlator, r ∈ c.outstanding →
          let after := (c.handleText text).1
          r ∉ after.outstanding ∧
          after.ticket? r = (c.ticket? r).map (Ticket.settle (outcomeOf m)) ∧
          after.discarded = c.discarded) ∧
      (2 ^ 63 ≤ r.toNat →
        m.id = .other r.toValue ∧ m.responseId? = none ∧
        ∀ c : Correlator, m.method = none →
          (c.handleText text).1 = { c with discarded := c.discarded + 1 }) := by
  obtain ⟨m, decoded, id⟩ := echoed.decode
  have id : m.id = Id.ofValue r.toValue := id
  refine ⟨m, decoded, fun signed => ?found, fun unsigned => ?missed⟩
  case found =>
      have response : m.responseId? = some r := by
        rw [Message.responseId?, id]
        exact Id.requestId?_ofValue_toValue signed
      refine ⟨response, Id.requestId?_ofRequestId signed, fun c listed => ?_⟩
      simp only [handleText_of_decode decoded]
      refine ⟨?_, ?_, discarded_settle_of_mem response listed⟩
      · exact fun kept => ((c.mem_outstanding_settle r m).mp kept).2 response
      · rw [ticket?_settle, if_pos ⟨response, listed⟩]
  case missed =>
      have other : m.id = .other r.toValue := id.trans (Id.ofValue_toValue_of_le unsigned)
      have none : m.responseId? = none := by
        rw [Message.responseId?, other]
        rfl
      refine ⟨other, none, fun c silent => ?_⟩
      rw [handleText_of_decode decoded]
      exact settle_of_uncorrelatable none silent

/-- The greatest id that can be answered, in a response with an error. -/
theorem greatest_signed_id_settles :
    let r : RequestId := ⟨0x7FFFFFFFFFFFFFFF, by decide⟩
    let text := "\x7b\"jsonrpc\":\"2.0\",\"id\":9223372036854775807,\"error\":\"no\"\x7d"
    let c : Correlator := (register { nextId := 0x7FFFFFFFFFFFFFFF } "m").2
    Echoes text (requestMessage r "m" none) ∧ c.outstanding = [r] ∧
      (c.handleText text).1.outstanding = [] := by
  intro r text c
  have echoed : Echoes text (requestMessage r "m" none) := by
    refine ⟨[("error", .string "no"), ("id", r.toValue), ("jsonrpc", .string "2.0")],
      parse_eq_some_iff.mp ?_, rfl, ?_⟩
    · simp only [text, r]
      cbv
    · rintro name v (rfl | rfl) given
      · exact .inr ⟨"2.0", (Option.some.inj given).symm⟩
      · cases given
  have listed : c.outstanding = [r] := rfl
  obtain ⟨m, decoded, found, -⟩ := echoed_id_settles r "m" none text echoed
  obtain ⟨response, -, settled⟩ := found (by decide)
  have gone := (settled c (by simp [listed])).1
  refine ⟨echoed, listed, List.eq_nil_iff_forall_not_mem.mpr fun other kept => ?_⟩
  rw [handleText_of_decode decoded] at gone kept
  have early := ((c.mem_outstanding_settle other m).mp kept).1
  rw [listed, List.mem_singleton] at early
  exact gone (early ▸ kept)

/-- The first id beyond the signed integers: its response is discarded, and the request goes on
waiting. -/
theorem least_unsigned_id_missed :
    let r : RequestId := ⟨0x8000000000000000, by decide⟩
    let text := "\x7b\"id\":9223372036854775808,\"result\":true\x7d"
    let c : Correlator := (register { nextId := 0x8000000000000000 } "m").2
    (∃ m, Message.decode text = .ok m ∧ m.id = .other r.toValue ∧ m.responseId? = none) ∧
      (Id.ofRequestId r).requestId? = none ∧
      c.outstanding = [r] ∧ (c.handleText text).1.outstanding = [r] ∧
      (c.handleText text).1.discarded = 1 := by
  intro r text c
  have decoded : Message.decode text =
      .ok { id := .other r.toValue, result := some (.bool true) } := by
    simp only [text, r]
    cbv
  refine ⟨⟨_, decoded, rfl, rfl⟩, by decide, rfl, ?_, ?_⟩
  · rw [handleText_of_decode decoded, settle_of_uncorrelatable rfl rfl]
    rfl
  · rw [handleText_of_decode decoded, settle_of_uncorrelatable rfl rfl]
    rfl

end DuplexRpc.Correlator
