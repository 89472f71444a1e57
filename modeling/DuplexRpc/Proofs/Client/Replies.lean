import DuplexRpc.Client.Basic
import DuplexRpc.Proofs.Correlator.Accounting
import DuplexRpc.Proofs.Wire.Acceptance

/-!
# Answers to the peer

A call of the peer is told to its listeners with the id that the peer gave it.  A call without an
id, or with `null` or zero for one, is a notification, and no answer to it is taken.  Any other
call is answered with one payload, which repeats the id as the value that it was read as.  Where
reading rounds a number, that is not always the number nearest to what the peer wrote.
-/

namespace DuplexRpc.Wire.Id

open DuplexRpc.Json

variable {v? : Option Value} {id : Id}

/-- An id marks a notification exactly if the peer wrote none, `null` or zero. -/
theorem isSentinel_iff_of_member (member : Message.IdMember v? id) :
    id.isSentinel ↔ v? = none ∨ v? = some .null ∨ v? = some (.int 0) := by
  cases member with
  | absent | null => simp [isSentinel]
  | number n =>
      have zero : n = 0 ↔ n.toInt = 0 := by rw [← Int64.toInt_inj, Int64.toInt_zero]
      simp [isSentinel, zero]
  | string s => simp [isSentinel]
  | other present noNumber noString =>
      have nonzero := noNumber 0
      simpa [isSentinel, present] using nonzero

theorem toValue_of_member (member : Message.IdMember v? id) : id.toValue = v?.getD .null := by
  rw [Message.idMember_iff.mp member]
  cases v? with
  | none => rfl
  | some v => exact toValue_ofValue v

end DuplexRpc.Wire.Id

namespace DuplexRpc.Client

open DuplexRpc.Decimal DuplexRpc.Json DuplexRpc.Wire DuplexRpc.Telemetry

variable {ω : Type} {c : Client ω} {id : Id} {text : String} {m : Message} {method : String}

/-- What answering gives: the answer is not taken, or the channel holds one payload more. -/
inductive Hands (c : Client ω) (payload : String) :
    Except Fault Unit × Client ω × List Reading → Prop where
  | refused (closed : c.channel.state = .closed) :
      Hands c payload (.error .connectionClosed, c, [])
  | queued {payloads : List String} (isOpen : c.channel.state = .open)
      (outlet : c.channel.outlet = .queue payloads) :
      Hands c payload
        (.ok (), { c with channel.outlet := .queue (payloads ++ [payload]) }, [])
  | buffered (alive : c.channel.state ≠ .closed)
      (detached : c.channel.state = .open → ∀ payloads, c.channel.outlet ≠ .queue payloads) :
      Hands c payload
        (.ok (), { c with channel.buffer := c.channel.buffer ++ [payload] }, [.buffered])

theorem hands_send (c : Client ω) (m : OutboundMessage) : Hands c m.encode (c.send m) := by
  by_cases closed : c.channel.state = .closed
  · have sent : c.channel.send m.encode = (.error .connectionClosed, c.channel, []) := by
      simp [Channel.send, closed]
    simpa only [send, sent] using Hands.refused closed
  by_cases queue : c.channel.state = .open ∧ ∃ payloads, c.channel.outlet = .queue payloads
  · obtain ⟨isOpen, payloads, outlet⟩ := queue
    simpa [send, Channel.send, isOpen, outlet] using Hands.queued isOpen outlet
  · have detached : c.channel.state = .open → ∀ payloads, c.channel.outlet ≠ .queue payloads :=
      fun isOpen payloads outlet => queue ⟨isOpen, payloads, outlet⟩
    have sent : c.channel.send m.encode =
        (.ok (), { c.channel with buffer := c.channel.buffer ++ [m.encode] }, [.buffered]) := by
      unfold Channel.send
      split <;> simp_all
    simpa only [send, sent] using Hands.buffered closed detached

/-- What is said of an answer that nobody wants. -/
def refusal (id : Id) : Fault :=
  .internal ("cannot respond to a message with id " ++ id.display)

theorem answer_of_sentinel {r : Response} (sentinel : r.id.isSentinel) (c : Client ω) :
    c.answer r = (.error (refusal r.id), c, []) := by
  simp [answer, Correlator.answerMessage, sentinel, refusal]

theorem hands_answer {r : Response} (wanted : ¬r.id.isSentinel) (c : Client ω) :
    Hands c (OutboundMessage.response r).encode (c.answer r) := by
  have accepted : Correlator.answerMessage r = .ok (.response r) := if_neg wanted
  simpa only [answer, accepted] using hands_send c (.response r)

/-- The text of an answer. -/
def answerText (id : Value) (outcome : String × Value) : String :=
  (Value.object [("jsonrpc", .string "2.0"), ("id", id), outcome]).text

theorem hands_respond (wanted : ¬id.isSentinel) (c : Client ω) (result : Value) :
    Hands c (answerText id.toValue ("result", result)) (c.respond id result) :=
  hands_answer (r := .success id result) wanted c

theorem hands_respondError (wanted : ¬id.isSentinel) (c : Client ω) (error : RpcError) :
    Hands c (answerText id.toValue ("error", error.toValue)) (c.respondError id error) :=
  hands_answer (r := .failure id error) wanted c

theorem announced_of_decode (decoded : Message.decode text = .ok m)
    (called : m.method = some method) (c : Correlator) (heard : Correlator → Correlator) :
    (c.handleHeard text heard).2 = [.request { method, id := m.id, params := m.params }] := by
  simp [Correlator.handleHeard, Correlator.receive, decoded, Correlator.announcement?,
    Message.inboundRequest?, called]

/-- Whatever id the peer wrote, its call is told to the listeners once.  Without an id, or with
`null` or zero, the call is a notification, and every answer to it is refused and leaves the client
as it was, whatever the state of its channel.  Any other id makes it a call that can be answered: an
answer is refused only on a closed channel, and otherwise the channel holds one payload more, the
text of an object with the version tag, the very id that was read, and the result or the error. -/
theorem replies_repeat_the_id {text : String} {m : Message} {method : String} {written : Members}
    (decoded : Message.decode text = .ok m) (called : m.method = some method)
    (writes : Writes text written) :
    let id? := Message.last? "id" written
    ∃ request : InboundRequest,
      (∀ (c : Correlator) (heard : Correlator → Correlator),
        (c.handleHeard text heard).2 = [.request request]) ∧
      request.method = method ∧
      (id? = none ∨ id? = some .null ∨ id? = some (.int 0) →
        request.isNotification ∧ ∀ {ω : Type} (c : Client ω),
          (∀ result, c.respond request.id result = (.error (refusal request.id), c, [])) ∧
          ∀ error, c.respondError request.id error = (.error (refusal request.id), c, [])) ∧
      ∀ v, id? = some v → v ≠ .null → v ≠ .int 0 →
        ¬request.isNotification ∧ ∀ {ω : Type} (c : Client ω),
          (∀ result, Hands c (answerText v ("result", result)) (c.respond request.id result)) ∧
          ∀ error, Hands c (answerText v ("error", error.toValue))
            (c.respondError request.id error) := by
  intro id?
  have member := (Message.reads_of_decode decoded writes).id
  refine ⟨{ method, id := m.id, params := m.params }, announced_of_decode decoded called, rfl,
    ?refused, ?answered⟩
  case refused =>
      intro none
      have sentinel : m.id.isSentinel := (Id.isSentinel_iff_of_member member).mpr none
      exact ⟨sentinel, fun c =>
        ⟨fun result => answer_of_sentinel (r := .success m.id result) sentinel c,
          fun error => answer_of_sentinel (r := .failure m.id error) sentinel c⟩⟩
  case answered =>
      intro v given present nonzero
      have wanted : ¬m.id.isSentinel := by
        rw [Id.isSentinel_iff_of_member member]
        simp [id?, given, present, nonzero]
      obtain rfl : m.id.toValue = v := by
        rw [Id.toValue_of_member member]
        simp [id?, given]
      exact ⟨wanted, fun c => ⟨hands_respond wanted c, hands_respondError wanted c⟩⟩

/-- A call with the greatest id that an unsigned word holds, behind another id, is told to listeners
that drop what is outstanding, and answered with `null` before the channel was ever open. -/
theorem unsigned_id_repeated :
    let text := "\x7b\"id\":\"a\",\"method\":\"p\",\"id\":18446744073709551615\x7d"
    let m : Message := { method := some "p", id := .other (.int 0xFFFFFFFFFFFFFFFF) }
    Message.decode text = .ok m ∧ (∃ written, Writes text written) ∧
      ∃ request, (({} : Correlator).handleHeard text fun c => c.drain.2).2 = [.request request] ∧
        (({} : Client Unit).respond request.id .null).2.1.channel.buffer =
          ["\x7b\"jsonrpc\":\"2.0\",\"id\":18446744073709551615,\"result\":null\x7d"] := by
  intro text m
  have decoded : Message.decode text = .ok m := by
    simp only [text, m]
    cbv
  obtain ⟨written, writes, reads⟩ := Message.decode_eq_ok_iff_reads.mp decoded
  obtain ⟨request, announced, -, -, answered⟩ := replies_repeat_the_id decoded rfl writes
  have given : Message.last? "id" written = some (.int 0xFFFFFFFFFFFFFFFF) := by
    have same := Id.toValue_of_member reads.id
    cases found : Message.last? "id" written with
    | none => simp [found, m, Id.toValue] at same
    | some v => simpa [found, m, Id.toValue] using same.symm
  have hands := (answered _ given (by simp) (by simp)).2 ({} : Client Unit) |>.1 .null
  refine ⟨decoded, ⟨written, writes⟩, request, announced _ _, ?_⟩
  generalize ({} : Client Unit).respond request.id .null = answered at hands ⊢
  cases hands with
  | refused closed => cases closed
  | queued isOpen => cases isOpen
  | buffered => rfl

/-- A call whose id is a fraction of seventeen digits is answered with another fraction.  The
number that is nearest to the id would be written just as the peer wrote it. -/
theorem fraction_answered_with_neighbour :
    let text := "\x7b\"method\":\"m\",\"id\":51.248178375505404\x7d"
    (∃ m request, Message.decode text = .ok m ∧ m.method = some "m" ∧
      (∀ (c : Correlator) (heard : Correlator → Correlator),
        (c.handleHeard text heard).2 = [.request request]) ∧
      (({} : Client Unit).respond request.id .null).2.1.channel.buffer =
        ["\x7b\"jsonrpc\":\"2.0\",\"id\":51.24817837550541,\"result\":null\x7d"]) ∧
    (Binary64.ofDecimal? false 51248178375505404 (-15)).map Binary64.jsonText =
      some "51.248178375505404".toList := by
  intro text
  have read : (Message.decode text).toOption.map
      (fun m => (m.method, (({} : Client Unit).respond m.id .null).2.1.channel.buffer)) =
      some (some "m",
        ["\x7b\"jsonrpc\":\"2.0\",\"id\":51.24817837550541,\"result\":null\x7d"]) := by
    decide +kernel
  refine ⟨?_, by decide +kernel⟩
  cases decoded : Message.decode text with
  | error fault => simp [decoded, Except.toOption] at read
  | ok m =>
      simp only [decoded, Except.toOption, Option.map_some, Option.some.injEq,
        Prod.mk.injEq] at read
      obtain ⟨called, answered⟩ := read
      exact ⟨m, _, rfl, called, announced_of_decode decoded called, answered⟩

end DuplexRpc.Client
