import DuplexRpc.Proofs.Correlator.Answerable
import DuplexRpc.Proofs.Correlator.Routing
import DuplexRpc.Proofs.Correlator.Verdict
import DuplexRpc.Proofs.Wire.ErrorMember

/-!
# Responses that carry an error

Whatever an error member holds, the owner of the request that the message answers is given an error
and never a result.  A request whose ticket was settled with an error, or was refused, gives no
result later either, whatever happens to it.
-/

namespace DuplexRpc.Correlator

open DuplexRpc.Json DuplexRpc.Wire

/-! ## Tickets that failed -/

/-- No result can be collected any more. -/
def Ticket.Stage.Failed : Ticket.Stage → Prop
  | .settled (.error _) | .refused _ | .spent => True
  | .waiting | .settled (.ok _) => False

namespace Standing

variable {s : Standing} {effect : Effect} {effects : List Effect}

/-- The request has left the table, and its ticket, if it is still there, failed. -/
structure Failed (s : Standing) : Prop where
  unlisted : s.listed = false
  ticket : ∀ t ∈ s.ticket, Ticket.Stage.Failed t.stage

theorem Failed.step (h : s.Failed) (effect : Effect) :
    (s.step effect).1.Failed ∧ ∀ v, .ok v ∉ (s.step effect).2 := by
  obtain ⟨listed, ticket⟩ := s
  obtain ⟨rfl, failed⟩ := h
  simp only [Option.mem_def] at failed
  cases effect with
  | settle outcome => exact ⟨⟨rfl, failed⟩, fun _ => List.not_mem_nil⟩
  | refuse fault =>
      refine ⟨⟨rfl, fun t found => ?_⟩, fun _ => List.not_mem_nil⟩
      obtain ⟨_, -, rfl⟩ := Option.map_eq_some_iff.mp found
      trivial
  | limit deadline =>
      refine ⟨⟨rfl, fun t found => ?_⟩, fun _ => List.not_mem_nil⟩
      obtain ⟨t, had, rfl⟩ := Option.map_eq_some_iff.mp found
      exact failed t had
  | drop =>
      refine ⟨⟨?_, by simp [Standing.step]⟩, fun _ => List.not_mem_nil⟩
      simp only [Standing.step]
      split <;> rfl
  | poll now =>
      cases ticket with
      | none => exact ⟨⟨rfl, by simp [Standing.step, poll]⟩, fun _ => List.not_mem_nil⟩
      | some t =>
          have failed := failed t rfl
          obtain ⟨id, stage, deadline⟩ := t
          rcases stage with _ | (fault | v) | fault | _
          · cases failed
          · refine ⟨⟨rfl, ?_⟩, ?_⟩ <;> simp [Standing.step, poll, collect, Ticket.Stage.Failed]
          · cases failed
          · refine ⟨⟨rfl, ?_⟩, ?_⟩ <;> simp [Standing.step, poll, collect, Ticket.Stage.Failed]
          · refine ⟨⟨rfl, ?_⟩, ?_⟩ <;>
              simp [Standing.step, poll, afterCompletion, Ticket.Stage.Failed]

theorem Failed.run (h : s.Failed) (effects : List Effect) : ∀ v, .ok v ∉ (s.run effects).2 := by
  induction effects generalizing s with
  | nil => simp [Standing.run]
  | cons effect effects ih =>
      intro v
      rw [run_cons, List.mem_append, not_or]
      exact ⟨(h.step effect).2 v, ih (h.step effect).1 v⟩

end Standing

/-! ## What the owner is given -/

variable {c : Correlator} {m : Message} {r : RequestId} {e : RpcError} {after : List Move}

theorem outcomeOf_of_rpcError? (failed : m.rpcError? = some e) :
    outcomeOf m = .error (.rpc e) := by
  simp [outcomeOf, failed]

theorem collected_after_error (issued : c.Issued) (room : c.Room (registrations after))
    (matched : (c.standing r).Matched) (failed : m.rpcError? = some e)
    (response : m.responseId? = some r) (listed : r ∈ c.outstanding) :
    let seen := ((c.settle m).1.run after).2
    (∀ v, .ok v ∉ collected r seen) ∧ ((∀ fault, .refuse r fault ∉ after) → collected r seen =
      (Verdict.outcome (.error (.rpc e))).answers (polls (after.filterMap (·.effect? r)))) := by
  intro seen
  obtain ⟨t, found, waiting⟩ := (mem_outstanding_iff matched).mp listed
  let settled : Ticket := { t with stage := .settled (.error (.rpc e)) }
  have waits : c.standing r = { listed := true, ticket := some t } := by
    simp [standing, listed, found]
  have stands : (c.settle m).1.standing r = { listed := false, ticket := some settled } := by
    rw [standing_settle, if_pos response, waits, outcomeOf_of_rpcError? failed]
    simp [Standing.step, Ticket.settle, waiting, settled]
  have later : (c.settle m).1.Room (registrations after) := by
    constructor <;> rw [nextId_settle]
    · exact room.begun
    · exact room.bounded
  have early : r.toNat < (c.settle m).1.nextId.toNat := by
    rw [nextId_settle]
    exact issued r (by simp [found])
  have gave := (standing_run later early).2
  rw [stands] at gave
  constructor
  · rw [gave]
    have spoilt : Standing.Failed { listed := false, ticket := some settled } := by
      refine ⟨rfl, fun t same => ?_⟩
      obtain rfl := Option.some.inj same
      trivial
    exact spoilt.run _
  · intro unrefused
    rw [gave]
    refine (Standing.run_settled (fun fault concerns => ?_) settled rfl).1
    obtain ⟨move, taken, effect⟩ := List.mem_filterMap.mp concerns
    exact unrefused fault (Move.eq_refuse effect ▸ taken)

/-- What the listeners of an announcement did is a run of its own. -/
theorem heard_eq_run (c : Correlator) (m : Message) (during : List Move) :
    ∃ played, registrations played ≤ registrations during ∧
      c.heard m during = (c.run played).1 := by
  by_cases announced : (announcement? m).isSome
  · exact ⟨during, Nat.le_refl _, if_pos announced⟩
  · exact ⟨[], Nat.zero_le _, if_neg announced⟩

/-- The message ends the requests that it answers with the error.  Its listeners may do anything
while it is announced, and so may everyone afterwards: the owner gets no result, and, unless the
sending is reported to have failed, the error at the first poll. -/
def Rejects (m : Message) (e : RpcError) : Prop :=
  ∀ (before during after : List Move) (r : RequestId),
    registrations (before ++ during ++ after) < 2 ^ 64 - 1 → m.responseId? = some r →
    let c := (run {} before).1
    r ∈ (c.heard m during).outstanding →
    let seen := ((c.route m during).run after).2
    r ∉ (c.route m during).outstanding ∧ (∀ v, .ok v ∉ collected r seen) ∧
      ((∀ fault, .refuse r fault ∉ after) → collected r seen =
        (Verdict.outcome (.error (.rpc e))).answers (polls (after.filterMap (·.effect? r))))

theorem rejects_of_rpcError? (failed : m.rpcError? = some e) : Rejects m e := by
  intro before during after r few response c listed seen
  obtain ⟨played, fewer, heard⟩ := c.heard_eq_run m during
  have reached : c.heard m during = (run {} (before ++ played)).1 := by
    rw [heard, run, replay_append]
    rfl
  have begun : Room {} (registrations ((before ++ played) ++ after)) := by
    simp only [registrations_append] at few ⊢
    exact ⟨by decide, by show 1 + _ < 2 ^ 64; omega⟩
  have earlier : Room {} (registrations (before ++ played)) := by
    have bounded := begun.bounded
    rw [registrations_append] at bounded
    exact ⟨begun.begun, by omega⟩
  obtain ⟨issued, room⟩ := issued_fresh.run begun
  have matched := matched_run issued_fresh earlier faithful_fresh.matched r
  rw [← reached] at issued room matched
  exact ⟨fun kept => (mem_outstanding_route.mp kept).2 response,
    collected_after_error issued room matched failed response listed⟩

/-- An error is never lost.  What the error member of a text reads as is said by its value, and a
response with an error member other than `null` ends its request with that error.  A message that
did not come as a text ends its request with an error whenever it has one; that is read in the same
way unless it is a `null` that was put there, or has a name twice. -/
theorem error_member_rejects {text : String} {m : Message} {written : Members}
    (decoded : Message.decode text = .ok m) (writes : Writes text written) :
    (∀ e?, m.rpcError? = e? ↔ ErrorMember (Message.last? "error" written) e?) ∧
    (m.rpcError? = none ↔
      Message.last? "error" written = none ∨ Message.last? "error" written = some .null) ∧
    (∀ v, Message.last? "error" written = some v → v ≠ .null →
      ∃ e, m.rpcError? = some e ∧ Rejects m e) ∧
    (∀ c : Correlator, (c.handleText text).1 = c.route m []) ∧
    ∀ other : Message,
      ((∀ v ∈ other.error, v ≠ .null ∧ v.Ordered) →
        ∀ e?, other.rpcError? = e? ↔ ErrorMember other.error e?) ∧
      (other.rpcError? = none ↔ other.error = none) ∧
      ∀ e, other.rpcError? = some e → Rejects other e := by
  have spelled {e? : Option RpcError} :
      m.rpcError? = e? ↔ ErrorMember (Message.last? "error" written) e? :=
    Message.rpcError?_iff_of_decode decoded writes
  have none := spelled.trans Message.errorMember_none_iff
  refine ⟨fun e? => spelled, none, ?some, fun c => ?silent, ?other⟩
  case some =>
      intro v given present
      cases failed : m.rpcError? with
      | some e => exact ⟨e, rfl, rejects_of_rpcError? failed⟩
      | none => simp [none, given, present] at failed
  case silent =>
      have unheard : c.heard m [] = c := ite_self c
      rw [handleText_of_decode decoded, route, unheard]
  case other =>
      exact fun other => ⟨fun kept e? => Message.rpcError?_iff kept, Option.map_eq_none_iff,
        fun e failed => rejects_of_rpcError? failed⟩

/-- A `null` that was put into a message for its error is an error, though one that is read from a
text is none; and a fraction of seventeen digits in the data of an error is kept as another one. -/
theorem null_put_there_is_an_error :
    let bare : Message := { id := .number 1, error := some .null }
    let text := "\x7b\"id\":1,\"error\":[1,\"x\",51.248178375505404]\x7d"
    bare.rpcError? =
      some { code := -32603, message := "Malformed error object", data := some .null } ∧
    (Message.decode text).toOption.bind (fun m => m.rpcError?.map fun e => e.data.map Value.text) =
      some (some "51.24817837550541") :=
  ⟨rfl, by decide +kernel⟩

/-- An error member that is a text, in a call of the peer that has the id of a request as well; a
listener of the call makes another request, and the first one is asked for its outcome twice. -/
theorem bare_text_rejects_first_request :
    let text := "\x7b\"method\":\"p\",\"error\":\"x\",\"result\":5,\"id\":1\x7d"
    let m : Message :=
      { method := some "p", id := .number 1, result := some (.int 5), error := some (.string "x") }
    let e : RpcError :=
      { code := -32603, message := "Malformed error object", data := some (.string "x") }
    let c := (run {} [.register "first"]).1
    Message.decode text = .ok m ∧
      (∃ written, Writes text written ∧ ErrorMember (Message.last? "error" written) (some e)) ∧
      collected ⟨1, by decide⟩ ((c.route m [.register "second"]).run
        [.poll ⟨1, by decide⟩ 0, .poll ⟨1, by decide⟩ 0]).2 =
        [.error (.rpc e), afterCompletion] := by
  intro text m e c
  have decoded : Message.decode text = .ok m := by
    simp only [text, m]
    cbv
  have failed : m.rpcError? = some e := rfl
  obtain ⟨written, writes, reads⟩ := Message.decode_eq_ok_iff_reads.mp decoded
  obtain ⟨spelled, -, rejects, -⟩ := error_member_rejects decoded writes
  obtain ⟨v, given, kept⟩ :=
    Option.bind_eq_some_iff.mp (Message.valueMember_iff.mp reads.error).symm
  obtain ⟨rfl, present⟩ := Message.nonNull?_eq_some_iff.mp kept
  obtain ⟨_, same, rejected⟩ := rejects _ given present
  obtain rfl := Option.some.inj (failed.symm.trans same)
  have gave := (rejected [.register "first"] [.register "second"]
    [.poll ⟨1, by decide⟩ 0, .poll ⟨1, by decide⟩ 0] ⟨1, by decide⟩ (by decide) rfl
    (by decide)).2.2 (by simp)
  exact ⟨decoded, ⟨written, writes, (spelled _).mp failed⟩, gave⟩

end DuplexRpc.Correlator
