import Mathlib.Data.List.Perm.Basic
import DuplexRpc.Proofs.Correlator.Answerable

/-!
# What becomes of inbound texts

An inbound text is discarded and counted, or it is announced as a call of the peer, or it answers
the request whose id it has, and never two of these.  An announced text may answer a request as
well, one that is in the table when its listeners have returned.

Texts may be handled while others are being handled, because listeners may hand over texts of their
own, and anything else may happen in between.  Every text that was handled to its end is discarded
or not, and those that were not are the ones that were announced or gave an answer.
-/

namespace DuplexRpc.Correlator

open DuplexRpc.Json DuplexRpc.Wire

variable {c after : Correlator} {m : Message} {r : RequestId} {text : String}
  {heard : Correlator → Correlator} {events : List Event}

/-- All steps of an inbound text, if this is what the listeners of its announcement make of the
correlator. -/
def handleHeard (c : Correlator) (text : String) (heard : Correlator → Correlator) :
    Correlator × List Event :=
  match c.receive text with
  | (none, c, _) => (c, [])
  | (some m, c, _) =>
      match announcement? m with
      | none => ((c.settle m).1, [])
      | some (event, _) => (((heard c).settle m).1, [event])

/-- Listeners that leave the correlator alone. -/
theorem handleHeard_id (c : Correlator) (text : String) :
    c.handleHeard text id = ((c.handleText text).1, (c.handleText text).2.1) := by
  cases decoded : Message.decode text with
  | error fault => simp [handleHeard, handleText, receive, decoded]
  | ok m =>
      cases call : m.method <;>
        simp [handleHeard, handleText, receive, decoded, announcement?, Message.inboundRequest?,
          call]

/-- The message has the id of the request, as a signed integer. -/
def Names (m : Message) (r : RequestId) : Prop :=
  ∃ n : Int64, m.id = .number n ∧ n.toInt = r.toNat

theorem names_iff : Names m r ↔ m.responseId? = some r := Id.requestId?_eq_some_iff.symm

theorem stray_iff :
    (∀ r ∈ c.outstanding, ¬Names m r) ↔ ∀ r ∈ c.outstanding, m.responseId? ≠ some r := by
  simp only [names_iff, ne_eq]

/-! ## What becomes of one text -/

/-- One request leaves the table with an outcome, and nothing else changes. -/
structure Settled (c after : Correlator) (r : RequestId) (outcome : CallOutcome) : Prop where
  listed : r ∈ c.outstanding
  pending : after.pending = c.pending.filter (·.id ≠ r)
  own : after.ticket? r = (c.ticket? r).map (Ticket.settle outcome)
  others : ∀ other, other ≠ r → after.ticket? other = c.ticket? other
  nextId : after.nextId = c.nextId
  discarded : after.discarded = c.discarded

theorem settled_of_names (names : Names m r) (listed : r ∈ c.outstanding) :
    Settled c (c.settle m).1 r (outcomeOf m) := by
  rw [settle_of_mem (names_iff.mp names) listed]
  refine ⟨listed, rfl, ?_, ?_, rfl, rfl⟩
  · rw [ticket?_deliver, if_pos rfl, ticket?_forget]
  · intro other apart
    rw [ticket?_deliver, if_neg apart, ticket?_forget]

/-- The text is no message, or an answer to nothing. -/
structure Discards (c : Correlator) (text : String) (after : Correlator) (events : List Event) :
    Prop where
  stray : ∀ m, Message.decode text = .ok m → m.method = none ∧ ∀ r ∈ c.outstanding, ¬Names m r
  counted : after = { c with discarded := c.discarded + 1 }
  silent : events = []

/-- The text is a call of the peer.  If its listeners leave a request with its id in the table, it
answers that request too. -/
structure Announces (c : Correlator) (text : String) (heard : Correlator → Correlator)
    (after : Correlator) (events : List Event) : Prop where
  call : ∃ m method, Message.decode text = .ok m ∧ m.method = some method ∧
    events = [.request { method, id := m.id, params := m.params }] ∧
    ((∀ r ∈ (heard c).outstanding, ¬Names m r) ∧ after = heard c ∨
      ∃ r, Names m r ∧ Settled (heard c) after r (outcomeOf m))
  uncounted : after.discarded = (heard c).discarded

/-- The text is an answer to a request in the table. -/
structure Answers (c : Correlator) (text : String) (after : Correlator) (events : List Event) :
    Prop where
  answer : ∃ m r, Message.decode text = .ok m ∧ m.method = none ∧ Names m r ∧
    Settled c after r (outcomeOf m)
  silent : events = []

theorem discards_of_error {fault : Fault} (refused : Message.decode text = .error fault) :
    Discards c text (c.handleHeard text heard).1 (c.handleHeard text heard).2 := by
  have done : c.handleHeard text heard = ({ c with discarded := c.discarded + 1 }, []) := by
    simp [handleHeard, receive, refused, discard]
  rw [done]
  refine ⟨fun m decoded => ?_, rfl, rfl⟩
  cases refused.symm.trans decoded

theorem handleHeard_of_silent (decoded : Message.decode text = .ok m) (silent : m.method = none) :
    c.handleHeard text heard = ((c.settle m).1, []) := by
  simp [handleHeard, receive, decoded, announcement?, Message.inboundRequest?, silent]

theorem discards_of_stray (decoded : Message.decode text = .ok m) (silent : m.method = none)
    (stray : ∀ r ∈ c.outstanding, ¬Names m r) :
    Discards c text (c.handleHeard text heard).1 (c.handleHeard text heard).2 := by
  have answer : ¬m.isRequest := by simp [Message.isRequest, silent]
  rw [handleHeard_of_silent decoded silent, settle_of_stray (stray_iff.mp stray), if_neg answer]
  refine ⟨fun other again => ?_, rfl, rfl⟩
  obtain rfl := Except.ok.inj (decoded.symm.trans again)
  exact ⟨silent, stray⟩

theorem answers_of_names (decoded : Message.decode text = .ok m) (silent : m.method = none)
    (names : Names m r) (listed : r ∈ c.outstanding) :
    Answers c text (c.handleHeard text heard).1 (c.handleHeard text heard).2 := by
  rw [handleHeard_of_silent decoded silent]
  exact ⟨⟨m, r, decoded, silent, names, settled_of_names names listed⟩, rfl⟩

theorem announces_of_call {method : String} (decoded : Message.decode text = .ok m)
    (call : m.method = some method) :
    Announces c text heard (c.handleHeard text heard).1 (c.handleHeard text heard).2 := by
  have done : c.handleHeard text heard =
      (((heard c).settle m).1, [.request { method, id := m.id, params := m.params }]) := by
    simp [handleHeard, receive, decoded, announcement?, Message.inboundRequest?, call]
  rw [done]
  by_cases stray : ∀ r ∈ (heard c).outstanding, ¬Names m r
  · have request : m.isRequest := by simp [Message.isRequest, call]
    rw [settle_of_stray (stray_iff.mp stray), if_pos request]
    exact ⟨⟨m, method, decoded, call, rfl, .inl ⟨stray, rfl⟩⟩, rfl⟩
  · push Not at stray
    obtain ⟨r, listed, names⟩ := stray
    have settled := settled_of_names names listed
    exact ⟨⟨m, method, decoded, call, rfl, .inr ⟨r, names, settled⟩⟩, settled.discarded⟩

theorem handleHeard_cases (c : Correlator) (text : String) (heard : Correlator → Correlator) :
    let (after, events) := c.handleHeard text heard
    Discards c text after events ∨ Announces c text heard after events ∨
      Answers c text after events := by
  cases decoded : Message.decode text with
  | error fault => exact .inl (discards_of_error decoded)
  | ok m =>
      cases call : m.method with
      | some method => exact .inr (.inl (announces_of_call decoded call))
      | none =>
          by_cases stray : ∀ r ∈ c.outstanding, ¬Names m r
          · exact .inl (discards_of_stray decoded call stray)
          · push Not at stray
            obtain ⟨r, listed, names⟩ := stray
            exact .inr (.inr (answers_of_names decoded call names listed))

theorem Discards.not_announces (h : Discards c text after events) :
    ¬Announces c text heard after events := by
  rintro ⟨⟨m, method, decoded, call, -⟩, -⟩
  cases (h.stray m decoded).1.symm.trans call

theorem Discards.not_answers (h : Discards c text after events) :
    ¬Answers c text after events := by
  rintro ⟨⟨m, r, decoded, -, names, settled⟩, -⟩
  exact (h.stray m decoded).2 r settled.listed names

theorem Announces.not_answers (h : Announces c text heard after events) :
    ¬Answers c text after events := by
  rintro ⟨⟨m, r, decoded, silent, -⟩, -⟩
  obtain ⟨other, method, again, call, -⟩ := h.call
  obtain rfl := Except.ok.inj (decoded.symm.trans again)
  cases silent.symm.trans call

/-! ## What becomes of many texts -/

/-- A correlator, and the messages that were read whose ids were not looked up yet. -/
structure Intake where
  correlator : Correlator := {}
  due : List Message := []

inductive Receipt where
  | discarded
  | announced (request : InboundRequest)
  | answered (r : RequestId)

def Receipt.discards : Receipt → Bool
  | .discarded => true
  | _ => false

def Move.arrives : Move → Bool
  | .receive _ | .inbound _ => true
  | _ => false

namespace Intake

inductive Act where
  | arrive (text : String)
  /-- Looks up the id of one of the messages that are due. -/
  | conclude (k : Nat)
  /-- Anything that brings no text. -/
  | move (m : Move)

def Act.arrives : Act → Bool
  | .arrive _ => true
  | _ => false

/-- The request in the table that the message answers. -/
def answered? (c : Correlator) (m : Message) : Option RequestId :=
  m.responseId?.filter (· ∈ c.outstanding)

/-- What becomes of a message at its end.  A call had its receipt when it was announced. -/
def receipts (c : Correlator) (m : Message) : List Receipt :=
  if m.isRequest then [] else [((answered? c m).map .answered).getD .discarded]

def step (i : Intake) : Act → Intake × List Receipt
  | .arrive text =>
      match i.correlator.receive text with
      | (none, c, _) => ({ i with correlator := c }, [.discarded])
      | (some m, c, _) =>
          ({ correlator := c, due := i.due ++ [m] }, m.inboundRequest?.toList.map .announced)
  | .conclude k =>
      match i.due[k]? with
      | none => (i, [])
      | some m =>
          ({ correlator := (i.correlator.settle m).1, due := i.due.eraseIdx k },
            receipts i.correlator m)
  | .move m =>
      (if m.arrives then i else { i with correlator := (i.correlator.step m).1 }, [])

def run : Intake → List Act → Intake × List Receipt := replay step

def arrivals (acts : List Act) : Nat := acts.countP Act.arrives

/-- The messages whose receipt is still to come. -/
def awaiting (i : Intake) : Nat := i.due.countP (!·.isRequest)

def discards (seen : List Receipt) : Nat := seen.countP Receipt.discards

/-- The texts that were announced or answered a request. -/
def delivered (seen : List Receipt) : Nat := seen.countP (!·.discards)

theorem length_eq_discards_add_delivered (seen : List Receipt) :
    seen.length = discards seen + delivered seen := by
  simpa [discards, delivered] using List.length_eq_countP_add_countP Receipt.discards (l := seen)

end Intake

theorem discarded_reject (c : Correlator) (fault : Fault) (requests : List PendingRequest) :
    (c.reject fault requests).discarded = c.discarded := by
  induction requests generalizing c with
  | nil => rfl
  | cons request requests ih => exact (ih _).trans rfl

/-- Only inbound messages are discarded. -/
theorem discarded_step {m : Move} (other : m.arrives = false) :
    (c.step m).1.discarded = c.discarded := by
  cases m with
  | receive text | inbound m => cases other
  | register method => by_cases wrapped : c.nextId = 0 <;> simp [step, register, takeId, wrapped]
  | refuse id fault | limit id deadline => rfl
  | failAll fault => exact discarded_reject _ fault _
  | poll id now =>
      rcases c.poll_cases id now with same | same | same <;> simp only [step, same] <;> rfl
  | drop id =>
      simp only [step, Correlator.drop]
      split <;> rfl

namespace Intake

theorem settled_of_answered (answered : answered? c m = some r) :
    Settled c (c.settle m).1 r (outcomeOf m) := by
  obtain ⟨response, listed⟩ := Option.filter_eq_some_iff.mp answered
  exact settled_of_names (names_iff.mpr response) (by simpa using listed)

theorem stray_of_unanswered (unanswered : answered? c m = none) :
    ∀ r ∈ c.outstanding, m.responseId? ≠ some r := by
  intro r listed response
  simp [answered?, response, listed] at unanswered

theorem discarded_settle (c : Correlator) (m : Message) :
    (c.settle m).1.discarded = c.discarded + UInt64.ofNat (discards (receipts c m)) := by
  unfold receipts
  cases answered : answered? c m with
  | some r =>
      rw [(settled_of_answered answered).discarded]
      split <;> simp [discards, Receipt.discards]
  | none =>
      rw [settle_of_stray (stray_of_unanswered answered)]
      split <;> simp [discards, Receipt.discards]

theorem length_receipts (c : Correlator) (m : Message) :
    (receipts c m).length = if m.isRequest then 0 else 1 := by
  unfold receipts
  split <;> rfl

/-- What a text or the end of its handling adds to the counter, and which receipts it has. -/
structure Accounts (i after : Intake) (texts : Nat) (seen : List Receipt) : Prop where
  counted : after.correlator.discarded =
    i.correlator.discarded + UInt64.ofNat (discards seen)
  receipted : texts + i.awaiting = seen.length + after.awaiting

theorem awaiting_eraseIdx {i : Intake} {k : Nat} (found : i.due[k]? = some m) :
    i.awaiting = (i.due.eraseIdx k).countP (!·.isRequest) + if m.isRequest then 0 else 1 := by
  obtain ⟨bound, rfl⟩ := List.getElem?_eq_some_iff.mp found
  have counts := (List.getElem_cons_eraseIdx_perm bound).countP_eq (!·.isRequest)
  rw [awaiting, ← counts, List.countP_cons]
  cases i.due[k].isRequest <;> rfl

theorem accounts_arrive (i : Intake) (text : String) :
    Accounts i (i.step (.arrive text)).1 1 (i.step (.arrive text)).2 := by
  cases decoded : Message.decode text with
  | error fault =>
      have done : i.step (.arrive text) =
          ({ i with correlator := (i.correlator.discard "undecodable").1 }, [.discarded]) := by
        simp [step, receive, decoded]
      rw [done]
      exact ⟨rfl, rfl⟩
  | ok m =>
      have done : i.step (.arrive text) =
          ({ i with due := i.due ++ [m] }, m.inboundRequest?.toList.map .announced) := by
        simp [step, receive, decoded]
      rw [done]
      cases call : m.method with
      | some method =>
          constructor
          · simp [Message.inboundRequest?, call, discards, Receipt.discards]
          · simp [Message.inboundRequest?, Message.isRequest, call, awaiting]
      | none =>
          constructor
          · simp [Message.inboundRequest?, call, discards]
          · simp [Message.inboundRequest?, Message.isRequest, call, awaiting]
            omega

theorem accounts_conclude (i : Intake) (k : Nat) :
    Accounts i (i.step (.conclude k)).1 0 (i.step (.conclude k)).2 := by
  cases found : i.due[k]? with
  | none =>
      have done : i.step (.conclude k) = (i, []) := by simp [step, found]
      rw [done]
      exact ⟨by simp [discards], by simp⟩
  | some m =>
      have done : i.step (.conclude k) =
          ({ correlator := (i.correlator.settle m).1, due := i.due.eraseIdx k },
            receipts i.correlator m) := by
        simp [step, found]
      rw [done]
      refine ⟨discarded_settle i.correlator m, ?_⟩
      have left := awaiting_eraseIdx found
      have length := length_receipts i.correlator m
      simp only [awaiting] at left ⊢
      omega

theorem accounts_step (i : Intake) (act : Act) :
    Accounts i (i.step act).1 (arrivals [act]) (i.step act).2 := by
  cases act with
  | arrive text => exact accounts_arrive i text
  | conclude k => exact accounts_conclude i k
  | move m =>
      cases arrives : m.arrives with
      | true =>
          exact ⟨by simp [step, arrives, discards],
            by simp [step, arrives, arrivals, Act.arrives]⟩
      | false =>
          have counter : (i.correlator.step m).1.discarded = i.correlator.discarded :=
            discarded_step arrives
          exact ⟨by simp [step, arrives, discards, counter],
            by simp [step, arrives, arrivals, Act.arrives, awaiting]⟩

theorem Accounts.trans {i after later : Intake} {texts more : Nat} {seen shown : List Receipt}
    (first : Accounts i after texts seen) (second : Accounts after later more shown) :
    Accounts i later (texts + more) (seen ++ shown) := by
  constructor
  · rw [second.counted, first.counted, discards, discards, discards, List.countP_append,
      UInt64.ofNat_add, UInt64.add_assoc]
  · have here := first.receipted
    have there := second.receipted
    rw [List.length_append]
    omega

theorem accounts_run (i : Intake) (acts : List Act) :
    Accounts i (i.run acts).1 (arrivals acts) (i.run acts).2 := by
  induction acts generalizing i with
  | nil => exact ⟨by simp [run, discards], by simp [run, arrivals]⟩
  | cons act acts ih =>
      have whole : arrivals (act :: acts) = arrivals [act] + arrivals acts := by
        simp [arrivals, List.countP_cons, Nat.add_comm]
      rw [whole]
      exact (accounts_step i act).trans (ih _)

/-- A text that is handled to its end before the next one comes. -/
def handle (text : String) : List Act := [.arrive text, .conclude 0]

theorem run_handle (c : Correlator) (text : String) :
    (run { correlator := c } (handle text)).1 = { correlator := (c.handleText text).1 } := by
  cases decoded : Message.decode text <;>
    simp [run, replay_cons, handle, step, receive, handleText, decoded]

theorem run_handled (c : Correlator) (texts : List String) :
    (run { correlator := c } (texts.flatMap handle)).1 =
      { correlator := (c.run (texts.map .receive)).1 } := by
  induction texts generalizing c with
  | nil => rfl
  | cons text texts ih =>
      rw [List.flatMap_cons, run, replay_append]
      change (run (run { correlator := c } (handle text)).1 (texts.flatMap handle)).1 = _
      rw [run_handle, ih]
      rfl

theorem arrivals_handled (texts : List String) : arrivals (texts.flatMap handle) = texts.length := by
  induction texts with
  | nil => rfl
  | cons text texts ih =>
      have one : arrivals (handle text) = 1 := rfl
      rw [List.flatMap_cons, arrivals, List.countP_append, ← arrivals, ← arrivals, ih, one,
        List.length_cons, Nat.add_comm]

end Intake

/-- A text that is handled has exactly one of three fates, whatever the listeners of its
announcement do; if they leave the correlator alone, this is how it handles texts.  However the
handling of texts overlaps, and whatever happens in between, the texts that were handled to their
end are those that were discarded, which is what the counter counts, and those that were announced
or took a request out of the table with an outcome. -/
theorem texts_accounted_for (c : Correlator) :
    (∀ text heard,
      let after := (c.handleHeard text heard).1
      let events := (c.handleHeard text heard).2
      (Discards c text after events ∨ Announces c text heard after events ∨
        Answers c text after events) ∧
      ¬(Discards c text after events ∧ Announces c text heard after events) ∧
      ¬(Discards c text after events ∧ Answers c text after events) ∧
      ¬(Announces c text heard after events ∧ Answers c text after events)) ∧
    (∀ text, c.handleHeard text id = ((c.handleText text).1, (c.handleText text).2.1)) ∧
    (∀ m r, Intake.answered? c m = some r → Settled c (c.settle m).1 r (outcomeOf m)) ∧
    (∀ due acts,
      let i : Intake := { correlator := c, due }
      let after := (i.run acts).1
      let seen := (i.run acts).2
      Intake.arrivals acts + i.awaiting =
        Intake.discards seen + Intake.delivered seen + after.awaiting ∧
      after.correlator.discarded = c.discarded + UInt64.ofNat (Intake.discards seen)) ∧
    ∀ texts : List String,
      let seen := (Intake.run { correlator := c } (texts.flatMap Intake.handle)).2
      texts.length = Intake.discards seen + Intake.delivered seen ∧
      (c.run (texts.map .receive)).1.discarded =
        c.discarded + UInt64.ofNat (Intake.discards seen) := by
  refine ⟨?fates, handleHeard_id c, fun m r => Intake.settled_of_answered, ?overlapping, ?single⟩
  case fates =>
      intro text heard after events
      refine ⟨c.handleHeard_cases text heard, ?_, ?_, ?_⟩
      · exact fun both => both.1.not_announces both.2
      · exact fun both => both.1.not_answers both.2
      · exact fun both => both.1.not_answers both.2
  case overlapping =>
      intro due acts i after seen
      have accounts := i.accounts_run acts
      refine ⟨?_, accounts.counted⟩
      rw [← Intake.length_eq_discards_add_delivered]
      exact accounts.receipted
  case single =>
      intro texts seen
      have accounts := Intake.accounts_run { correlator := c } (texts.flatMap Intake.handle)
      have ended := Intake.run_handled c texts
      constructor
      · have receipted := accounts.receipted
        rw [ended, Intake.arrivals_handled] at receipted
        rw [← Intake.length_eq_discards_add_delivered]
        exact receipted
      · have counted := accounts.counted
        rw [ended] at counted
        exact counted

end DuplexRpc.Correlator
