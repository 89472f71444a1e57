import DuplexRpc.Proofs.Channel.Closed
import DuplexRpc.Proofs.Client.Change
import DuplexRpc.Proofs.Event.Handles

/-!
# Dispatches in progress

A dispatch keeps its event and comes to fewer and fewer listeners.  The client's own listener for
the closing is registered before every other, and it is not taken off unless the ids of listeners
come round to its own, so every dispatch of the closing comes to it.  The closing itself is
announced once.
-/

namespace DuplexRpc.Client

open DuplexRpc.Json DuplexRpc.Wire

variable {ω : Type} {s moved : Session ω} {seen : List Occurrence}

/-- The client's own listener for the closing. -/
def closer : Listener (Reaction ω) :=
  { id := ⟨1⟩, event := Event.close.name, action := .rejectOutstanding .connectionClosed }

def Session.outstanding (s : Session ω) : List RequestId := s.client.correlator.outstanding

def Session.ticket? (s : Session ω) (r : RequestId) : Option Ticket :=
  s.client.correlator.ticket? r

/-! ## Dispatches of a changed client -/

theorem Dispatch.event_of_closes {d : Dispatch ω} (closes : d.closes) : d.event = .close := by
  cases event : d.event <;> simp_all [Dispatch.closes]

theorem mem_announce {events : List Event} {d : Dispatch ω}
    (mem : d ∈ (s.announce events).dispatches) :
    d ∈ s.dispatches ∨ ∃ event ∈ events, d = { event } := by
  simp only [Session.announce, List.mem_append, List.mem_map] at mem
  rcases mem with mem | ⟨event, announced, rfl⟩
  · exact .inl mem
  · exact .inr ⟨event, announced, rfl⟩

theorem mem_enter {k : Nat} {d other : Dispatch ω} {stage : Dispatch.Stage ω}
    (mem : other ∈ (s.enter k d stage).dispatches) :
    other ∈ s.dispatches ∨ other = { d with stage } :=
  List.mem_or_eq_of_mem_set mem

theorem events_enter {k : Nat} {d : Dispatch ω} (stage : Dispatch.Stage ω)
    (found : s.dispatches[k]? = some d) :
    (s.enter k d stage).dispatches.map (·.event) = s.dispatches.map (·.event) := by
  obtain ⟨bound, rfl⟩ := List.getElem?_eq_some_iff.mp found
  have bound : k < (s.dispatches.map (·.event)).length := by simpa using bound
  have same : (s.dispatches.map (·.event)).set k (s.dispatches.map (·.event))[k] =
      s.dispatches.map (·.event) := List.set_getElem_self bound
  rw [Session.enter, List.map_set]
  simpa using same

/-! ## Listeners -/

/-- A listener of the client's own for the closing rejects with nothing but that. -/
def Honest (listener : Listener (Reaction ω)) : Prop :=
  ∀ fault, listener.action = .rejectOutstanding fault → fault = .connectionClosed

/-- The ids of observers' listeners did not come round: the client has given out two at most to
its own. -/
def Session.Roomy (s : Session ω) : Prop := s.issued.length + 2 < 2 ^ 64

instance (s : Session ω) : Decidable s.Roomy := inferInstanceAs (Decidable (_ < _))

/-- Ids count the registrations. -/
structure Session.Counted (s : Session ω) : Prop where
  begun : s.Roomy → 1 ≤ s.client.listeners.lastId.toNat
  bounded : s.Roomy → s.client.listeners.lastId.toNat ≤ s.issued.length + 2

/-- After an observer has registered a listener. -/
def Session.listen (s : Session ω) (event : String) (observer : ω) : Session ω :=
  { s with
    client := (s.client.listen event observer).2
    issued := s.issued ++ [(s.client.listen event observer).1] }

section

variable {event : String} {observer : ω}

theorem Session.Roomy.of_listen (room : (s.listen event observer).Roomy) : s.Roomy := by
  simp only [Session.Roomy, Session.listen, List.length_append, List.length_singleton] at room ⊢
  omega

theorem Session.Counted.lastId_listen (h : s.Counted) (room : (s.listen event observer).Roomy) :
    (s.listen event observer).client.listeners.lastId.toNat =
      s.client.listeners.lastId.toNat + 1 := by
  have bounded := h.bounded room.of_listen
  simp only [Session.Roomy, Session.listen, List.length_append, List.length_singleton] at room
  exact Registry.toNat_lastId_on (by omega) event (.observe observer)

theorem Session.Counted.listen (h : s.Counted) : (s.listen event observer).Counted where
  begun room := by
    rw [h.lastId_listen room]
    exact Nat.succ_pos _
  bounded room := by
    have bounded := h.bounded room.of_listen
    rw [h.lastId_listen room, Session.listen, List.length_append, List.length_singleton]
    omega

end

structure Listening (s : Session ω) : Prop where
  own : s.Roomy → closer ∈ s.client.listeners.listeners
  counted : s.Counted
  issued : s.Roomy → ∀ id ∈ s.issued, 1 < id.value.toNat
  honest : ∀ listener ∈ s.client.listeners.listeners,
    listener.event = Event.close.name → Honest listener
  called : ∀ d ∈ s.dispatches, d.closes → ∀ listener ∈ d.targets, Honest listener

theorem Session.Roomy.congr (issued : moved.issued = s.issued) : moved.Roomy ↔ s.Roomy := by
  rw [Session.Roomy, Session.Roomy, issued]

theorem Session.Counted.of_same (h : s.Counted)
    (client : moved.client.listeners = s.client.listeners) (issued : moved.issued = s.issued) :
    moved.Counted where
  begun room := client ▸ h.begun ((Session.Roomy.congr issued).mp room)
  bounded room := by
    rw [client, issued]
    exact h.bounded ((Session.Roomy.congr issued).mp room)

theorem Change.roomy (change : Change s moved seen) (room : moved.Roomy) : s.Roomy := by
  cases change with
  | on event observer => exact Session.Roomy.of_listen room
  | _ => exact room

namespace Listening

theorem of_dispatches (h : Listening s) (client : moved.client.listeners = s.client.listeners)
    (issued : moved.issued = s.issued)
    (called : ∀ d ∈ moved.dispatches, d ∈ s.dispatches ∨
      (d.closes → ∀ listener ∈ d.targets, Honest listener)) : Listening moved where
  own room := client ▸ h.own ((Session.Roomy.congr issued).mp room)
  counted := h.counted.of_same client issued
  issued room := by
    rw [issued]
    exact h.issued ((Session.Roomy.congr issued).mp room)
  honest := client ▸ h.honest
  called d mem := by
    rcases called d mem with mem | honest
    · exact h.called d mem
    · exact honest

theorem of_same (h : Listening s) (client : moved.client.listeners = s.client.listeners)
    (issued : moved.issued = s.issued) (dispatches : moved.dispatches = s.dispatches) :
    Listening moved :=
  h.of_dispatches client issued fun _ mem => .inl (dispatches ▸ mem)

theorem of_announce (h : Listening s) (events : List Event) : Listening (s.announce events) := by
  refine h.of_dispatches rfl rfl fun d mem => ?_
  rcases mem_announce mem with mem | ⟨event, -, rfl⟩
  · exact .inl mem
  · exact .inr fun _ _ called => by cases called

theorem of_enter (h : Listening s) {k : Nat} {d : Dispatch ω} {stage : Dispatch.Stage ω}
    (found : s.dispatches[k]? = some d)
    (fewer : Dispatch.targets { d with stage } ⊆ d.targets) : Listening (s.enter k d stage) := by
  refine h.of_dispatches rfl rfl fun other mem => ?_
  rcases mem_enter mem with mem | rfl
  · exact .inl mem
  · exact .inr fun closes listener called =>
      h.called d (List.mem_of_getElem? found) closes listener (fewer called)

theorem listen (h : Listening s) (event : String) (observer : ω) :
    Listening (s.listen event observer) where
  own room := List.mem_append_left _ (h.own room.of_listen)
  counted := h.counted.listen
  issued room id mem := by
    rcases List.mem_append.mp mem with mem | own
    · exact h.issued room.of_listen id mem
    · obtain rfl := List.mem_singleton.mp own
      have begun := h.counted.begun room.of_listen
      have last := h.counted.lastId_listen room
      show 1 < (s.listen event observer).client.listeners.lastId.toNat
      omega
  honest listener mem named := by
    rcases List.mem_append.mp mem with mem | own
    · exact h.honest listener mem named
    · obtain rfl := List.mem_singleton.mp own
      exact nofun
  called := h.called

/-- Only an observer's listener is taken off, and the client's own is none. -/
theorem off (h : Listening s) {id : ListenerId} (own : id ∈ s.issued) :
    Listening { s with client := (s.client.off id).2 } where
  own room := by
    have other : (closer : Listener (Reaction ω)).id ≠ id := by
      intro same
      have above := h.issued room id own
      rw [← same] at above
      exact Nat.lt_irrefl 1 above
    simpa [Client.off, Registry.off, other] using h.own room
  counted := ⟨h.counted.begun, h.counted.bounded⟩
  issued := h.issued
  honest listener mem := h.honest listener (List.mem_filter.mp mem).1
  called := h.called

theorem step (h : Listening s) (change : Change s moved seen) : Listening moved := by
  cases change with
  | idle => exact h
  | channel | receive =>
      refine of_announce ?_ _
      exact h.of_same rfl rfl rfl
  | register | handOver | refuse | withdraw | settle | limit | poll | drop =>
      exact h.of_same rfl rfl rfl
  | on event observer => exact h.listen event observer
  | off id own => exact h.off own
  | lookUp k d found stage =>
      refine h.of_dispatches rfl rfl fun other mem => ?_
      rcases mem_enter mem with mem | rfl
      · exact .inl mem
      · refine .inr fun closes listener called => ?_
        obtain ⟨known, named⟩ := List.mem_filter.mp called
        have named : listener.event = d.event.name := by simpa using named
        rw [Dispatch.event_of_closes closes] at named
        exact h.honest listener known named
  | pass k d observer listener targets found stage action =>
      exact h.of_enter found (by simp [Dispatch.targets, stage])
  | drain k d fault listener targets found stage action =>
      refine of_enter ?_ found (by simp [Dispatch.targets, stage])
      exact h.of_same rfl rfl rfl
  | reject k d fault request requests targets found stage =>
      refine of_enter ?_ found (by simp [Dispatch.targets, stage])
      exact h.of_same rfl rfl rfl
  | leave k d fault targets found stage =>
      exact h.of_enter found (by simp [Dispatch.targets, stage])

end Listening

theorem listening_launch (policy : PendingPolicy) (requestTimeout : Option Time) :
    Listening (Session.launch policy requestTimeout : Session ω) := by
  have unissued : (Session.launch policy requestTimeout : Session ω).Roomy →
      ∀ id ∈ (Session.launch policy requestTimeout : Session ω).issued,
        1 < id.value.toNat := by simp
  have counted : (Session.launch policy requestTimeout : Session ω).Counted := by
    cases policy with
    | keepAcrossReconnect => exact ⟨fun _ => Nat.le_refl 1, fun _ => Nat.le_succ 1⟩
    | rejectOnDisconnect => exact ⟨fun _ => Nat.le_succ 1, fun _ => Nat.le_refl 2⟩
  have uncalled : ∀ d ∈ (Session.launch policy requestTimeout : Session ω).dispatches,
      d.closes → ∀ listener ∈ d.targets, Honest listener := by simp
  cases policy with
  | keepAcrossReconnect =>
      refine ⟨fun _ => List.mem_singleton.mpr rfl, counted, unissued, ?_, uncalled⟩
      intro listener known named fault action
      obtain rfl := List.mem_singleton.mp known
      cases action
      rfl
  | rejectOnDisconnect =>
      refine ⟨fun _ => List.mem_cons_self, counted, unissued, ?_, uncalled⟩
      intro listener known named fault action
      rcases List.mem_cons.mp known with rfl | known
      · cases action
        rfl
      · obtain rfl := List.mem_singleton.mp known
        have apart : Event.disconnect.name ≠ Event.close.name := by decide
        exact absurd named apart

/-! ## The closing is announced once -/

def Session.closings (s : Session ω) : Nat :=
  (s.dispatches.map (·.event)).countP (· matches .close)

def Announced (s : Session ω) : Prop := s.client.channel.Announced s.closings

theorem closings_announce (events : List Event) :
    (s.announce events).closings = s.closings + events.countP (· matches .close) := by
  simp [Session.closings, Session.announce, Function.comp_def]

theorem closings_enter {k : Nat} {d : Dispatch ω} (stage : Dispatch.Stage ω)
    (found : s.dispatches[k]? = some d) : (s.enter k d stage).closings = s.closings := by
  rw [Session.closings, events_enter stage found, Session.closings]

theorem closings_announced (shown : List Channel.Occurrence) :
    (shown.filterMap Channel.Occurrence.announced?).countP (· matches .close) =
      Channel.closings shown := by
  induction shown with
  | nil => rfl
  | cons first shown ih =>
      cases first with
      | announced event =>
          cases event <;>
            simp_all [Channel.Occurrence.announced?, Channel.Occurrence.closes]
      | _ =>
          simpa [List.filterMap_cons, Channel.Occurrence.announced?,
            Channel.Occurrence.closes] using ih

theorem closings_send {c sent : Channel} {payload : String} {shown : List Channel.Occurrence}
    (step : Channel.Step c (.send payload) sent shown) : Channel.closings shown = 0 := by
  cases step <;> simp [Channel.Occurrence.closes]

theorem Announced.step (h : Announced s) (change : Change s moved seen) : Announced moved := by
  unfold Announced at h ⊢
  cases change with
  | channel step =>
      rw [closings_announce, closings_announced]
      exact Channel.Announced.step h step
  | handOver id alive step =>
      have announced := Channel.Announced.step h step
      rw [closings_send step] at announced
      exact announced
  | receive discarded requests =>
      have silent : (requests.map Event.request).countP (· matches .close) = 0 := by
        simp
      rw [closings_announce, silent]
      exact h
  | lookUp k d found _ | pass k d _ _ _ found _ _ | leave k d _ _ found _ =>
      rw [closings_enter _ found]
      exact h
  | drain k d _ _ _ found _ _ | reject k d _ _ _ _ found _ =>
      rw [closings_enter _ (by exact found)]
      exact h
  | _ => exact h

end DuplexRpc.Client
