import Mathlib.Data.List.Chain
import DuplexRpc.Proofs.Channel.Run

/-!
# What happens to a channel

A chronicle lists the changes of a channel's state, the failures of its attempts and links, the
links that the peer ended, and whether the strategy gave up.  Each entry has at most one event that
tells of it.

Entries cannot follow each other in any order.  The phases are the states of a channel, where a
failure that was noticed and not acted on yet is a phase of its own; whatever order of entries
they admit, the events of the entries alternate between connecting and disconnecting until the
channel closes, and from then on they only tell of failures.
-/

namespace DuplexRpc.Channel

inductive Happening where
  /-- An attempt failed. -/
  | refused (fault : Fault)
  | writeFailed (fault : Fault)
  | readFailed (fault : Fault)
  /-- The peer ended the link. -/
  | ended
  | gaveUp (attempts : Nat)
  | changed (before after : Lifecycle)

def Happening.event? : Happening → Option Event
  | .refused fault | .writeFailed fault | .readFailed fault => some (.error fault)
  | .gaveUp attempts => some (.error (.reconnectExhausted attempts))
  | .changed _ .open => some .connect
  | .changed .open .disconnected => some .disconnect
  | .changed _ .closed => some .close
  | .changed _ _ | .ended => none

/-- The events that tell of what happened. -/
def tell (past : List Happening) : List Event := past.filterMap Happening.event?

@[simp] theorem tell_nil : tell [] = [] := rfl

@[simp] theorem tell_cons (h : Happening) (past : List Happening) :
    tell (h :: past) = h.event?.toList ++ tell past := by
  cases tells : h.event? <;> simp [tell, tells]

@[simp] theorem tell_append (past later : List Happening) :
    tell (past ++ later) = tell past ++ tell later :=
  List.filterMap_append

/-! ## The chronicle of a run -/

/-- What an answer tells the task, if the task waits for it. -/
def struck (c : Channel) (a : Answer) : List Happening :=
  match c.task, a with
  | .dialing, .refused fault => [.refused fault]
  | .writing _, .writeFailed fault => [.writeFailed fault]
  | .serving, .readFailed fault => if c.idle then [.readFailed fault] else []
  | .serving, .ended => if c.idle then [.ended] else []
  | .consulting attempts, .delay none => if c.state = .closed then [] else [.gaveUp attempts]
  | _, _ => []

def changes (before after : Lifecycle) : List Happening :=
  if before = after then [] else [.changed before after]

def happenings (c : Channel) (m : Move) : List Happening :=
  (match m with
    | .answer a => c.struck a
    | _ => []) ++ changes c.state (c.step m).1.state

def chronicle (c : Channel) (moves : List Move) : List Happening :=
  (replay (fun c m => ((c.step m).1, c.happenings m)) c moves).2

def announced (seen : List Occurrence) : List Event := seen.filterMap Occurrence.announced?

/-! ## Phases -/

inductive Phase where
  | connecting
  | refused
  | open
  | broken
  | ended
  | disconnected
  | exhausted
  | closed

inductive Phase.Next : Phase → Happening → Phase → Prop where
  | refuse (fault : Fault) : Next .connecting (.refused fault) .refused
  | setBack : Next .refused (.changed .connecting .disconnected) .disconnected
  | retry : Next .disconnected (.changed .disconnected .connecting) .connecting
  | link : Next .connecting (.changed .connecting .open) .open
  | breakWriting (fault : Fault) : Next .open (.writeFailed fault) .broken
  | breakReading (fault : Fault) : Next .open (.readFailed fault) .broken
  | finish : Next .open .ended .ended
  | lose : Next .broken (.changed .open .disconnected) .disconnected
  | leave : Next .ended (.changed .open .disconnected) .disconnected
  | exhaust (attempts : Nat) : Next .disconnected (.gaveUp attempts) .exhausted
  | giveUp : Next .exhausted (.changed .disconnected .closed) .closed
  | closeConnecting : Next .connecting (.changed .connecting .closed) .closed
  | closeRefused : Next .refused (.changed .connecting .closed) .closed
  | closeOpen : Next .open (.changed .open .closed) .closed
  | closeBroken : Next .broken (.changed .open .closed) .closed
  | closeDisconnected : Next .disconnected (.changed .disconnected .closed) .closed
  /-- What was under way when the channel closed may still fail. -/
  | failAttempt (fault : Fault) : Next .closed (.refused fault) .closed
  | failWriting (fault : Fault) : Next .closed (.writeFailed fault) .closed

inductive Phase.Walk : Phase → List Happening → Phase → Prop where
  | nil {p : Phase} : Walk p [] p
  | cons {p q r : Phase} {h : Happening} {later : List Happening} (first : Next p h q)
      (rest : Walk q later r) : Walk p (h :: later) r

namespace Phase

variable {p q r : Phase} {h : Happening} {past later : List Happening}

theorem Walk.single (next : Next p h q) : Walk p [h] q := .cons next .nil

theorem Walk.append (first : Walk p past q) (second : Walk q later r) :
    Walk p (past ++ later) r := by
  induction first with
  | nil => exact second
  | cons next _ ih => exact .cons next (ih second)

theorem Walk.split {before after : List Happening} (walk : Walk p (before ++ after) r) :
    ∃ q, Walk p before q ∧ Walk q after r := by
  induction before generalizing p with
  | nil => exact ⟨p, .nil, walk⟩
  | cons h before ih =>
      cases walk with
      | cons next rest =>
          obtain ⟨q, first, second⟩ := ih rest
          exact ⟨q, .cons next first, second⟩

theorem Walk.failures (walk : Walk .closed later r) :
    ∀ h ∈ later, ∃ fault, h = .refused fault ∨ h = .writeFailed fault := by
  generalize start : Phase.closed = p at walk
  induction walk with
  | nil => simp
  | cons next rest ih =>
      subst start
      rintro h (_ | ⟨_, later⟩)
      · cases next with
        | failAttempt fault => exact ⟨fault, .inl rfl⟩
        | failWriting fault => exact ⟨fault, .inr rfl⟩
      · cases next <;> exact ih rfl h later

/-! ## The events of a walk -/

def linked : Phase → Bool
  | .open | .broken | .ended => true
  | _ => false

end Phase

/-- Whether an event tells that a link opened or that it was lost. -/
def up? : Event → Option Bool
  | .connect => some true
  | .disconnect => some false
  | _ => none

def ups (events : List Event) : List Bool := events.filterMap up?

@[simp] theorem ups_cons (event : Event) (events : List Event) :
    ups (event :: events) = (up? event).toList ++ ups events := by
  cases tells : up? event <;> simp [ups, tells]

@[simp] theorem ups_append (events later : List Event) :
    ups (events ++ later) = ups events ++ ups later :=
  List.filterMap_append

/-- What directly follows an entry: a link that failed is left at once, by its loss or by the
closing of the channel, unless the channel was closed before; a link that the peer ended is lost;
and giving up closes the channel. -/
def Happening.LeadsTo : Happening → List Happening → Prop
  | .writeFailed _, later | .readFailed _, later =>
      later.head? = some (.changed .open .disconnected) ∨
        later.head? = some (.changed .open .closed) ∨ ∀ before after, .changed before after ∉ later
  | .ended, later => later.head? = some (.changed .open .disconnected)
  | .gaveUp _, later => later.head? = some (.changed .disconnected .closed)
  | .refused _, _ | .changed _ _, _ => True

namespace Phase

variable {p q r : Phase} {h : Happening} {past later : List Happening}

theorem Walk.errors (walk : Walk .closed later r) :
    ∀ event ∈ tell later, ∃ fault, event = .error fault := by
  intro event told
  obtain ⟨h, listed, tells⟩ := List.mem_filterMap.mp told
  obtain ⟨fault, rfl | rfl⟩ := walk.failures h listed <;>
    exact ⟨fault, (Option.some.inj tells).symm⟩

theorem Walk.ups_eq_nil (walk : Walk .closed later r) : ups (tell later) = [] := by
  rw [ups, List.filterMap_eq_nil_iff]
  intro event told
  obtain ⟨fault, rfl⟩ := walk.errors event told
  rfl

/-- Connecting and disconnecting alternate along a walk. -/
theorem Walk.alternates (walk : Walk p past r) :
    (p.linked :: ups (tell past)).IsChain (· ≠ ·) := by
  induction walk with
  | nil => exact List.isChain_singleton _
  | cons next rest ih =>
      cases next with
      | link | lose | leave => simpa [up?, Happening.event?, linked] using ih
      | closeOpen | closeBroken => simp [up?, Happening.event?, rest.ups_eq_nil]
      | _ => simpa [up?, Happening.event?, linked] using ih

theorem Next.closes (next : Next p h q) (tells : h.event? = some .close) : q = .closed := by
  cases next <;> first | rfl | cases tells

theorem Walk.closes_once (walk : Walk p past r) {before after : List Event}
    (told : tell past = before ++ .close :: after) :
    ∀ event ∈ after, ∃ fault, event = .error fault := by
  induction walk generalizing before with
  | nil => simp at told
  | @cons p q r h later next rest ih =>
      cases tells : h.event? with
      | none => exact ih (by simpa [tells] using told)
      | some first =>
          simp only [tell_cons, tells, Option.toList_some, List.singleton_append] at told
          cases before with
          | cons head before => exact ih (List.cons.inj told).2
          | nil =>
              obtain ⟨rfl, rfl⟩ := List.cons.inj told
              obtain rfl := next.closes tells
              exact rest.errors

theorem Walk.leads (walk : Walk p (h :: later) r) (moved : r ≠ .ended ∧ r ≠ .exhausted) :
    h.LeadsTo later := by
  cases walk with
  | cons next rest =>
      cases next with
      | breakWriting fault | breakReading fault =>
          cases rest with
          | nil => exact .inr (.inr (by simp))
          | cons next _ =>
              cases next with
              | lose => exact .inl rfl
              | closeBroken => exact .inr (.inl rfl)
      | failWriting fault =>
          refine .inr (.inr fun before after listed => ?_)
          obtain ⟨fault, same | same⟩ := rest.failures _ listed <;> cases same
      | finish =>
          cases rest with
          | nil => exact absurd rfl moved.1
          | cons next _ =>
              cases next
              rfl
      | exhaust attempts =>
          cases rest with
          | nil => exact absurd rfl moved.2
          | cons next _ =>
              cases next
              rfl
      | _ => trivial

end Phase
end DuplexRpc.Channel
