import DuplexRpc.Channel.Basic

/-!
The connection task of a channel. It makes one attempt after another, serves at most one link at a
time, and asks the strategy how long to wait after every failed attempt and every lost link.

`proceed` is what the task does on its own. `answer` is what it does when its surroundings answer:
the connector, the link, the clock, the strategy, and the listeners of an announcement. An answer
that does not belong to what the task waits for changes nothing.

Where the task runs code that nothing guards, the answer may be a panic. It ends the task and drops
its end of the queue; the state of the channel stays as it was.
-/

namespace DuplexRpc.Channel

open DuplexRpc.Telemetry

inductive Answer where
  /-- An announcement was dispatched, the strategy was reset, a payload was handed over, or the
  link was shut down. -/
  | done
  | linked
  | refused (fault : Fault)
  | wrote
  | writeFailed (fault : Fault)
  | received (payload : String)
  | readFailed (fault : Fault)
  | ended
  /-- The strategy's delay, in nanoseconds; nothing to give up. -/
  | delay (delay : Option Nat)
  | elapsed
  | panicked
  deriving Repr

def maxAttempts : Nat := 0xFFFFFFFF

def announcement? (c : Channel) : Option Event :=
  match c.task with
  | .reportingRefusal fault => some (.error fault)
  | .reportingLoss fault => some (.error fault)
  | .reportingExhaustion attempts => some (.error (.reconnectExhausted attempts))
  | .announcingOpen => some .connect
  | .announcingLoss => some .disconnect
  | .announcingClose => some .close
  | _ => none

/-- The task holds a link from the moment it opens until it was lost or shut down. -/
def holdsLink (c : Channel) : Bool :=
  match c.task with
  | .resetting | .announcingOpen | .serving | .writing _ | .delivering _ | .reportingLoss _
  | .announcingLoss | .hangingUp => true
  | _ => false

def quit (c : Channel) : Channel := { c with task := .finished }

/-- Begins an attempt. Every attempt counts as a reconnection but the first of a channel that has
neither been open nor failed. -/
def attempt (c : Channel) : Channel × List Reading :=
  match c.transition .connecting with
  | (false, c, readings) => (c.quit, readings)
  | (true, c, readings) =>
    ({ c with task := .dialing },
      readings ++ if c.openedBefore || 0 < c.attempts then [.reconnectionAttempt] else [])

/-- Takes a link into service: what was buffered is queued for it, and the failures are forgotten.
On a closed channel the link is shut down at once. -/
def openLink (c : Channel) : Channel × List Reading :=
  if c.state = .closed then ({ c with task := .hangingUp }, [])
  else
    ({ c with
        state := .open, published := .open, attempts := 0, outlet := .queue c.buffer,
        buffer := [], task := .resetting },
      [.state .open])

def consult (c : Channel) : Channel :=
  if c.state = .closed then c.quit else { c with task := .consulting c.attempts }

def queued (c : Channel) : List String :=
  match c.outlet with
  | .queue payloads => payloads
  | _ => []

/-- Leaves open after the link was lost. What was queued for it goes back to the buffer. -/
def loseLink (c : Channel) : Channel × List Reading :=
  if c.state = .closed then (c.quit, [])
  else
    ({ c with
        state := .disconnected, published := .disconnected, outlet := .none,
        buffer := c.buffer ++ c.queued, task := .announcingLoss },
      [.state .disconnected])

def giveUp (c : Channel) (attempts : Nat) : Channel × List Reading :=
  match c.shut with
  | (false, c, readings) => (c.quit, readings)
  | (true, c, readings) =>
    ({ c with task := .reportingExhaustion attempts },
      readings ++ [.error "reconnect_exhausted"])

/-- What the task does on its own: it begins an attempt, it notices that the channel was closed,
and it takes the next payload for writing, in this order of preference. -/
def proceed (c : Channel) : Option (Channel × List Reading) :=
  match c.task, c.state, c.outlet with
  | .attempting, _, _ => some c.attempt
  | .dialing, .closed, _ => some (c.quit, [])
  | .sleeping _, .closed, _ => some (c.quit, [])
  | .serving, .closed, _ => some ({ c with task := .hangingUp }, [])
  | .serving, _, .queue (payload :: rest) =>
    some ({ c with outlet := .queue rest, task := .writing payload }, [])
  | _, _, _ => none

/-- Inbound items are looked at only when there is nothing else to do. -/
def idle (c : Channel) : Bool := c.proceed.isNone

def crash (c : Channel) : Channel :=
  { c with
    task := .crashed
    outlet := match c.outlet with
      | .queue _ => .severed
      | outlet => outlet }

def answer? (c : Channel) (a : Answer) : Option (Channel × List Reading) :=
  match c.task, a with
  | .dialing, .linked => some c.openLink
  | .dialing, .refused fault =>
    some ({ c with task := .reportingRefusal fault }, [.error "connect"])
  | .reportingRefusal _, .done =>
    match c.transition .disconnected with
    | (false, c, readings) => some (c.quit, readings)
    | (true, c, readings) => some (c.consult, readings)
  | .resetting, .done =>
    some ({ c with openedBefore := true, task := .announcingOpen },
      if c.openedBefore then [.reconnectionSuccess] else [])
  | .announcingOpen, .done => some ({ c with task := .serving }, [])
  | .serving, .received payload =>
    if c.idle then some ({ c with task := .delivering payload }, []) else none
  | .serving, .readFailed fault =>
    if c.idle then some ({ c with task := .reportingLoss fault }, [.error "read"]) else none
  | .serving, .ended => if c.idle then some c.loseLink else none
  | .writing _, .wrote => some ({ c with task := .serving }, [])
  | .writing _, .writeFailed fault =>
    some ({ c with task := .reportingLoss fault }, [.error "write"])
  | .delivering _, .done => some ({ c with task := .serving }, [])
  | .reportingLoss _, .done => some c.loseLink
  | .announcingLoss, .done => some (c.consult, [])
  | .consulting attempts, .delay none => some (c.giveUp attempts)
  | .consulting _, .delay (some delay) => some ({ c with task := .sleeping delay }, [])
  | .sleeping _, .elapsed =>
    if c.state = .closed then some (c.quit, [])
    else some ({ c with attempts := min (c.attempts + 1) maxAttempts, task := .attempting }, [])
  | .reportingExhaustion _, .done => some ({ c with task := .announcingClose }, [])
  | .announcingClose, .done => some (c.quit, [])
  | .hangingUp, .done => some (c.quit, [])
  | .serving, .panicked => if c.idle then some (c.crash, []) else none
  | task, .panicked => if task.unguarded then some (c.crash, []) else none
  | _, _ => none

def answer (c : Channel) (a : Answer) : Channel × List Reading :=
  (c.answer? a).getD (c, [])

end DuplexRpc.Channel
