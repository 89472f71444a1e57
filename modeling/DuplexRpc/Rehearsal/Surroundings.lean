import DuplexRpc.Rehearsal.Acting

/-!
What the connection task meets: the scripted connector, links and strategy, the virtual clock, and
the listeners of its announcements. One pulse is either a move of the task on its own or the
answer of one of these to what the task waits for.
-/

namespace DuplexRpc.Rehearsal

def reply (answer : Channel.Answer) : Scene Unit := do
  let (channel, readings) := (← get).client.channel.answer answer
  setChannel channel
  record readings

/-- Begins the next attempt of the script; past its end attempts never end. An address that is
refused ends its attempt at once. -/
def beginDial : Scene Bool := do
  match (← get).connector with
  | .address url =>
    match Channel.refusal? url with
    | some fault => do
      reply (.refused fault)
      pure true
    | none => pure false
  | .scripted attempts => do
    let attempt := attempts.head?.getD { ending := .hangs }
    note (.attempt attempt.ending)
    modify fun w =>
      { w with
        connector := .scripted attempts.tail
        dial := some { attempt, due := w.now + attempt.after } }
    pure true

def Link.ofAttempt (a : Attempt) : Link where
  inbound := a.inbound.map .payload ++ a.inboundError.toList.map .error
  alive := !a.ended
  sink := a.sink

def endDial (act : Actor) (attempt : Attempt) : Scene Unit := do
  modify fun w => { w with dial := none }
  if ← takeAll act none attempt.steps then reply .panicked
  else
    match attempt.ending with
    | .accepted => do
      modify fun w => { w with links := w.links ++ [Link.ofAttempt attempt] }
      reply .linked
    | .failed message => reply (.refused (.transport message))
    | .hangs => pure ()

def World.nextTimer (w : World) : Option Time :=
  match w.dial with
  | some { attempt := { ending := .hangs, .. }, .. } => none
  | some { due, .. } => some due
  | none => w.wakeAt

def dial (act : Actor) : Scene Bool := do
  let w ← get
  match w.dial, w.nextTimer with
  | none, _ => beginDial
  | some { attempt, .. }, some due =>
    if due ≤ w.now then do
      endDial act attempt
      pure true
    else pure false
  | some _, none => pure false

/-- The clock counts whole milliseconds and never wakes anyone early. -/
def sleep (delay : Backoff.Nanoseconds) : Scene Bool := do
  let w ← get
  match w.wakeAt with
  | none => do
    let millis := (delay + Backoff.millisecond - 1) / Backoff.millisecond
    set { w with wakeAt := some (w.now + millis) }
    pure true
  | some wakeAt =>
    if wakeAt ≤ w.now then do
      set { w with wakeAt := none }
      reply .elapsed
      pure true
    else pure false

def resetStrategy : Scene Unit := do
  if (← get).strategy.logged then note .reset
  reply .done

/-- The delay that the strategy gives; a listed one is used up. -/
def takeDelay (attempt : Nat) : Scene (Option Backoff.Nanoseconds) := do
  let strategy := (← get).strategy
  match strategy.delays with
  | .strategy s => pure (s.nextDelay 0 attempt)
  | .listed delays => do
    modify fun w => { w with strategy := { strategy with delays := .listed delays.tail } }
    pure (delays.head?.join.map (· * Backoff.millisecond))

def consult (act : Actor) (attempt : Nat) : Scene Unit := do
  let strategy := (← get).strategy
  let delay ← takeDelay attempt
  if strategy.logged then note (.nextDelay attempt (delay.map (· / Backoff.millisecond)))
  if ← takeAll act none strategy.steps then reply .panicked
  else reply (.delay delay)

/-- The link in service is the one that opened last. -/
def World.currentLink (w : World) : Option (Nat × Link) :=
  w.links.getLast?.map fun link => (w.links.length - 1, link)

def takeInbound : Scene Bool := do
  match (← get).currentLink with
  | none => pure false
  | some (index, link) =>
    match link.inbound with
    | item :: rest => do
      updateLink index fun l => { l with inbound := rest }
      reply (match item with
        | .payload text => .received text
        | .error message => .readFailed (.transport message))
      pure true
    | [] =>
      if link.alive then pure false
      else do
        reply .ended
        pure true

def write (payload : String) : Scene Bool := do
  match (← get).currentLink with
  | none => pure false
  | some (index, link) =>
    match link.sink.refusal, link.sink.limit with
    | some message, _ => do
      reply (.writeFailed (.transport message))
      pure true
    | none, some 0 => do
      reply (.writeFailed (.transport "write limit"))
      pure true
    | none, limit =>
      if link.sink.blocked then pure false
      else do
        note (.written index payload)
        updateLink index fun l => { l with sink := { l.sink with limit := limit.map (· - 1) } }
        reply (match link.sink.flushFailure with
          | some message => .writeFailed (.transport message)
          | none => .wrote)
        pure true

/-- An inbound payload goes to the client's correlator, or to whoever listens to a bare channel. -/
def deliver (act : Actor) (payload : String) : Scene Unit := do
  let w ← get
  match w.cast with
  | .client => do
    handleText act payload
    reply .done
  | _ => do
    note (.delivered payload w.snapshot)
    if ← runHooks act "message" none then reply .panicked else reply .done

def hangUp : Scene Unit := do
  if let some (index, _) := (← get).currentLink then note (.sinkClose index)
  reply .done

/-- Answers what the task waits for, if there is an answer yet. -/
def serveTask (act : Actor) : Channel.Task → Scene Bool
  | .dialing => dial act
  | .sleeping delay => sleep delay
  | .serving => takeInbound
  | .writing payload => write payload
  | .resetting => do
    resetStrategy
    pure true
  | .consulting attempt => do
    consult act attempt
    pure true
  | .delivering payload => do
    deliver act payload
    pure true
  | .hangingUp => do
    hangUp
    pure true
  | _ => pure false

/-- One move of the task or of its surroundings; says whether there was one. When the task moves
on its own, it waits no longer for what it waited for. -/
def pulse (act : Actor) : Scene Bool := do
  let channel := (← get).client.channel
  let moved ← match channel.proceed, channel.announcement? with
    | some (channel, readings), _ => do
      setChannel channel
      record readings
      modify fun w => { w with dial := none, wakeAt := none }
      pure true
    | none, some event => do
      emit act event
      reply .done
      pure true
    | none, none => serveTask act channel.task
  releaseLinks
  pure moved

def runTask (act : Actor) : (patience : Nat) → Scene Unit
  | 0 => pure ()
  | patience + 1 => do
    if ← pulse act then runTask act patience

end DuplexRpc.Rehearsal
