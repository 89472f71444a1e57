import DuplexRpc.Rehearsal.Surroundings

/-!
Sessions: whole rehearsals, step by step. After each step the connection task runs until it has
nothing left to do; then the futures and the waits that the script holds are asked, each once.
-/

namespace DuplexRpc.Rehearsal

open DuplexRpc.Telemetry

structure StepAnswer where
  result : Result
  log : List (Time × Entry)
  readings : List Reading
  ready : List (Nat × Except Fault Unit) := []
  settled : List (Nat × Result) := []
  snapshot : Option Snapshot
  time : Time

/-- The task makes no more moves than this without time passing, and meets no more timers than this
in one step. -/
def patience : Nat := 100000

def maxLevels : Nat := 64

def actor : Actor := take maxLevels

/-- Lets time pass, through every timer that is due on the way. The task runs before each leap. -/
def passTime (target : Time) : (patience : Nat) → Scene Unit
  | 0 => pure ()
  | left + 1 => do
    runTask actor patience
    match (← get).nextTimer with
    | some due =>
      if due ≤ target then do
        modify fun w => { w with now := max w.now due }
        passTime target left
      else modify fun w => { w with now := target }
    | none => modify fun w => { w with now := target }

def awaitOpen : (patience : Nat) → Scene (Except Fault Unit)
  | 0 => pure (.error .connectionClosed)
  | left + 1 => do
    runTask actor patience
    let w ← get
    match w.client.channel.readiness, w.nextTimer with
    | some readiness, _ => pure readiness
    | none, some due => do
      set { w with now := max w.now due }
      awaitOpen left
    | none, none => pure (.error .connectionClosed)

/-- Ends the waits once the channel is open or closed. Each gives its handle up. -/
def pollWaits : Scene (List (Nat × Except Fault Unit)) := do
  let w ← get
  match w.client.channel.readiness with
  | none => pure []
  | some readiness => do
    set { w with waits := [] }
    closeIfUnheld actor
    pure (w.waits.map fun index => (index, readiness))

def pollFutures : List (Nat × Held) → Scene (List (Nat × Result))
  | [] => pure []
  | (index, held) :: rest => do
    if held.live then
      match ← pollHeld held with
      | some result => do
        let _ ← dropHeld index
        let settled ← pollFutures rest
        pure ((index, result) :: settled)
      | none => pollFutures rest
    else pollFutures rest

def beginStep : Scene Unit :=
  modify fun w => { w with log := [], readings := [] }

def endStep (result : Result) (ready : List (Nat × Except Fault Unit) := [])
    (settled : List (Nat × Result) := []) : Scene StepAnswer := do
  let w ← get
  pure {
    result, ready, settled
    log := w.log.reverse
    readings := w.readings.reverse
    snapshot := w.snapshot
    time := w.now }

def takeStep (step : Step) : Scene StepAnswer := do
  beginStep
  let result ← match step with
    | .advance duration => do
      let w ← get
      passTime (w.now + duration) patience
      pure .nothing
    | step => actor none step
  runTask actor patience
  let w ← get
  let futures := if w.cast = .client then w.futures else []
  let settled ← pollFutures (futures.zipIdx.map fun (held, index) => (index, held))
  let ready ← pollWaits
  endStep result ready settled

/-- Registers the rehearsal's own listeners, one for each event. They have the first numbers of the
script. -/
def World.observed (w : World) : World :=
  Event.names.foldl
    (fun w event =>
      let (id, client) := w.client.listen event .rehearsal
      { w with client, listeners := w.listeners ++ [id] })
    w

/-- Rehearses a bare correlator, or a bare channel, which is not started. -/
def perform (w : World) (steps : List Step) : List StepAnswer :=
  ((steps.mapM takeStep).run w.observed).1

/-- A client's session, and the name under which its instruments were created, if they were. -/
structure ClientSession where
  scope : Option String
  steps : List StepAnswer

/-- The script gets its handle once the client is there, and, if it waits for that, open. A client
that does not open is given up, and only the script's clock goes on. -/
def playClient (connect : Bool) (steps : List Step) : Scene (List StepAnswer) := do
  let built : Except Fault Unit ← if connect then awaitOpen patience else pure (.ok ())
  match built with
  | .ok () => modify fun w => { w with handles := [true] }.observed
  | .error _ => pure ()
  let first ← endStep (.ofUnit built)
  let rest ← steps.mapM takeStep
  pure (first :: rest)

/-- Builds a client, waits for it to open if asked to, and rehearses it. -/
def performClient (settings : Client.Settings Strategy) (installed : Installation)
    (connector : Connector) (hooks : List Hook) (connect : Bool) (steps : List Step) :
    ClientSession × Installation :=
  let strategy := match settings.chosenStrategy with
    | .inl strategy => { delays := .strategy strategy, logged := false }
    | .inr strategy => strategy
  let w : World := { cast := .client, connector, hooks, strategy }
  match settings.build installed with
  | (.ok (client, scope), installed) =>
    let play := playClient connect steps
    ({ scope, steps := (play.run { w with client }).1 }, installed)
  | (.error fault, installed) =>
    let play : Scene (List StepAnswer) := do
      let first ← endStep (.failed fault)
      let rest ← steps.mapM takeStep
      pure (first :: rest)
    ({ scope := none, steps := (play.run w).1 }, installed)

end DuplexRpc.Rehearsal
