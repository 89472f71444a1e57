import DuplexRpc.Rehearsal.World

/-!
Taking one step of a script. A step may emit events, whose listeners take the steps of their
hooks, which may emit in turn; an `Actor` is what takes the steps one level down, so that the
nesting has a bound.
-/

namespace DuplexRpc.Rehearsal

open DuplexRpc.Json DuplexRpc.Wire

abbrev Actor := Option Id → Step → Scene Result

/-- Takes steps in turn and logs each; says whether a panic cut them short. -/
def takeAll (act : Actor) (request : Option Id) : List Step → Scene Bool
  | [] => pure false
  | .panic :: _ => do
    note (.hook Step.panic.name none)
    pure true
  | step :: rest => do
    let result ← act request step
    note (.hook step.name (some result))
    takeAll act request rest

private def takeHooks (act : Actor) (request : Option Id) : List Hook → Scene Bool
  | [] => pure false
  | hook :: rest => do
    if ← takeAll act request hook.steps then pure true
    else takeHooks act request rest

def runHooks (act : Actor) (event : String) (request : Option Id) : Scene Bool := do
  modify fun w => { w with heard := event :: w.heard }
  let w ← get
  let occurrence := w.heard.count event
  takeHooks act request
    (w.hooks.filter fun h => h.event = event && (h.nth.getD occurrence == occurrence))

def react (act : Actor) (event : Event) : Reaction Observer → Scene Unit
  | .rejectOutstanding fault => modify fun w => { w with client := w.client.failAll fault }
  | .observe (.scripted index) => note (.listener index event.name)
  | .observe .rehearsal => do
    note (.heard event (← get).snapshot)
    let request := match event with
      | .request r => some r.id
      | _ => none
    let _ ← runHooks act event.name request

def emit (act : Actor) (event : Event) : Scene Unit := do
  for target in (← get).client.listeners.targets event.name do
    react act event target.action

def closeChannel (act : Actor) : Scene Unit := do
  if ← onClient Client.shut then emit act .close

def handleText (act : Actor) (text : String) : Scene Unit := do
  let (message, correlator, readings) := (← get).client.correlator.receive text
  setCorrelator correlator
  record readings
  if let some m := message then
    if let some (event, readings) := Correlator.announcement? m then
      record readings
      emit act event
    onCorrelator (·.settle m)

/-- Hands a message to the sink of a bare correlator, which shows it, has its reply handled, and
then may refuse it as it is set by then. -/
def dispatch (act : Actor) (m : OutboundMessage) : Scene (Except Fault Unit) := do
  note (.sent m)
  if let some reply := (← get).sinkReply then handleText act reply
  pure (match (← get).sinkRefusal with
    | some fault => .error fault
    | none => .ok ())

def hold (id : RequestId) (result : Option ResultType) : Scene Nat := do
  let index := (← get).futures.length
  modify fun w => { w with futures := w.futures ++ [{ id, result }] }
  pure index

def placeCall (act : Actor) (method : String) (params : Option Value) (timeout : Option Time) :
    Scene RequestId := do
  let w ← get
  let id ← match w.cast with
    | .client => onClient fun c => c.call method params w.now
    | _ => do
      let (id, correlator) := w.client.correlator.register method
      setCorrelator correlator
      if let .error fault ← dispatch act (Correlator.requestMessage id method params) then
        onCorrelator (·.refuse id fault)
      pure id
  if let some timeout := timeout then
    onCorrelator fun c => (c.limit id (w.now + timeout), [])
  pure id

def notifyPeer (act : Actor) (method : String) (params : Option Value) :
    Scene (Except Fault Unit) := do
  match (← get).cast with
  | .client => onClient (·.notify method (params.getD .null))
  | _ => dispatch act (Correlator.notificationMessage method params)

def answerPeer (act : Actor) (r : Response) : Scene (Except Fault Unit) := do
  match (← get).cast with
  | .client => onClient (·.answer r)
  | _ =>
    match Correlator.answerMessage r with
    | .error fault => pure (.error fault)
    | .ok m => dispatch act m

def closeIfUnheld (act : Actor) : Scene Unit := do
  let w ← get
  if w.cast = .client && !w.isPresent && w.waits.isEmpty then closeChannel act

def onLink (index : Nat) (f : Link → Result × Link) : Scene Result := do
  match (← get).links[index]? with
  | none => pure .noLink
  | some link => do
    let (result, link) := f link
    updateLink index fun _ => link
    pure result

/-- A peer can send while neither side has ended the link. -/
def peerItem (index : Nat) (item : InboundItem) : Scene Result :=
  onLink index fun l =>
    if l.alive && l.held then (.truth true, { l with inbound := l.inbound ++ [item] })
    else (.truth false, l)

def ofOutcome (result : ResultType) (outcome : CallOutcome) : Result :=
  match result.read outcome with
  | .ok a => .value (result.toValue a)
  | .error fault => .failed fault

/-- Asks a future of the script once; nothing while it is pending. -/
def pollHeld (held : Held) : Scene (Option Result) := do
  let w ← get
  let (poll, correlator) := w.client.correlator.poll held.id w.now
  setCorrelator correlator
  pure (match poll with
    | .pending => none
    | .ready outcome => some (ofOutcome (held.result.getD .value) outcome))

def dropHeld (index : Nat) : Scene Result := do
  match (← get).futures[index]? with
  | some { id, live := true, .. } => do
    modify fun w =>
      { w with
        futures := w.futures.modify index fun h => { h with live := false }
        client := { w.client with correlator := w.client.correlator.drop id } }
    pure (.truth true)
  | _ => pure (.truth false)

def needing (handle : Nat) (scene : Scene Result) : Scene Result := do
  if (← get).holds handle then scene else pure .gone

def takeWith (act : Actor) (request : Option Id) : Step → Scene Result
  | .nop => pure .nothing
  | .advance _ => pure .nothing
  | .panic => pure .nothing
  | .batch steps => do
    let results ← steps.mapM (act request)
    pure (.several results)
  | .start strategy => do
    let (started, channel) := (← get).client.channel.start
    setChannel channel
    if let (.ok (), some (delays, steps)) := (started, strategy) then
      modify fun w => { w with strategy := { delays, steps } }
    pure (.ofUnit started)
  | .send payload => do
    let (sent, channel, readings) := (← get).client.channel.send payload
    setChannel channel
    record readings
    pure (.ofUnit sent)
  | .close handle => needing handle do
    closeChannel act
    pure .nothing
  | .ready handle => needing handle do
    let index := (← get).waitsBegun
    modify fun w => { w with waits := w.waits ++ [index], waitsBegun := index + 1 }
    pure (.ready index)
  | .peerSend link payload => peerItem link (.payload payload)
  | .peerError link message => peerItem link (.error message)
  | .peerDrop link => onLink link fun l => (.truth l.alive, { l with alive := false })
  | .linkSink link settings => onLink link fun l => (.done, { l with sink := settings })
  | .call handle method params timeout => needing handle do
    let id ← placeCall act method params timeout
    let index ← hold id none
    pure (.future index (some id))
  | .request handle method params result timeout => needing handle do
    let id ← placeCall act method params.nonNull? timeout
    let index ← hold id (some result)
    pure (.future index none)
  | .notify handle method params => needing handle do
    let sent ← notifyPeer act method params
    pure (.ofUnit sent)
  | .respond handle id result => needing handle do
    let sent ← answerPeer act (.success ((id.or request).getD .null) result)
    pure (.ofUnit sent)
  | .respondError handle id error => needing handle do
    let sent ← answerPeer act (.failure ((id.or request).getD .null) error)
    pure (.ofUnit sent)
  | .inbound text => needing 0 do
    handleText act text
    pure .nothing
  | .poll index => do
    match (← get).futures[index]? with
    | some held =>
      if held.live then do
        let result ← pollHeld held
        pure (result.getD .pending)
      else pure .dropped
    | none => pure .dropped
  | .drop index => dropHeld index
  | .timeout index duration => do
    match (← get).futures[index]? with
    | some { id, result := none, live := true } => do
      let deadline := (← get).now + duration
      onCorrelator fun c => (c.limit id deadline, [])
      pure .done
    | _ => pure .notApplicable
  | .failAll fault => needing 0 do
    let (count, correlator) := (← get).client.correlator.failAll fault
    setCorrelator correlator
    pure (.count count)
  | .sink reply refusal => do
    modify fun w => { w with sinkReply := reply, sinkRefusal := refusal }
    pure .done
  | .dropCorrelator => do
    modify fun w => { w with correlatorDropped := true }
    pure .done
  | .clone handle => needing handle do
    let index := (← get).handles.length
    modify fun w => { w with handles := w.handles ++ [true] }
    pure (.handle index)
  | .dropHandle handle => needing handle do
    modify fun w => { w with handles := w.handles.set handle false }
    closeIfUnheld act
    pure .done
  | .on handle event => needing handle do
    let w ← get
    let index := w.listeners.length
    let (id, client) := w.client.listen event (.scripted index)
    set { w with client, listeners := w.listeners ++ [id] }
    pure (.listener index)
  | .off handle index => needing handle do
    let w ← get
    match w.listeners[index]? with
    | none => pure (.truth false)
    | some id => do
      let (was, client) := w.client.off id
      set { w with client }
      pure (.truth was)

/-- Takes a step within which hooks nest at most this deep. -/
def take : Nat → Actor
  | 0 => takeWith fun _ _ => pure .nothing
  | levels + 1 => takeWith (take levels)

end DuplexRpc.Rehearsal
