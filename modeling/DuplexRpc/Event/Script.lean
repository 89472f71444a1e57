import DuplexRpc.Event.Basic
import DuplexRpc.Event.Registry

/-!
Listeners that are scripts. A script may register and remove listeners, emit, and panic, on any
of several emitters; handles to one emitter share its registry. What a listener does may be
different on every call, and it goes on by what came of its actions so far. An emission calls the
listeners that were there when it began, each once and in order, whatever they do meanwhile, and a
panic ends only the listener that panics. Emissions nest up to a given depth; beyond it listeners
are called but their scripts do not run.
-/

namespace DuplexRpc.Script

inductive Outcome where
  | emitter (index : Nat)
  | listener (number : Nat)
  | removed (was : Bool)
  | invoked (count : Nat)
  | counted (count : Nat)
  | panicked
  deriving DecidableEq, Repr

/-- A call of a listener. No two calls have the same number. -/
structure Call where
  event : Event
  number : Nat
  deriving Repr

mutual

inductive Action where
  | newEmitter
  | cloneEmitter (emitter : Nat)
  | on (emitter : Nat) (event : String) (listener : Call → Body)
  /-- Without a number, the listener that is running. -/
  | off (emitter : Nat) (listener : Option Nat)
  | emit (emitter : Nat) (event : Event)
  | count (emitter : Nat) (event : String)
  | panic

/-- What is done on one call. -/
inductive Body where
  | done
  | act (action : Action) (next : Outcome → Body)

end

def Action.name : Action → String
  | .newEmitter => "new"
  | .cloneEmitter _ => "clone"
  | .on .. => "on"
  | .off .. => "off"
  | .emit .. => "emit"
  | .count .. => "count"
  | .panic => "panic"

/-- The actions one after the other, whatever comes of them. -/
def Body.ofList : List Action → Body
  | [] => .done
  | action :: rest => .act action fun _ => ofList rest

/-- A scripted listener, under the number that scripts call it by. -/
structure Program where
  number : Nat
  body : Call → Body

inductive Entry where
  | heard (event : Event) (listener depth : Nat)
  | did (listener : Nat) (action : Action) (outcome : Outcome)
  | panicked (listener : Nat)

structure Stage where
  registries : List (Registry Program) := [{}]
  handles : List Nat := [0]
  /-- The id behind each listener's number. -/
  issued : List ListenerId := []
  calls : Nat := 0
  log : List Entry := []

namespace Stage

def registryIndex (s : Stage) (emitter : Nat) : Nat := s.handles.getD emitter 0

def registry (s : Stage) (emitter : Nat) : Registry Program :=
  s.registries.getD (s.registryIndex emitter) {}

def setRegistry (s : Stage) (emitter : Nat) (r : Registry Program) : Stage :=
  { s with registries := s.registries.set (s.registryIndex emitter) r }

def note (s : Stage) (entry : Entry) : Stage := { s with log := entry :: s.log }

/-- A listener is called. -/
def hear (s : Stage) (event : Event) (listener depth : Nat) : Stage :=
  { s.note (.heard event listener depth) with calls := s.calls + 1 }

def runBody (perform : Program → Action → Stage → Outcome × Stage) (program : Program) :
    Body → Stage → Stage
  | .done, s => s
  | .act .panic _, s => s.note (.panicked program.number)
  | .act action next, s =>
    let (outcome, s) := perform program action s
    runBody perform program (next outcome) (s.note (.did program.number action outcome))

def callAll (run : Program → Stage → Stage) (event : Event) (depth : Nat) :
    List (Listener Program) → Stage → Stage
  | [], s => s
  | target :: rest, s =>
    let s := s.hear event target.action.number depth
    callAll run event depth rest (run target.action s)

def perform : (remaining : Nat) → (depth : Nat) → Option Program → Action → Stage →
    Outcome × Stage
  | _, _, _, .newEmitter, s =>
    (.emitter s.handles.length,
      { s with
        registries := s.registries ++ [{}]
        handles := s.handles ++ [s.registries.length] })
  | _, _, _, .cloneEmitter emitter, s =>
    (.emitter s.handles.length, { s with handles := s.handles ++ [s.registryIndex emitter] })
  | _, _, _, .on emitter event listener, s =>
    let number := s.issued.length
    let (id, r) := (s.registry emitter).on event ⟨number, listener⟩
    (.listener number, { s.setRegistry emitter r with issued := s.issued ++ [id] })
  | _, _, running, .off emitter listener, s =>
    match (listener.or (running.map (·.number))).bind (s.issued[·]?) with
    | none => (.removed false, s)
    | some id =>
      let (was, r) := (s.registry emitter).off id
      (.removed was, s.setRegistry emitter r)
  | _, _, _, .count emitter event, s => (.counted ((s.registry emitter).count event), s)
  | _, _, _, .panic, s => (.panicked, s)
  | 0, depth, _, .emit emitter event, s =>
    let targets := (s.registry emitter).targets event.name
    (.invoked targets.length, callAll (fun _ s => s) event depth targets s)
  | remaining + 1, depth, _, .emit emitter event, s =>
    let targets := (s.registry emitter).targets event.name
    let run (program : Program) (s : Stage) : Stage :=
      runBody (fun program => perform remaining (depth + 1) (some program)) program
        (program.body ⟨event, s.calls⟩) s
    (.invoked targets.length, callAll run event depth targets s)

end Stage

/-- Scripts run at this many levels. -/
def maxDepth : Nat := 3

def run : List Action → Stage → List (Outcome × List Entry)
  | [], _ => []
  | action :: rest, s =>
    let (outcome, s) := s.perform maxDepth 0 none action
    (outcome, s.log.reverse) :: run rest { s with log := [] }

end DuplexRpc.Script
