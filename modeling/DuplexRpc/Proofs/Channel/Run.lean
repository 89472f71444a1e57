import DuplexRpc.Channel.Connection
import DuplexRpc.Proofs.Replay

/-!
# Runs of a channel

A run is any sequence of moves: its owners and its listeners send, start and close, the connection
task moves on its own, and its surroundings answer it.  Between two moves of the task anyone may
act.  In fact the task goes on undisturbed until it waits or until a listener acts, so every
actual run is among these.

A run shows what each send and each start gave, which points the task came to, which events began
to be dispatched, and what was recorded.
-/

namespace DuplexRpc.Channel

open DuplexRpc.Telemetry

inductive Move where
  | send (payload : String)
  | start
  | close
  | proceed
  | answer (a : Answer)

inductive Occurrence where
  | sent (payload : String) (result : Except Fault Unit)
  | started (result : Except Fault Unit)
  /-- The connection task came to this point. -/
  | entered (task : Task)
  /-- The dispatch of an event began. -/
  | announced (event : Event)
  | recorded (reading : Reading)

/-- What the task shows when it comes to a point. -/
def arrival (c : Channel) (readings : List Reading) : List Occurrence :=
  readings.map .recorded ++ .entered c.task :: c.announcement?.toList.map .announced

def advance (c : Channel) : Option (Channel × List Reading) → Channel × List Occurrence
  | none => (c, [])
  | some (moved, readings) => (moved, moved.arrival readings)

def step (c : Channel) : Move → Channel × List Occurrence
  | .send payload =>
      let (result, c, readings) := c.send payload
      (c, .sent payload result :: readings.map .recorded)
  | .start =>
      let (result, c) := c.start
      (c, [.started result])
  | .close =>
      let (first, c, readings) := c.shut
      (c, readings.map .recorded ++ if first then [.announced .close] else [])
  | .proceed => c.advance c.proceed
  | .answer a => c.advance (c.answer? a)

def run : Channel → List Move → Channel × List Occurrence := replay step

/-! ## Readings of a run -/

def Occurrence.accepted? : Occurrence → Option String
  | .sent payload (.ok ()) => some payload
  | _ => none

def Occurrence.taken? : Occurrence → Option String
  | .entered (.writing payload) => some payload
  | _ => none

def Occurrence.announced? : Occurrence → Option Event
  | .announced event => some event
  | _ => none

def Occurrence.recorded? : Occurrence → Option Reading
  | .recorded reading => some reading
  | _ => none

def Occurrence.closes : Occurrence → Bool
  | .announced .close => true
  | _ => false

def accepted (seen : List Occurrence) : List String := seen.filterMap Occurrence.accepted?

/-- The payloads that were taken off a link's queue for writing. -/
def taken (seen : List Occurrence) : List String := seen.filterMap Occurrence.taken?

def recorded (seen : List Occurrence) : List Reading := seen.filterMap Occurrence.recorded?

def closings (seen : List Occurrence) : Nat := seen.countP Occurrence.closes

@[simp] theorem accepted_nil : accepted [] = [] := rfl

@[simp] theorem taken_nil : taken [] = [] := rfl

@[simp] theorem accepted_cons (shown : Occurrence) (seen : List Occurrence) :
    accepted (shown :: seen) = shown.accepted?.toList ++ accepted seen := by
  cases h : shown.accepted? <;> simp [accepted, h]

@[simp] theorem taken_cons (shown : Occurrence) (seen : List Occurrence) :
    taken (shown :: seen) = shown.taken?.toList ++ taken seen := by
  cases h : shown.taken? <;> simp [taken, h]

@[simp] theorem accepted_append (seen later : List Occurrence) :
    accepted (seen ++ later) = accepted seen ++ accepted later :=
  List.filterMap_append

@[simp] theorem taken_append (seen later : List Occurrence) :
    taken (seen ++ later) = taken seen ++ taken later :=
  List.filterMap_append

@[simp] theorem recorded_nil : recorded [] = [] := rfl

@[simp] theorem recorded_cons (shown : Occurrence) (seen : List Occurrence) :
    recorded (shown :: seen) = shown.recorded?.toList ++ recorded seen := by
  cases h : shown.recorded? <;> simp [recorded, h]

@[simp] theorem recorded_append (seen later : List Occurrence) :
    recorded (seen ++ later) = recorded seen ++ recorded later :=
  List.filterMap_append

@[simp] theorem closings_nil : closings [] = 0 := rfl

@[simp] theorem closings_cons (shown : Occurrence) (seen : List Occurrence) :
    closings (shown :: seen) = closings seen + if shown.closes then 1 else 0 :=
  List.countP_cons

@[simp] theorem closings_append (seen later : List Occurrence) :
    closings (seen ++ later) = closings seen + closings later :=
  List.countP_append

@[simp] theorem entered_mem_arrival (c : Channel) (readings : List Reading) (task : Task) :
    .entered task ∈ c.arrival readings ↔ task = c.task := by
  simp [arrival]

@[simp] theorem accepted_arrival (c : Channel) (readings : List Reading) :
    accepted (c.arrival readings) = [] := by
  simp [arrival, accepted, Occurrence.accepted?]

@[simp] theorem recorded_arrival (c : Channel) (readings : List Reading) :
    recorded (c.arrival readings) = readings := by
  have kept : recorded (readings.map .recorded) = readings := by
    simp [recorded, List.filterMap_map, Function.comp_def, Occurrence.recorded?]
  cases event : c.announcement? <;> simp [arrival, kept, Occurrence.recorded?, event]

/-- The payload that the task took and has not written yet. -/
def Task.holding : Task → List String
  | .writing payload => [payload]
  | _ => []

@[simp] theorem taken_arrival (c : Channel) (readings : List Reading) :
    taken (c.arrival readings) = c.task.holding := by
  cases task : c.task <;>
    simp [arrival, taken, Occurrence.taken?, announcement?, Task.holding, task]

@[simp] theorem closings_arrival (c : Channel) (readings : List Reading) :
    closings (c.arrival readings) = if c.task matches .announcingClose then 1 else 0 := by
  have silent : (readings.map Occurrence.recorded).countP Occurrence.closes = 0 := by
    simp [Occurrence.closes]
  cases task : c.task <;>
    simp [arrival, closings, Occurrence.closes, announcement?, task, silent]

end DuplexRpc.Channel
