import DuplexRpc.Telemetry.Instruments

/-!
# What instruments show

Instruments are read off everything that was recorded on them.  Every reading on a counter is a
one, so a counter shows how many readings are on it, and under each attributes how many have those.
-/

namespace DuplexRpc.Telemetry

open DuplexRpc.Channel

/-- The readings on an instrument. -/
def on (i : Instrument) (readings : List Reading) : List Reading :=
  readings.filter (·.instrument = i)

def values (i : Instrument) (readings : List Reading) : List String :=
  (on i readings).filterMap (·.value?)

def labels (i : Instrument) (readings : List Reading) : List (List (String × String)) :=
  (on i readings).map (·.attributes)

def total (counter : Instrument) (readings : List Reading) : Nat := (on counter readings).length

def totalWith (counter : Instrument) (attributes : List (String × String))
    (readings : List Reading) : Nat :=
  (labels counter readings).count attributes

variable {i : Instrument} {readings : List Reading}

@[simp] theorem on_nil : on i [] = [] := rfl

@[simp] theorem on_append (later : List Reading) :
    on i (readings ++ later) = on i readings ++ on i later :=
  List.filter_append readings later

@[simp] theorem on_cons (r : Reading) :
    on i (r :: readings) = (if r.instrument = i then [r] else []) ++ on i readings := by
  by_cases own : r.instrument = i <;> simp [on, own]

@[simp] theorem total_nil : total i [] = 0 := rfl

@[simp] theorem total_cons (r : Reading) :
    total i (r :: readings) = total i readings + if r.instrument = i then 1 else 0 := by
  by_cases own : r.instrument = i <;> simp [total, own]

@[simp] theorem total_append (later : List Reading) :
    total i (readings ++ later) = total i readings + total i later := by
  simp [total]

@[simp] theorem labels_nil : labels i [] = [] := rfl

@[simp] theorem labels_cons (r : Reading) :
    labels i (r :: readings) =
      (if r.instrument = i then [r.attributes] else []) ++ labels i readings := by
  by_cases own : r.instrument = i <;> simp [labels, own]

@[simp] theorem labels_append (later : List Reading) :
    labels i (readings ++ later) = labels i readings ++ labels i later := by
  simp [labels]

@[simp] theorem totalWith_append {attributes : List (String × String)} (later : List Reading) :
    totalWith i attributes (readings ++ later) =
      totalWith i attributes readings + totalWith i attributes later := by
  simp [totalWith]

@[simp] theorem values_cons (r : Reading) :
    values i (r :: readings) =
      (if r.instrument = i then r.value?.toList else []) ++ values i readings := by
  by_cases own : r.instrument = i
  · cases given : r.value? <;> simp [values, own, given]
  · simp [values, own]

/-! ## States -/

def Reading.state? : Reading → Option Lifecycle
  | .state s => some s
  | _ => none

/-- The states that were recorded. -/
def states (readings : List Reading) : List Lifecycle := readings.filterMap Reading.state?

@[simp] theorem states_nil : states [] = [] := rfl

@[simp] theorem states_cons (r : Reading) :
    states (r :: readings) = r.state?.toList ++ states readings := by
  cases given : r.state? <;> simp [states, given]

@[simp] theorem states_append (later : List Reading) :
    states (readings ++ later) = states readings ++ states later :=
  List.filterMap_append

theorem values_states (readings : List Reading) :
    values .connectionState readings = (states readings).map fun s => toString s.code := by
  induction readings with
  | nil => rfl
  | cons r readings ih =>
      rw [values_cons, states_cons, List.map_append, ← ih]
      cases r <;> simp [Reading.instrument, Reading.value?, Reading.state?]

end DuplexRpc.Telemetry
