import ReplicaPorts.Keyed
import ReplicaPorts.Meter.Histogram
import ReplicaPorts.Pass.Error

/-!
# The meter of passes

How many passes succeeded and failed, the failed ones by the step in which they failed, and how long
all of them took.
-/

set_option autoImplicit false

namespace ReplicaPorts

/-- What is known of all passes so far. -/
structure Meter where
  successes : Nat := 0
  errors : Nat := 0
  /-- The passes that failed, by the label of their step. -/
  failures : Keyed String Nat := ∅
  durations : Histogram

namespace Meter

/-- The bounds of durations that are reported. -/
def bounds : List Elapsed := [100, 500, 1000, 5000, 15000, 30000, 60000, 120000, 300000]

def empty : Meter where
  durations := .empty bounds

/-- The label of a failure outside of every step. -/
def otherLabel : String := "other"

/-- The label under which a failure is counted. -/
def failureLabel (step : Option Pass.Step) : String := step.elim otherLabel Pass.Step.label

def success (m : Meter) (t : Elapsed) : Meter :=
  { m with successes := m.successes + 1, durations := m.durations.observe t }

def failure (m : Meter) (step : Option Pass.Step) (t : Elapsed) : Meter :=
  let label := failureLabel step
  { m with
    errors := m.errors + 1
    failures := m.failures.insert label ((m.failures.get? label).getD 0 + 1)
    durations := m.durations.observe t }

def record (m : Meter) (result : Except Pass.Error Unit) (t : Elapsed) : Meter :=
  match result with
  | .ok () => m.success t
  | .error e => m.failure e.step? t

end Meter

end ReplicaPorts
