import ReplicaPorts.Meter.Basic
import ReplicaPorts.Pass.Clock
import ReplicaPorts.Pass.Event

/-!
# The operator

An operator makes passes in a world, one after the other, each until its deadline, and counts them.
-/

set_option autoImplicit false

namespace ReplicaPorts

/-- What an operator goes by. -/
structure Operator where
  plan : Pass.Plan
  /-- How long a pass may take, in milliseconds. -/
  timeout : Nat := 300000

/-- The world that an operator works in, and what it counted there. -/
structure Operator.State where
  world : Pass.World
  /-- How long calls to the cluster take, by one of their names. -/
  delays : Keyed String Nat := ∅
  meter : Meter := .empty

namespace Operator

/-- A world at the start of a pass. -/
def clock (o : Operator) (s : State) : Pass.Clock where
  world := s.world
  delays := s.delays
  deadline := o.timeout

/-- One pass for an event: its result and what it leaves. The calls that are listed afterwards are
those that were listed before and those of the pass. -/
def pass (o : Operator) (event : Cluster.StatefulSet) (s : State) :
    Except Pass.Error Unit × State :=
  let (value, t) := (Pass.ofEvent o.plan event).run.attempt Pass.Clock.answer (o.clock s)
  let result := value.getD (.error (.timeout o.timeout))
  (result, { s with world := t.world, meter := s.meter.record result t.now })

end Operator

end ReplicaPorts
