import ReplicaPorts.Pass.Basic
import ReplicaPorts.Replica.Machine
import ReplicaPorts.Replica.Order

/-!
# The machines of the replicas

The nodes of the replicas are looked up in the order of the replicas, and each has to name its
machine. The first lookup that fails, or finds a node that does not name its machine, ends the work.
While one answer is awaited the lookups of some of the next replicas may be under way.
-/

set_option autoImplicit false

namespace ReplicaPorts.Pass

open Cluster

/-- The path of the machine that a provider ID names; a node without one has an empty one. -/
def machineOf (node : String) (providerId : Option String) : Except Error String :=
  let value := providerId.getD ""
  match Replica.machinePath? value with
  | some path => .ok path
  | none => .error (.providerId node value)

/-- The paths of the machines of some nodes, in order, with at most so many lookups under way at a
time, and at least one. -/
def machinesOf (lookups : Nat) : List String → Pass (List String)
  | [] => return []
  | name :: names => do
    let found ← node name (names.take (lookups - 1))
    let path ← ofExcept id (machineOf name found.providerId)
    return path :: (← machinesOf lookups names)

/-- The paths of the machines of the replicas that labels select in a namespace. -/
def replicaMachines (lookups : Nat) (space : String) (selector : Labels) :
    Pass (List String) := do
  let pods ← cluster (.listPods space selector)
  machinesOf lookups ((Replica.ofPods pods).map (·.node))

end ReplicaPorts.Pass
