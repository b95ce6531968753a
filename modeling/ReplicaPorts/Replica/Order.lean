import ReplicaPorts.Cluster.Pod
import ReplicaPorts.Text.Cut
import ReplicaPorts.Text.Decimal

/-!
# The order of replicas

Replicas come in the order of their ordinals, which a label gives or the end of the name, and within
one ordinal in the order of their names. A replica counts once it was put on a node. The place of a
replica in `Replica.ofPods` is its offset from the first port.
-/

set_option autoImplicit false

namespace ReplicaPorts

/-- A replica that was put on a node. -/
structure Replica where
  /-- The name of the pod; empty if it has none. -/
  pod : String
  node : String
  deriving DecidableEq, Repr

namespace Replica

open Cluster

/-- The label that gives the ordinal of a pod. -/
def indexLabel : String := "apps.kubernetes.io/pod-index"

/-- The ordinal that a text spells: a number of 32 bits. -/
def ordinalIn? (cs : List Char) : Option Nat :=
  match Text.readBounded Text.maxWord32 cs with
  | .ok n => some n
  | .error _ => none

/-- The ordinal of a pod: from its label, or else from what follows the last dash of its name. -/
def ordinal? (p : Pod) : Option Nat :=
  match (p.metadata.label? indexLabel).bind fun v => ordinalIn? v.toList with
  | some n => some n
  | none => p.metadata.name.bind fun name => (Text.afterLast? '-' name.toList).bind ordinalIn?

/-- What pods are ordered by: the ordinal, the greatest one for a pod without, and the name. -/
def orderKey (p : Pod) : Nat × Option String :=
  ((ordinal? p).getD Text.maxWord32, p.metadata.name)

/-- Whether a name comes no later than another; a missing name comes first. -/
def nameLe : Option String → Option String → Bool
  | none, _ => true
  | some _, none => false
  | some a, some b => a ≤ b

/-- Whether a pod comes no later than another. -/
def le (p q : Pod) : Bool :=
  let (i, a) := orderKey p
  let (j, b) := orderKey q
  i < j || (i == j && nameLe a b)

/-- The replica that a pod is, if it was put on a node. -/
def ofPod? (p : Pod) : Option Replica :=
  (p.nodeName.filter (· ≠ "")).map fun node => ⟨p.metadata.name.getD "", node⟩

/-- The replicas that were put on nodes, in order. -/
def ofPods (pods : List Pod) : List Replica := (pods.mergeSort le).filterMap ofPod?

end Replica

end ReplicaPorts
