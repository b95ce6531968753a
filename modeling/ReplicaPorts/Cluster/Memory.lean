import ReplicaPorts.Cluster.Call

/-!
# A cluster in memory

Workloads, pods, nodes and services, the calls that came, and the calls that are told to fail.
`Memory.note` lists a call and `Memory.perform` carries it out; `Memory.answer` does both.
-/

set_option autoImplicit false

namespace ReplicaPorts.Cluster

/-- A cluster in memory. -/
structure Memory where
  statefulSets : Keyed ObjectKey StatefulSet := ∅
  /-- The pods, in the order in which they came. -/
  pods : List Pod := []
  nodes : Keyed String Node := ∅
  services : Keyed ObjectKey Service := ∅
  /-- The calls that fail, by one of their names. -/
  failures : List String := []
  calls : List Call := []

namespace Memory

/-- The key of an object: what its metadata does not name is empty. -/
def keyOf (m : Metadata) : ObjectKey := ⟨m.space.getD "", m.name.getD ""⟩

/-- Puts a workload in, in place of one with its key. -/
def putStatefulSet (m : Memory) (s : StatefulSet) : Memory :=
  { m with statefulSets := m.statefulSets.insert (keyOf s.metadata) s }

/-- Puts a pod in, behind the others. -/
def putPod (m : Memory) (p : Pod) : Memory := { m with pods := m.pods ++ [p] }

def dropPod (m : Memory) (name : String) : Memory :=
  { m with pods := m.pods.filter fun p => p.metadata.name != some name }

/-- Puts a node in, in place of one with its name. -/
def putNode (m : Memory) (n : Node) : Memory :=
  { m with nodes := m.nodes.insert (n.metadata.name.getD "") n }

def serviceKey (space : String) (s : Service) : ObjectKey := ⟨space, s.metadata.name.getD ""⟩

/-- Puts a service into a namespace, in place of one with its name. -/
def putService (m : Memory) (space : String) (s : Service) : Memory :=
  { m with services := m.services.insert (serviceKey space s) s }

/-- Whether a pod lies in a namespace and has some labels. -/
def selects (space : String) (labels : Labels) (p : Pod) : Bool :=
  p.metadata.space == some space && labels.toList.all fun e => p.metadata.label? e.1 == some e.2

/-- Changes the finalizers of a workload that exists. -/
def editFinalizers (m : Memory) (key : ObjectKey) (edit : List String → List String) :
    Except Error Unit × Memory :=
  match m.statefulSets.get? key with
  | none => (.error (.noStatefulSet key), m)
  | some s =>
    let metadata := { s.metadata with finalizers := some (edit (s.metadata.finalizers.getD [])) }
    (.ok (), { m with statefulSets := m.statefulSets.insert key { s with metadata } })

def perform : (c : Call) → Memory → c.Answer × Memory
  | .getStatefulSet key, m => (.ok (m.statefulSets.get? key), m)
  | .listPods space labels, m => (.ok (m.pods.filter (selects space labels)), m)
  | .getNode name, m =>
    (match m.nodes.get? name with
      | some n => .ok n
      | none => .error (.noNode name), m)
  | .getService key, m => (.ok (m.services.get? key), m)
  | .createService space s, m =>
    if m.services.contains (serviceKey space s) then
      (.error (.serviceExists (serviceKey space s)), m)
    else
      let stored := { s with metadata := { s.metadata with resourceVersion := some "1" } }
      (.ok (), m.putService space stored)
  | .updateService space s, m => (.ok (), m.putService space s)
  | .deleteService key, m => (.ok (), { m with services := m.services.erase key })
  | .addFinalizer key finalizer, m => m.editFinalizers key (withFinalizer finalizer)
  | .removeFinalizer key finalizer, m => m.editFinalizers key (withoutFinalizer finalizer)

def note (m : Memory) (c : Call) : Memory := { m with calls := m.calls ++ [c] }

def fails (m : Memory) (c : Call) : Bool := c.selectors.any (m.failures.contains ·)

/-- Fails a call if told so, and carries it out otherwise. -/
def settle (c : Call) (m : Memory) : c.Answer × Memory :=
  if m.fails c then (.error (.injected c.method), m) else perform c m

def answer : Handler Cluster.calls Memory := fun c m => settle c (m.note c)

end Memory

end ReplicaPorts.Cluster
