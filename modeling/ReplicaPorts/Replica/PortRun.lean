import ReplicaPorts.Compute.Model
import ReplicaPorts.Payload.Basic
import ReplicaPorts.Text.Quoted

/-!
# Port runs and mappings

A named port takes one external port for each replica, in a run from its starting port. The runs of
one workload must end within the range of ports and must not meet; then `mappings` says for each
replica and each named port which external port leads to which port of which machine.
-/

set_option autoImplicit false

namespace ReplicaPorts

open Compute

/-- The external ports of one named port. -/
structure PortRun where
  first : Int32
  last : Int32
  name : String
  deriving DecidableEq, Repr

namespace PortRun

def maxPort : Int32 := 65535

/-- Why there are no mappings. -/
inductive Fault where
  | tooManyReplicas (count : Nat)
  | pastMax (run : PortRun) (replicas : Nat)
  | overlap (before after : String) (port : Int32) (replicas : Nat)
  deriving DecidableEq, Repr

def Fault.message : Fault → String
  | tooManyReplicas count => s!"{count} replicas"
  | pastMax run replicas =>
    s!"node_ports[{Text.quoted run.name}] needs ports {run.first.toInt}-{run.last.toInt} "
      ++ s!"for {replicas} replica(s), past {maxPort.toInt}"
  | overlap before after port replicas =>
    s!"node_ports[{Text.quoted before}] and node_ports[{Text.quoted after}] "
      ++ s!"overlap at port {port.toInt} with {replicas} replica(s)"

/-- The run of a named port for a number of replicas. -/
def of (replicas : Nat) (name : String) (e : PortEntry) : PortRun :=
  ⟨e.startingPort, e.startingPort + Int32.ofNat replicas - 1, name⟩

/-- Whether a run comes no later than another: by its first port, its last port and its name. -/
def le (a b : PortRun) : Bool :=
  ((compare a.first b.first).then ((compare a.last b.last).then (compare a.name b.name))).isLE

def all (ports : Keyed String PortEntry) (replicas : Nat) : List PortRun :=
  (ports.toList.map fun (name, e) => of replicas name e).mergeSort le

/-- The first place where a run starts within the one before it. -/
def overlap? (replicas : Nat) : List PortRun → Option Fault
  | a :: b :: runs =>
    if b.first ≤ a.last then some (.overlap a.name b.name b.first replicas)
    else overlap? replicas (b :: runs)
  | _ => none

/-- What is wrong with the runs for a number of replicas. -/
def fault? (ports : Keyed String PortEntry) (replicas : Nat) : Option Fault :=
  let runs := all ports replicas
  match runs.find? fun run => maxPort < run.last with
  | some run => some (.pastMax run replicas)
  | none => overlap? replicas runs

def mappingsOf (ports : Keyed String PortEntry) (path : String) (offset : Nat) :
    List PortMapping :=
  ports.values.map fun e => ⟨e.startingPort + Int32.ofNat offset, path, e.nodePort⟩

/-- The mappings of all replicas, given the paths of their machines in order. -/
def mappings (ports : Keyed String PortEntry) (paths : List String) :
    Except Fault (List PortMapping) :=
  if Int32.maxValue.toInt < paths.length then .error (.tooManyReplicas paths.length)
  else
    match if paths.isEmpty then none else fault? ports paths.length with
    | some fault => .error fault
    | none => .ok (paths.zipIdx.flatMap fun (path, i) => mappingsOf ports path i)

end PortRun

/-! ## Differences -/

namespace PortMapping

/-- The mappings of a list that do not occur in another, in order. -/
def without (these those : List PortMapping) : List PortMapping :=
  these.filter (· ∉ those)

def surplus (desired actual : List PortMapping) : List PortMapping :=
  without actual desired

def lacking (desired actual : List PortMapping) : List PortMapping :=
  without desired actual

end PortMapping

end ReplicaPorts
