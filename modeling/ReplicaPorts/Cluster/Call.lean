import ReplicaPorts.Cluster.Node
import ReplicaPorts.Cluster.Service
import ReplicaPorts.Cluster.StatefulSet
import ReplicaPorts.Program

/-!
# Calls to the cluster

What a pass asks of the cluster: to read the workload, its pods and their nodes, to read and write
the exposure service, and to put a finalizer on the workload or take it off.
-/

set_option autoImplicit false

namespace ReplicaPorts.Cluster

/-- Why a call to the cluster failed. -/
inductive Error where
  /-- The server refused, with a code and a reason. -/
  | refused (code : Nat) (reason : String)
  /-- A request could not be made, or an answer could not be read. -/
  | unreadable
  | injected (method : String)
  | noNode (name : String)
  | serviceExists (key : ObjectKey)
  | noStatefulSet (key : ObjectKey)
  | unnamedService
  deriving DecidableEq, Repr

/-- The error in words; the words of the first two depend on the server. -/
def Error.message? : Error → Option String
  | refused _ _ => none
  | unreadable => none
  | injected method => some s!"injected failure in {method}"
  | noNode name => some s!"node {name} not found"
  | serviceExists key => some s!"service {key.space}/{key.name} already exists"
  | noStatefulSet key => some s!"StatefulSet {key.space}/{key.name} not found"
  | unnamedService => some "service has no name"

/-- A call to the cluster. -/
inductive Call where
  | getStatefulSet (key : ObjectKey)
  | listPods (space : String) (labels : Labels)
  | getNode (name : String)
  | getService (key : ObjectKey)
  | createService (space : String) (service : Service)
  | updateService (space : String) (service : Service)
  /-- Deletes a service; a missing one is no error. -/
  | deleteService (key : ObjectKey)
  | addFinalizer (key : ObjectKey) (finalizer : String)
  | removeFinalizer (key : ObjectKey) (finalizer : String)
  deriving DecidableEq

namespace Call

abbrev Value : Call → Type
  | getStatefulSet _ => Option StatefulSet
  | listPods _ _ => List Pod
  | getNode _ => Node
  | getService _ => Option Service
  | _ => Unit

abbrev Answer (c : Call) : Type := Except Error c.Value

def method : Call → String
  | getStatefulSet _ => "get_stateful_set"
  | listPods _ _ => "list_pods"
  | getNode _ => "get_node"
  | getService _ => "get_service"
  | createService _ _ => "create_service"
  | updateService _ _ => "update_service"
  | deleteService _ => "delete_service"
  | addFinalizer _ _ => "add_finalizer"
  | removeFinalizer _ _ => "remove_finalizer"

/-- The names under which a call can be singled out, the most exact one first. -/
def selectors : Call → List String
  | getNode name => [s!"get_node {name}", "get_node"]
  | c => [c.method]

def isWrite : Call → Bool
  | getStatefulSet _ => false
  | listPods _ _ => false
  | getNode _ => false
  | getService _ => false
  | _ => true

end Call

abbrev calls : Signature where
  Op := Call
  Answer := Call.Answer

/-- A label selector in words: `name=value` with commas between. -/
def selectorText (labels : Labels) : String :=
  ",".intercalate (labels.toList.map fun e => s!"{e.1}={e.2}")

/-! ## Finalizers -/

/-- Puts a finalizer at the end of a list that does not hold it. -/
def withFinalizer (finalizer : String) (finalizers : List String) : List String :=
  if finalizer ∈ finalizers then finalizers else finalizers ++ [finalizer]

/-- Takes every occurrence of a finalizer out of a list. -/
def withoutFinalizer (finalizer : String) (finalizers : List String) : List String :=
  finalizers.filter (· ≠ finalizer)

end ReplicaPorts.Cluster
