import ReplicaPorts.Cluster.Call
import ReplicaPorts.Compute.Error
import ReplicaPorts.Payload.Validation
import ReplicaPorts.Replica.PortRun
import ReplicaPorts.Text.Duration

/-!
# Errors of a pass

Why a pass did not succeed. Most errors carry the step in which they came up; the outermost step of
an error is the one by which failed passes are counted.
-/

set_option autoImplicit false

namespace ReplicaPorts.Pass

/-- A step of a pass. -/
inductive Step where
  /-- Putting the finalizer on the workload, or taking it off. -/
  | finalizer
  /-- Reading the payload and laying out its ports. -/
  | payload
  /-- Bringing the exposure service about. -/
  | service
  /-- Finding the machines of the replicas. -/
  | nodes
  /-- Bringing the firewall about, or deleting it. -/
  | firewall
  /-- Bringing the endpoint group about, or deleting it. -/
  | group
  /-- Bringing the backend service about, or deleting it. -/
  | backend
  /-- Attaching and detaching endpoints. -/
  | endpoints
  /-- Bringing the forwarding rule about, or deleting it. -/
  | rule
  /-- Bringing the service attachment about, or deleting it. -/
  | attachment
  deriving DecidableEq, Repr

namespace Step

/-- The step in reports and counters. -/
def label : Step → String
  | finalizer => "finalizer"
  | payload => "spec"
  | service => "exposure_service"
  | nodes => "replica_nodes"
  | firewall => "firewall"
  | group => "endpoint_group"
  | backend => "backend"
  | endpoints => "endpoints"
  | rule => "forwarding_rule"
  | attachment => "service_attachment"

/-- All steps, in the order in which a pass takes them. -/
def all : List Step :=
  [finalizer, payload, service, nodes, firewall, group, backend, endpoints, rule, attachment]

theorem mem_all (s : Step) : s ∈ all := by cases s <;> decide

theorem label_injective {s t : Step} (h : s.label = t.label) : s = t := by
  revert h; cases s <;> cases t <;> decide

/-- The step that a label names. -/
def ofLabel? (label : String) : Option Step := all.find? fun s => s.label == label

end Step

/-- What a workload lacks. -/
inductive Lack where
  /-- A namespace. -/
  | space
  /-- A name. -/
  | name
  /-- Labels by which its pods are selected. -/
  | matchLabels
  deriving DecidableEq, Repr

/-- The lack in words. -/
def Lack.message : Lack → String
  | space => "StatefulSet has no namespace"
  | name => "StatefulSet has no name"
  | matchLabels => "StatefulSet selector has no matchLabels"

/-- Why a pass failed. -/
inductive Error where
  /-- A call to the cluster failed. -/
  | cluster (cause : Cluster.Error)
  /-- A call to the Compute API failed. -/
  | compute (cause : Compute.Error)
  /-- The payload is not accepted. -/
  | payload (cause : Payload.Error)
  /-- A node does not tell its machine in the known form. -/
  | providerId (node value : String)
  /-- The ports of the replicas do not fit. -/
  | ports (fault : PortRun.Fault)
  /-- The workload lacks something. -/
  | workload (lack : Lack)
  /-- An error in a step. -/
  | step (step : Step) (cause : Error)
  /-- The deadline, so many milliseconds after the start, came first. -/
  | timeout (ms : Nat)
  deriving DecidableEq, Repr

namespace Error

/-- The outermost step of an error. -/
def step? : Error → Option Step
  | step s _ => some s
  | _ => none

/-- The error in words, if what lies below it has words. -/
def message? : Error → Option String
  | cluster cause => cause.message?.map fun m => s!"Workload error: {m}"
  | compute cause => cause.message?.map fun m => s!"GCP error: {m}"
  | payload cause => cause.message?
  | providerId node value => some s!"node {node} has an unexpected provider ID {Text.quoted value}"
  | ports fault => some s!"Port mapping error: {fault.message}"
  | workload lack => some s!"Workload error: {lack.message}"
  | step s cause => cause.message?.map fun m => s!"{s.label}: {m}"
  | timeout ms => some s!"reconciliation timed out after {Text.durationText ms}"

end Error

end ReplicaPorts.Pass
