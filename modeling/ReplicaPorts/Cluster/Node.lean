import ReplicaPorts.Cluster.Object

/-!
# Nodes

A machine of the cluster. Of what it asks for and tells, only the name that its provider gave it
matters; the rest has to be in form.
-/

set_option autoImplicit false

namespace ReplicaPorts.Cluster

open Json

/-- A machine of the cluster. -/
structure Node where
  metadata : Metadata := {}
  providerId : Option String := none
  deriving DecidableEq

namespace Node

/-- Where the settings of a machine come from. -/
def configSource : Form :=
  Form.record [
    ("configMap", Form.record <|
      Form.texts ["kubeletConfigKey", "name", "namespace", "resourceVersion", "uid"])]

def taint : Form :=
  Form.record (Form.texts ["effect", "key", "value"] ++ [("timeAdded", Form.timestamp)])

def spec : Form :=
  Form.record <|
    Form.texts ["externalID", "podCIDR", "providerID"] ++
    [("configSource", configSource),
      ("podCIDRs", Form.list Form.text),
      ("taints", Form.list taint),
      ("unschedulable", Form.bool)]

def system : Form :=
  Form.record <| Form.texts ["architecture", "bootID", "containerRuntimeVersion", "kernelVersion",
    "kubeProxyVersion", "kubeletVersion", "machineID", "operatingSystem", "osImage", "systemUUID"]

def runtimeHandler : Form :=
  Form.record [
    ("features", Form.record [("recursiveReadOnlyMounts", Form.bool)]),
    ("name", Form.text)]

def status : Form :=
  Form.record <|
    Form.each (Form.keyed Form.text) ["allocatable", "capacity"] ++
    [("addresses", Form.list (Form.record (Form.texts ["address", "type"]))),
      ("conditions", Form.list (Form.condition ["lastHeartbeatTime", "lastTransitionTime"])),
      ("config", Form.record <|
        Form.each configSource ["active", "assigned", "lastKnownGood"] ++ [("error", Form.text)]),
      ("daemonEndpoints", Form.record
        [("kubeletEndpoint", Form.record [("Port", Form.int32)])]),
      ("images", Form.list <| Form.record
        [("names", Form.list Form.text), ("sizeBytes", Form.int64)]),
      ("nodeInfo", system),
      ("phase", Form.text),
      ("runtimeHandlers", Form.list runtimeHandler),
      ("volumesAttached", Form.list (Form.record (Form.texts ["devicePath", "name"]))),
      ("volumesInUse", Form.list Form.text)]

def ofJson? (j : Json) : Option Node := do
  let j ← object? j
  let spec ← nullable? "spec" (Form.check? spec) j
  let _ ← nullable? "status" (Form.check? status) j
  return {
    metadata := ← Metadata.ofObject? j
    providerId := ← nullable? "providerID" text? (spec.getD .null) }

end Node

end ReplicaPorts.Cluster
