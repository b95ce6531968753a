import ReplicaPorts.Cluster.Object

/-!
# Pods

A running replica. Of all that a pod asks for and tells, only the node that it was put on matters;
the rest has to be in form. Containers, volumes and the like are looked at no further than their own
members of one value.
-/

set_option autoImplicit false

namespace ReplicaPorts.Cluster

open Json

/-- A running replica. -/
structure Pod where
  metadata : Metadata := {}
  nodeName : Option String := none
  deriving DecidableEq

namespace Pod

def container : Form :=
  Form.record <|
    Form.texts ["image", "imagePullPolicy", "name", "restartPolicy",
      "terminationMessagePath", "terminationMessagePolicy", "workingDir"] ++
    Form.each Form.bool ["stdin", "stdinOnce", "tty"] ++
    Form.each (Form.list Form.text) ["args", "command"] ++
    Form.each (Form.list (Form.record []))
      ["env", "envFrom", "ports", "resizePolicy", "volumeDevices", "volumeMounts"] ++
    Form.each (Form.record [])
      ["lifecycle", "livenessProbe", "readinessProbe", "resources", "securityContext",
        "startupProbe"]

def toleration : Form :=
  Form.record <|
    Form.texts ["effect", "key", "operator", "value"] ++ [("tolerationSeconds", Form.int64)]

def spec : Form :=
  Form.record <|
    Form.texts ["dnsPolicy", "hostname", "nodeName", "preemptionPolicy", "priorityClassName",
      "restartPolicy", "runtimeClassName", "schedulerName", "serviceAccount",
      "serviceAccountName", "subdomain"] ++
    Form.each Form.bool ["automountServiceAccountToken", "enableServiceLinks", "hostIPC",
      "hostNetwork", "hostPID", "hostUsers", "setHostnameAsFQDN", "shareProcessNamespace"] ++
    Form.each Form.int64 ["activeDeadlineSeconds", "terminationGracePeriodSeconds"] ++
    Form.each (Form.keyed Form.text) ["nodeSelector", "overhead"] ++
    Form.each (Form.list container) ["containers", "ephemeralContainers", "initContainers"] ++
    Form.each (Form.list (Form.record [])) ["readinessGates", "topologySpreadConstraints"] ++
    Form.each (Form.list (Form.record [("name", Form.text)]))
      ["imagePullSecrets", "resourceClaims", "schedulingGates", "volumes"] ++
    Form.each (Form.record []) ["affinity", "dnsConfig", "securityContext"] ++
    [("hostAliases", Form.list <| Form.record
        [("hostnames", Form.list Form.text), ("ip", Form.text)]),
      ("os", Form.record [("name", Form.text)]),
      ("priority", Form.int32),
      ("tolerations", Form.list toleration)]

def containerState : Form :=
  Form.record [
    ("running", Form.record [("startedAt", Form.timestamp)]),
    ("terminated", Form.record <|
      Form.texts ["containerID", "message", "reason"] ++
      Form.each Form.int32 ["exitCode", "signal"] ++
      Form.each Form.timestamp ["startedAt", "finishedAt"]),
    ("waiting", Form.record (Form.texts ["message", "reason"]))]

def containerStatus : Form :=
  Form.record <|
    Form.texts ["containerID", "image", "imageID", "name"] ++
    Form.each Form.bool ["ready", "started"] ++
    Form.each containerState ["lastState", "state"] ++
    [("allocatedResources", Form.keyed Form.text),
      ("resources", Form.record []),
      ("restartCount", Form.int32)]

def status : Form :=
  Form.record <|
    Form.texts ["hostIP", "message", "nominatedNodeName", "phase", "podIP", "qosClass", "reason",
      "resize"] ++
    Form.each (Form.list containerStatus)
      ["containerStatuses", "ephemeralContainerStatuses", "initContainerStatuses"] ++
    Form.each (Form.list (Form.record [("ip", Form.text)])) ["hostIPs", "podIPs"] ++
    [("conditions", Form.list (Form.condition ["lastProbeTime", "lastTransitionTime"])),
      ("resourceClaimStatuses", Form.list <| Form.record <|
        Form.texts ["name", "resourceClaimName"]),
      ("startTime", Form.timestamp)]

def ofJson? (j : Json) : Option Pod := do
  let j ← object? j
  let spec ← nullable? "spec" (Form.check? spec) j
  let _ ← nullable? "status" (Form.check? status) j
  return {
    metadata := ← Metadata.ofObject? j
    nodeName := ← nullable? "nodeName" text? (spec.getD .null) }

/-- What a pod that is still to be made looks like. -/
def template : Form :=
  Form.record [("metadata", Form.readAs Metadata.ofJson?), ("spec", spec)]

end Pod

end ReplicaPorts.Cluster
