import ReplicaPorts.Cluster.Pod

/-!
# Workloads

A workload whose replicas have an order. Of what it asks for and tells, only the labels of its pods
matter; the rest has to be in form.
-/

set_option autoImplicit false

namespace ReplicaPorts.Cluster

open Json

/-- A workload whose replicas have an order. -/
structure StatefulSet where
  metadata : Metadata := {}
  matchLabels : Option Labels := none
  deriving DecidableEq

namespace StatefulSet

def selector : Form :=
  Form.record [
    ("matchExpressions", Form.list <| Form.record <|
      Form.texts ["key", "operator"] ++ [("values", Form.list Form.text)]),
    ("matchLabels", Form.keyed Form.text)]

def spec : Form :=
  Form.record <|
    Form.texts ["podManagementPolicy", "serviceName"] ++
    Form.each Form.int32 ["minReadySeconds", "replicas", "revisionHistoryLimit"] ++
    [("ordinals", Form.record [("start", Form.int32)]),
      ("persistentVolumeClaimRetentionPolicy", Form.record <|
        Form.texts ["whenDeleted", "whenScaled"]),
      ("selector", selector),
      ("template", Pod.template),
      ("updateStrategy", Form.record [
        ("rollingUpdate", Form.record
          [("maxUnavailable", Form.int32OrText), ("partition", Form.int32)]),
        ("type", Form.text)]),
      ("volumeClaimTemplates", Form.list <| Form.record [
        ("metadata", Form.readAs Metadata.ofJson?),
        ("spec", Form.record []),
        ("status", Form.record [])])]

def status : Form :=
  Form.record <|
    Form.each Form.int32 ["availableReplicas", "collisionCount", "currentReplicas",
      "readyReplicas", "replicas", "updatedReplicas"] ++
    Form.texts ["currentRevision", "updateRevision"] ++
    [("conditions", Form.list (Form.condition ["lastTransitionTime"])),
      ("observedGeneration", Form.int64)]

def ofJson? (j : Json) : Option StatefulSet := do
  let j ← object? j
  let spec := (← nullable? "spec" (Form.check? spec) j).getD .null
  let _ ← nullable? "status" (Form.check? status) j
  let selector := (← nullable? "selector" object? spec).getD .null
  return {
    metadata := ← Metadata.ofObject? j
    matchLabels := ← nullable? "matchLabels" (keyed? text?) selector }

end StatefulSet

end ReplicaPorts.Cluster
