import ReplicaPorts.Cluster.Form
import ReplicaPorts.Json.Bounds

/-!
# Objects of the cluster

What the objects of every kind have in common: a name within a namespace, by which they are found,
and metadata. A list or a collection that is present keeps its place even when it is empty.
-/

set_option autoImplicit false

namespace ReplicaPorts.Cluster

open Json

/-! ## Names -/

/-- The name of an object within its namespace. -/
structure ObjectKey where
  space : String
  name : String
  deriving DecidableEq, Repr

namespace ObjectKey

open Std

/-- Keys are ordered by namespace, then by name. -/
instance : Ord ObjectKey := ⟨compareLex (compareOn ObjectKey.space) (compareOn ObjectKey.name)⟩

instance : TransOrd ObjectKey :=
  inferInstanceAs (TransCmp (compareLex (compareOn ObjectKey.space) (compareOn ObjectKey.name)))

instance : LawfulEqOrd ObjectKey where
  eq_of_compare {a b} h := by
    obtain ⟨s, n⟩ := a
    obtain ⟨t, m⟩ := b
    have h : (compare s t).then (compare n m) = .eq := h
    obtain ⟨h₁, h₂⟩ := Ordering.then_eq_eq.1 h
    rw [LawfulEqCmp.eq_of_compare h₁, LawfulEqCmp.eq_of_compare h₂]

end ObjectKey

/-! ## Metadata -/

/-- A reference to the object that an object belongs to. -/
structure OwnerReference where
  apiVersion : String
  kind : String
  name : String
  uid : String
  controller : Option Bool := none
  blockOwnerDeletion : Option Bool := none
  deriving DecidableEq

def OwnerReference.ofJson? (j : Json) : Option OwnerReference := do
  let j ← object? j
  return {
    apiVersion := (← nullable? "apiVersion" text? j).getD ""
    kind := (← nullable? "kind" text? j).getD ""
    name := (← nullable? "name" text? j).getD ""
    uid := (← nullable? "uid" text? j).getD ""
    controller := ← nullable? "controller" bool? j
    blockOwnerDeletion := ← nullable? "blockOwnerDeletion" bool? j }

def OwnerReference.toJson (o : OwnerReference) : Json := record [
  Member.always "apiVersion" (.text o.apiVersion),
  Member.unlessNone "blockOwnerDeletion" .bool o.blockOwnerDeletion,
  Member.unlessNone "controller" .bool o.controller,
  Member.always "kind" (.text o.kind),
  Member.always "name" (.text o.name),
  Member.always "uid" (.text o.uid)]

/-- Who manages which members of an object. The members are a value that is kept, which is nested in
an object, its metadata, a list and an entry of it. -/
def managedFields : Form :=
  Form.list <| Form.record <|
    Form.texts ["apiVersion", "fieldsType", "manager", "operation", "subresource"] ++
    [("time", Form.timestamp), ("fieldsV1", fits (maxDepth - 4))]

/-- What every object carries. -/
structure Metadata where
  name : Option String := none
  space : Option String := none
  uid : Option String := none
  labels : Option Labels := none
  annotations : Option Labels := none
  finalizers : Option (List String) := none
  creationTimestamp : Option Timestamp := none
  deletionTimestamp : Option Timestamp := none
  deletionGracePeriodSeconds : Option Int64 := none
  generateName : Option String := none
  generation : Option Int64 := none
  resourceVersion : Option String := none
  selfLink : Option String := none
  ownerReferences : Option (List OwnerReference) := none
  deriving DecidableEq

namespace Metadata

/-- Reads metadata. Of who manages the members only the form matters. -/
def ofJson? (j : Json) : Option Metadata := do
  let j ← object? j
  let _ ← nullable? "managedFields" (Form.check? managedFields) j
  return {
    name := ← nullable? "name" text? j
    space := ← nullable? "namespace" text? j
    uid := ← nullable? "uid" text? j
    labels := ← nullable? "labels" (keyed? text?) j
    annotations := ← nullable? "annotations" (keyed? text?) j
    finalizers := ← nullable? "finalizers" (list? text?) j
    creationTimestamp := ← nullable? "creationTimestamp" Timestamp.ofJson? j
    deletionTimestamp := ← nullable? "deletionTimestamp" Timestamp.ofJson? j
    deletionGracePeriodSeconds := ← nullable? "deletionGracePeriodSeconds" int64? j
    generateName := ← nullable? "generateName" text? j
    generation := ← nullable? "generation" int64? j
    resourceVersion := ← nullable? "resourceVersion" text? j
    selfLink := ← nullable? "selfLink" text? j
    ownerReferences := ← nullable? "ownerReferences" (list? OwnerReference.ofJson?) j }

def toJson (m : Metadata) : Json := record [
  labelsMember "annotations" m.annotations,
  Member.unlessNone "creationTimestamp" Timestamp.toJson m.creationTimestamp,
  Member.unlessNone "deletionGracePeriodSeconds" int64 m.deletionGracePeriodSeconds,
  Member.unlessNone "deletionTimestamp" Timestamp.toJson m.deletionTimestamp,
  Member.unlessNone "finalizers" .texts m.finalizers,
  Member.unlessNone "generateName" .text m.generateName,
  Member.unlessNone "generation" int64 m.generation,
  labelsMember "labels" m.labels,
  Member.unlessNone "name" .text m.name,
  Member.unlessNone "namespace" .text m.space,
  listMember "ownerReferences" OwnerReference.toJson m.ownerReferences,
  Member.unlessNone "resourceVersion" .text m.resourceVersion,
  Member.unlessNone "selfLink" .text m.selfLink,
  Member.unlessNone "uid" .text m.uid]

/-- The metadata of an object; an object without any has empty ones. -/
def ofObject? (j : Json) : Option Metadata := do
  return (← nullable? "metadata" ofJson? j).getD {}

def label? (m : Metadata) (name : String) : Option String := m.labels.bind (·.get? name)

end Metadata

end ReplicaPorts.Cluster
