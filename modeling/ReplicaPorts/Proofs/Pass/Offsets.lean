import ReplicaPorts.Proofs.Pass.Listing
import ReplicaPorts.Proofs.Pass.Lookups
import ReplicaPorts.Proofs.Pass.Outcome

/-!
# The places of replicas

The offset of a replica from the first port is its place among the replicas. It is the same in
whatever order the pods are listed, and in whatever order the lookups of their nodes are completed
(`offsets_settled`).
-/

set_option autoImplicit false

namespace ReplicaPorts.Pass

open Cluster

variable {t : Clock} {space : String} {selector : Labels} {pods : List Pod}

/-- The nodes of the replicas of some pods, in order. -/
def nodesOf (pods : List Pod) : List String := (Replica.ofPods pods).map (·.node)

/-- How long it takes at most to list pods and look their nodes up. -/
def Clock.need (t : Clock) (space : String) (selector : Labels) (pods : List Pod) : Nat :=
  t.delayOf (.listPods space selector) +
    ((nodesOf pods).map fun name => t.delayOf (.getNode name)).sum

/-- A pass that has time finds the machines of the replicas, or ends with the error of the first
replica, in their order, of which the machine is not found. -/
theorem attempt_replicaMachines (idle : t.underWay = [])
    (serves : t.Serves (.listPods space selector))
    (listed : t.world.cluster.pods.filter (Memory.selects space selector) = pods) (lookups : Nat)
    {r : Except Error (List String)}
    (outcome : Outcome (machineIn t.world.cluster) (nodesOf pods) r) :
    (((replicaMachines lookups space selector).run.attempt Clock.answer t).1 = none ∧
      t.deadline < t.now + t.need space selector pods) ∨
    ((replicaMachines lookups space selector).run.attempt Clock.answer t).1 = some r := by
  obtain ⟨inTime, served⟩ := serves
  have answer : t.world.cluster.answer (.listPods space selector) =
      (.ok pods, t.world.cluster.note (.listPods space selector)) := by
    rw [Memory.answer_of_not_fails served, ← listed]
    rfl
  have same : machineIn (t.world.cluster.note (.listPods space selector)) =
      machineIn t.world.cluster := by
    funext name
    rw [machineIn, Memory.note, Memory.settle_calls]
    rfl
  unfold replicaMachines
  rw [attempt_cluster_bind, Clock.answer_cluster, if_neg (Nat.not_lt.mpr inTime), answer]
  rw [Clock.need, ← Nat.add_assoc]
  refine attempt_machinesOf (t := { t with
    world := { t.world with cluster := t.world.cluster.note (.listPods space selector) }
    now := t.now + t.delayOf (.listPods space selector) }) idle lookups ?_
  show Outcome (machineIn (t.world.cluster.note (.listPods space selector))) _ r
  rwa [same]

/-- The replicas of pods with different names are in an order of their own, however the pods are
listed. The nodes are looked up in this order, and even if several lookups are under way at a time
and are completed in any order, they end with all machines in this order or with the error of the
first replica of which the machine is not found; against a clock a pass ends its lookups so unless
it runs out of time. And in worlds that list the pods in different orders a pass has the same
result, asks for the same and leaves the same behind. -/
theorem offsets_settled (distinct : Replica.Distinct pods) :
    (Replica.InOrder pods (Replica.ofPods pods) ∧
      ∀ pods', pods.Perm pods' → Replica.ofPods pods' = Replica.ofPods pods) ∧
    (∀ find, ∃ r, Outcome find (nodesOf pods) r ∧
      ∀ limit, Batch.Settles limit find (nodesOf pods) r) ∧
    (∀ (t : Clock) space selector, t.underWay = [] → t.Serves (.listPods space selector) →
      pods.Perm (t.world.cluster.pods.filter (Memory.selects space selector)) →
      ∃ r, Outcome (machineIn t.world.cluster) (nodesOf pods) r ∧ ∀ lookups,
        (((replicaMachines lookups space selector).run.attempt Clock.answer t).1 = none ∧
          t.deadline < t.now + t.need space selector pods) ∨
        ((replicaMachines lookups space selector).run.attempt Clock.answer t).1 = some r) ∧
    ∀ (o : Operator) (event : StatefulSet) (s : Operator.State) (stored : List Pod),
      Relisted s.world.cluster.pods stored →
      o.pass event (s.withPods stored) =
        ((o.pass event s).1, (o.pass event s).2.withPods stored) := by
  refine ⟨⟨Replica.ofPods_inOrder distinct, fun pods' => Replica.ofPods_perm distinct⟩,
    fun find => ?_, fun t space selector idle serves same => ?_,
    fun o event s stored relisted => o.pass_withPods event relisted⟩
  · obtain ⟨r, outcome⟩ := exists_outcome find (nodesOf pods)
    exact ⟨r, outcome, fun limit => Batch.settles_of_outcome limit outcome⟩
  · obtain ⟨r, outcome⟩ := exists_outcome (machineIn t.world.cluster) (nodesOf pods)
    have replicas := Replica.ofPods_perm distinct same
    refine ⟨r, outcome, fun lookups => ?_⟩
    have ended := attempt_replicaMachines (r := r) idle serves rfl lookups
    simp only [Clock.need, nodesOf, replicas] at ended outcome ⊢
    exact ended outcome

end ReplicaPorts.Pass

namespace ReplicaPorts.Small

open Cluster Pass

/-- Another pod of the small workload, on a node of its own. -/
def secondPod : Pod where
  metadata := { space := some "prod", name := some "db-1", labels := some selector }
  nodeName := some "n1"

/-- The small world with both pods. Of the second node nothing is known. -/
def twoPods : Operator.State where
  world := { world with cluster := cluster.putPod secondPod }

/-- Listed backwards, the two pods are the same replicas, and a pass is the same. Its lookups end,
with a result that does not depend on how many are under way at a time. -/
theorem small_offsets_settled :
    Replica.ofPods [secondPod, pod] = Replica.ofPods [pod, secondPod] ∧
    (∃ r, ∀ limit, Batch.Settles limit (machineIn twoPods.world.cluster)
      (nodesOf [pod, secondPod]) r) ∧
    (∃ r, ∀ lookups, ((replicaMachines lookups "prod" selector).run.attempt Clock.answer
      (operator.clock twoPods)).1 = some r) ∧
    operator.pass workload (twoPods.withPods [secondPod, pod]) =
      ((operator.pass workload twoPods).1,
        (operator.pass workload twoPods).2.withPods [secondPod, pod]) := by
  have distinct : Replica.Distinct [pod, secondPod] := by decide +kernel
  have swapped : [pod, secondPod].Perm [secondPod, pod] := .swap _ _ _
  obtain ⟨⟨-, order⟩, overlap, lookups, passes⟩ := offsets_settled distinct
  have listed : twoPods.world.cluster.pods.filter (Memory.selects "prod" selector) =
      [pod, secondPod] := by decide +kernel
  have undelayed : ∀ c, (operator.clock twoPods).delayOf c = 0 := Clock.delayOf_of_empty rfl
  have serves : (operator.clock twoPods).Serves (.listPods "prod" selector) :=
    ⟨by rw [undelayed]; exact Nat.zero_le 300000, rfl⟩
  refine ⟨order _ swapped, ?_, ?_, passes operator workload twoPods _ (.of_perm distinct swapped)⟩
  · obtain ⟨r, -, settles⟩ := overlap (machineIn twoPods.world.cluster)
    exact ⟨r, settles⟩
  · obtain ⟨r, -, found⟩ := lookups (operator.clock twoPods) "prod" selector rfl serves
      (by rw [show (operator.clock twoPods).world = twoPods.world from rfl, listed])
    refine ⟨r, fun limit => (found limit).resolve_left ?_⟩
    rintro ⟨-, late⟩
    have need : (operator.clock twoPods).need "prod" selector [pod, secondPod] = 0 := by
      simp [Clock.need, undelayed]
    rw [need] at late
    exact absurd late (Nat.not_lt_zero _)

end ReplicaPorts.Small
