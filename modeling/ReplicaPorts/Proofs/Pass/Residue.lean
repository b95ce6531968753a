import ReplicaPorts.Proofs.Pass.Convergence
import ReplicaPorts.Proofs.Pass.Teardown
import ReplicaPorts.Proofs.Pass.Tending

/-!
# What a teardown leaves behind

A pass takes the names of the resources from the payload that it reads, and nothing else is kept
from one pass to the next: of the payloads that were edited away nothing is known any more. So the
pass that tears a workload down removes what has the names of its present payload. What it leaves
are resources of other prefixes, which the payload had before, just as they were
(`teardown_residue`). As long as the prefix stays, nothing is left, whatever else is edited; after
an edit of the prefix the resources of the old one outlive the workload
(`small_rename_leaves_resources`).
-/

set_option autoImplicit false

namespace ReplicaPorts

open Cluster Compute Program
open Relation (ReflTransGen)

namespace Pass

variable {key : ObjectKey} {among : String → Prop} {place : Location} {w : World}

/-- What is known where every payload that a workload ever spells has one of some prefixes. -/
def prefixedAmong (key : ObjectKey) (among : String → Prop) : Findings where
  workload k s := k = key →
    ∀ text p, payloadText? s = some text → Payload.decode text = .ok p → among p.namePrefix
  pods _ _ _ := True
  service _ _ := True

theorem prefixedAmong_stable : (prefixedAmong key among).Stable :=
  ⟨fun _ _ _ known => known, fun _ _ _ _ _ _ => trivial⟩

theorem among_of_spells {p : Payload} (spelled : (prefixedAmong key among).Spells key p) :
    among p.namePrefix := by
  obtain ⟨s, text, known, annotated, decoded⟩ := spelled
  exact known rfl text p annotated decoded

/-- One payload of the workload is known, and its prefix is among them. -/
theorem prefixedAmong_hold {s : StatefulSet} {text : String} {p : Payload}
    (stored : w.cluster.statefulSets.get? key = some s) (annotated : payloadText? s = some text)
    (decoded : Payload.decode text = .ok p) (member : among p.namePrefix) :
    (prefixedAmong key among).Hold w := by
  refine ⟨fun k s' found same text' p' annotated' decoded' => ?_, fun _ _ => trivial,
    fun _ _ _ => trivial⟩
  subst same
  obtain rfl := Option.some.inj (stored.symm.trans found)
  obtain rfl := Option.some.inj (annotated.symm.trans annotated')
  obtain rfl := Except.ok.inj (decoded.symm.trans decoded')
  exact member

/-- Where no call is told to fail, nothing changes when none is. -/
theorem Unhindered.under_none (h : Unhindered w) : w.under {} = w := by
  obtain ⟨⟨_, _, _, _, failures, _⟩, ⟨_, _, failures', _⟩⟩ := w
  obtain ⟨cluster, compute⟩ := h
  obtain rfl : failures = [] := cluster
  obtain rfl : failures' = ∅ := compute
  rfl

theorem Setting.unhindered {v : World} (h : Setting w v) (free : Unhindered w) : Unhindered v :=
  ⟨h.clusterFailures.trans free.cluster, h.failures.trans free.compute⟩

end Pass

namespace Operator

open Pass

theorem unhindered_storing {s : State} {w : StatefulSet} (free : Unhindered s.world) :
    Unhindered (s.storing w).world :=
  ⟨free.cluster, free.compute⟩

/-- However often a payload was edited since there were no resources, and whatever passes did about
it and whichever calls failed: a pass over the deleted workload that no call fails succeeds,
releases the workload and removes what has the names of its payload. What is left was there before,
under the names of another prefix that the payload had. -/
theorem teardown_residue (o : Operator) {among : String → Prop} {event workload : StatefulSet}
    {key : ObjectKey} {text : String} {p : Payload} {u : World} {s : State}
    (empty : u.compute.store = {}) (place : o.plan.place = u.compute.place)
    (known : (prefixedAmong key among).Hold u)
    (reaches : ReflTransGen (Moves World.answer (BeginsFor o.plan.place (· = key))
      (Others (prefixedAmong key among))) ⟨u, none⟩ ⟨s.world, none⟩)
    (prompt : s.delays = ∅) (free : Unhindered s.world) (announced : Announces event key)
    (stored : s.world.cluster.statefulSets.get? key = some workload)
    (deleted : isDeleted workload = true) (finalized : isFinalized workload = true)
    (annotated : payloadText? workload = some text) (decoded : Payload.decode text = .ok p) :
    (o.pass event s).1 = .ok () ∧
    Dismantled (Names.of p.namePrefix) key workload s.world (o.pass event s).2.world ∧
    (∃ left, (o.pass event s).2.world.cluster.statefulSets.get? key = some left ∧
      isFinalized left = false) ∧
    ∀ kind name m, (o.pass event s).2.world.compute.store.find? kind name = some m →
      s.world.compute.store.find? kind name = some m ∧
      ∃ q, among q ∧ q ≠ p.namePrefix ∧ name = (Names.of q).resource kind := by
  have tended : Tended (prefixedAmong key among) o.plan.place among s.world :=
    tended_reaches prefixedAmong_stable
      (by rintro _ p rfl spelled; exact among_of_spells spelled)
      (tended_of_empty known place.symm empty) reaches
  have doomed : Doomed (Names.of p.namePrefix) workload :=
    ⟨deleted, finalized, text, p, annotated, decoded, rfl⟩
  have confined : Confined s.world.compute.place (Names.of p.namePrefix) s.world.compute.store :=
    tended.stays.symm ▸ tended.orderly.confined p.namePrefix
  have begun : Resumable (Names.of p.namePrefix) ⟨key.space, (Names.of p.namePrefix).service⟩
      s.world s.world := ⟨.refl tended.paired confined, rfl, rfl, rfl, fun _ _ => rfl⟩
  have torn := leads_teardown o.plan announced stored doomed begun Faults.ofRemovals_none
  rw [free.under_none] at torn
  rw [o.pass_prompt event prompt]
  cases torn with
  | error outcome stopped =>
    rcases stopped.2 with hindered | refused
    · exact absurd (free.under_none.symm ▸ hindered) (not_hindered_none _ s.world)
    · rw [Memory.fails, free.cluster] at refused
      cases refused
  | ok outcome ended =>
    obtain ⟨-, dismantled, -, -⟩ := ended
    rw [outcome]
    refine ⟨rfl, dismantled, ⟨_, ?_, isFinalized_released workload⟩, fun kind name m found => ?_⟩
    · rw [dismantled.statefulSets]
      exact Keyed.get?_insert_self ..
    · have other : name ≠ (Names.of p.namePrefix).resource kind := by
        rintro rfl
        rw [dismantled.gone kind] at found
        cases found
      rw [dismantled.found kind name other] at found
      obtain ⟨q, member, rfl, -⟩ := tended.orderly kind name m found
      exact ⟨found, q, member, fun same => other (same ▸ rfl), rfl⟩

end Operator

end ReplicaPorts

namespace ReplicaPorts.Small

open Cluster

/-- The text of the small workload with another prefix. -/
def renamedText : String :=
  "\x7b\"prefix\":\"dc-\",\"nat_subnet_fqns\":[\"projects/p/regions/r/subnetworks/s\"],"
    ++ "\"node_ports\":\x7b\"app\":\x7b\"node_port\":30000,\"container_port\":8080,"
    ++ "\"starting_port\":5000\x7d\x7d\x7d"

/-- The workload with that text, while it is being deleted and held. -/
def renamedWorkload : StatefulSet :=
  { workload with metadata := { workload.metadata with
    annotations := some (Keyed.ofList [(Pass.payloadKey, renamedText)])
    finalizers := some [Pass.finalizer]
    deletionTimestamp := some .epoch } }

/-- After the edit. -/
def renamed : Operator.State := exposed.storing renamedWorkload

theorem decode_renamedText :
    Payload.decode renamedText = .ok { payload with namePrefix := "dc-" } :=
  eq_ok_of_toOption (by decide +kernel)

theorem payloadText?_renamedWorkload : Pass.payloadText? renamedWorkload = some renamedText := by
  decide +kernel

end ReplicaPorts.Small

namespace ReplicaPorts.Operator

open Cluster Compute Pass Program
open Relation (ReflTransGen)

/-- When the prefix of the small workload is edited before it is deleted, the pass that removes the
finalizer leaves all resources of the old prefix. -/
theorem small_rename_leaves_resources :
    (Small.operator.pass Small.workload { world := Small.world }).1 = .ok () ∧
    (Small.operator.pass Small.renamedWorkload Small.renamed).1 = .ok () ∧
    ((Small.operator.pass Small.renamedWorkload Small.renamed).2.world.cluster.statefulSets.get?
      Small.key).map isFinalized = some false ∧
    ∀ kind, (Small.operator.pass Small.renamedWorkload Small.renamed).2.world.compute.store.has
      kind ((Names.of "db-").resource kind) = true := by
  have came : (Small.operator.pass Small.workload { world := Small.world }).1 = .ok () ∧
      (Small.operator.pass Small.renamedWorkload Small.renamed).1 = .ok () ∧
      ((Small.operator.pass Small.renamedWorkload Small.renamed).2.world.cluster.statefulSets.get?
        Small.key).map isFinalized = some false ∧
      (removalOrder.all fun kind =>
        (Small.operator.pass Small.renamedWorkload Small.renamed).2.world.compute.store.has kind
          ((Names.of "db-").resource kind)) = true := by decide +kernel
  obtain ⟨made, ended, released, all⟩ := came
  exact ⟨made, ended, released, fun kind => List.all_eq_true.mp all kind (mem_removalOrder kind)⟩

/-- What is left of the small workload after that edit has the names of the old prefix. -/
theorem small_teardown_residue :
    let ended := Small.operator.pass Small.renamedWorkload Small.renamed
    ended.1 = .ok () ∧
    Dismantled (Names.of "dc-") Small.key Small.renamedWorkload Small.renamed.world
      ended.2.world ∧
    ∀ kind name m, ended.2.world.compute.store.find? kind name = some m →
      ∃ q, (q = "db-" ∨ q = "dc-") ∧ q ≠ "dc-" ∧ name = (Names.of q).resource kind := by
  let among (q : String) : Prop := q = "db-" ∨ q = "dc-"
  have known : (prefixedAmong Small.key among).Hold Small.world :=
    prefixedAmong_hold Small.get?_key Small.payloadText?_workload Small.decode_text (.inl rfl)
  have stored : Small.renamed.world.cluster.statefulSets.get? Small.key =
      some Small.renamedWorkload := get?_storing _ _
  have later : (prefixedAmong Small.key among).Hold Small.renamed.world :=
    prefixedAmong_hold stored Small.payloadText?_renamedWorkload Small.decode_renamedText (.inr rfl)
  have made : ReflTransGen (Moves World.answer
      (BeginsFor Small.operator.plan.place (· = Small.key))
      (Others (prefixedAmong Small.key among)))
      ⟨Small.world, none⟩ ⟨Small.exposed.world, none⟩ := by
    unfold Small.exposed
    exact Small.operator.pass_moves (s := { world := Small.world }) rfl
      fun _ announced => announced.unique Small.announces_workload
  have edit : Others (prefixedAmong Small.key among) Small.exposed.world Small.renamed.world :=
    others_storing (s := Small.exposed) later
  have free : Unhindered Small.renamed.world :=
    unhindered_storing (s := Small.exposed) (Small.exposed_setting.unhindered ⟨rfl, rfl⟩)
  have prompt : Small.renamed.delays = ∅ := by
    unfold Small.renamed Small.exposed
    exact delays_storing_pass ..
  have announced : Announces Small.renamedWorkload Small.key := ⟨rfl, rfl, by decide +kernel⟩
  obtain ⟨came, dismantled, -, residue⟩ := teardown_residue Small.operator rfl rfl known
    (made.tail (.outside edit)) prompt free announced stored rfl (by decide +kernel)
    Small.payloadText?_renamedWorkload Small.decode_renamedText
  exact ⟨came, dismantled, fun kind name m found => (residue kind name m found).2⟩

end ReplicaPorts.Operator
