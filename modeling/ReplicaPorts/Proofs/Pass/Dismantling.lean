import ReplicaPorts.Proofs.Pass.Removal

/-!
# Taking down what was begun to be taken down

A teardown that stops half-way leaves a world in which the next one can go on: `Resumable` says what
may differ from the world in which the first one began. `leads_dismantle` says that from there a
teardown asks for all removals in their order and ends in a `Dismantled` world, unless a removal is
told to fail, and that it leaves a resumable world then.
-/

set_option autoImplicit false

namespace ReplicaPorts

open Cluster Compute

namespace Pass

variable {names : Names} {key : ObjectKey} {plan : Plan} {event workload : StatefulSet}
  {w v : World}

/-- A pass for an announced workload leads where it leads once the workload was read. -/
theorem leads_ofEvent {ok : List Ask → Unit → World → Prop} {err : List Ask → Error → World → Prop}
    (announced : Announces event key) (stored : v.cluster.statefulSets.get? key = some workload)
    (readable : v.cluster.fails (.getStatefulSet key) = false)
    (h : Leads (settle plan key workload) (v.note (.getStatefulSet key))
      (fun t => ok (.cluster (.getStatefulSet key) :: t))
      (fun t => err (.cluster (.getStatefulSet key) :: t))) :
    Leads (ofEvent plan event) v ok err := by
  have read : v.cluster.answer (.getStatefulSet key) =
      (.ok (some workload), v.cluster.note (.getStatefulSet key)) := by
    rw [Memory.answer_of_not_fails readable, ← stored]
    rfl
  rw [ofEvent_eq announced]
  refine (leads_cluster _ _).bind ?_ ?_
  · intro _ found _ known
    obtain ⟨rfl, found_eq, rfl⟩ := known
    rw [read] at found_eq ⊢
    obtain rfl : some workload = found := Except.ok.inj found_eq
    exact h
  · intro _ _ _ known
    obtain ⟨-, e, failed, -⟩ := known
    rw [read] at failed
    cases failed

/-- A workload without the finalizer. -/
def released (w : StatefulSet) : StatefulSet := Memory.refinalized (withoutFinalizer finalizer) w

theorem isFinalized_released (w : StatefulSet) : isFinalized (released w) = false := by
  simp [isFinalized, released, Memory.refinalized, withoutFinalizer]

/-- Whatever becomes of deleting the exposure service, a pass goes on. -/
theorem leads_dropService (service : ObjectKey) (v : World) :
    Leads (dropService service) v
      (fun t _ u => t = [.cluster (.deleteService service)] ∧
        u = { v with cluster := (v.cluster.answer (.deleteService service)).2 })
      (fun _ _ _ => False) :=
  ((leads_cluster _ v).weaken (fun _ _ _ ⟨asked, _, left⟩ => ⟨asked, left⟩)
    fun _ _ _ ⟨asked, _, _, _, left⟩ => ⟨asked, left⟩).forgiven

/-- A world that a teardown was begun in and can be ended in: it differs from an earlier one at most
in the resources of some names and in the exposure service, besides calls and failures. -/
structure Resumable (names : Names) (service : ObjectKey) (w v : World) : Prop extends
    Spared names w.compute v.compute where
  statefulSets : v.cluster.statefulSets = w.cluster.statefulSets
  pods : v.cluster.pods = w.cluster.pods
  nodes : v.cluster.nodes = w.cluster.nodes
  services : ∀ k, k ≠ service → v.cluster.services.get? k = w.cluster.services.get? k

/-- A world in which a teardown was ended: beyond what it differs in from an earlier one, the
resources and the service are gone and the workload is released. -/
structure Dismantled (names : Names) (key : ObjectKey) (workload : StatefulSet) (w v : World) : Prop
    extends Spared names w.compute v.compute where
  gone : ∀ kind, v.compute.store.find? kind (names.resource kind) = none
  detached : v.compute.store.endpoints.get? names.group = none
  statefulSets : v.cluster.statefulSets = w.cluster.statefulSets.insert key (released workload)
  pods : v.cluster.pods = w.cluster.pods
  nodes : v.cluster.nodes = w.cluster.nodes
  services : v.cluster.services = w.cluster.services.erase ⟨key.space, names.service⟩

/-- What a pass asks that takes the resources of a workload down, after it read the workload. -/
def dismantleAsks (names : Names) (key : ObjectKey) : List Ask :=
  .cluster (.deleteService ⟨key.space, names.service⟩) ::
    ((removalOrder.map fun kind => .compute (.delete kind (names.resource kind))) ++
      [.cluster (.removeFinalizer key finalizer)])

theorem mem_removalOrder (kind : Kind) : kind ∈ removalOrder := by cases kind <;> decide

private theorem answer_removeFinalizer (m : Memory)
    (stored : m.statefulSets.get? key = some workload)
    (allowed : m.fails (.removeFinalizer key finalizer) = false) :
    m.answer (.removeFinalizer key finalizer) =
      (.ok (), { m with
        statefulSets := m.statefulSets.insert key (released workload)
        calls := m.calls ++ [.removeFinalizer key finalizer] }) := by
  rw [Memory.answer_of_not_fails allowed]
  exact Memory.editFinalizers_of_get? (m := m.note _) stored _

/-- The resources are removed and the workload is released, unless one of that is told to fail. -/
theorem leads_removal (genuine : v.compute.Genuine) (torn : Torn names v v)
    (stored : v.cluster.statefulSets.get? key = some workload) :
    Leads (do removeAll names; letGo key) v
      (fun t _ u =>
        t = (removalOrder.map fun kind => .compute (.delete kind (names.resource kind))) ++
          [.cluster (.removeFinalizer key finalizer)] ∧
        Spared names v.compute u.compute ∧
        (∀ kind, u.compute.store.find? kind (names.resource kind) = none) ∧
        u.cluster = { v.cluster with
          statefulSets := v.cluster.statefulSets.insert key (released workload)
          calls := v.cluster.calls ++ [.removeFinalizer key finalizer] } ∧
        ¬ Hindered names v ∧ v.cluster.fails (.removeFinalizer key finalizer) = false)
      (fun _ _ u => Spared names v.compute u.compute ∧
        (∃ calls, u.cluster = { v.cluster with calls }) ∧
        (Hindered names v ∨ v.cluster.fails (.removeFinalizer key finalizer) = true)) := by
  refine (leads_removeAll genuine torn).bind ?_ ?_
  · intro _ _ u known
    obtain ⟨rfl, removed⟩ := known
    have free : ¬ Hindered names v := by
      intro known
      obtain ⟨kind, hindered⟩ := known
      rw [removed.allowed kind (List.mem_reverse.mpr (mem_removalOrder kind))] at hindered
      cases hindered
    have gone := fun kind => removed.gone kind (List.mem_reverse.mpr (mem_removalOrder kind))
    refine (Leads.during .finalizer (leads_cluster _ u)).weaken ?_ ?_
    · intro _ _ _ known
      obtain ⟨rfl, answered, rfl⟩ := known
      rw [removed.cluster] at answered ⊢
      cases allowed : v.cluster.fails (.removeFinalizer key finalizer) with
      | true =>
        rw [Memory.answer_of_fails allowed] at answered
        cases answered
      | false =>
        rw [answer_removeFinalizer _ stored allowed]
        exact ⟨rfl, removed.toSpared, gone, rfl, free, rfl⟩
    · intro _ _ _ known
      obtain ⟨_, rfl, rfl, e, failed, rfl, rfl⟩ := known
      rw [removed.cluster] at failed ⊢
      cases allowed : v.cluster.fails (.removeFinalizer key finalizer) with
      | true =>
        rw [Memory.answer_of_fails allowed]
        exact ⟨removed.toSpared, ⟨_, rfl⟩, .inr rfl⟩
      | false =>
        rw [answer_removeFinalizer _ stored allowed] at failed
        cases failed
  · intro _ _ u known
    obtain ⟨torn, hindered⟩ := known
    exact ⟨torn.toSpared, ⟨v.cluster.calls, torn.cluster⟩, .inl hindered⟩

/-- A world without a service, the deletion of which was listed. -/
def withoutService (v : World) (service : ObjectKey) : World :=
  { v with cluster := { v.cluster with
    services := v.cluster.services.erase service
    calls := v.cluster.calls ++ [.deleteService service] } }

/-- Taking the resources down ends what was begun, unless a removal is told to fail. -/
theorem leads_dismantle {text : String} {p : Payload}
    (decoded : Payload.decode text = .ok p) (named : Names.of p.namePrefix = names)
    (stored : w.cluster.statefulSets.get? key = some workload)
    (begun : Resumable names ⟨key.space, names.service⟩ w v) (genuine : v.compute.Genuine)
    (droppable : v.cluster.fails (.deleteService ⟨key.space, names.service⟩) = false) :
    Leads (dismantle key text) v
      (fun t _ u => t = dismantleAsks names key ∧ Dismantled names key workload w u ∧
        ¬ Hindered names v ∧ v.cluster.fails (.removeFinalizer key finalizer) = false)
      (fun _ _ u => Resumable names ⟨key.space, names.service⟩ w u ∧
        (Hindered names v ∨ v.cluster.fails (.removeFinalizer key finalizer) = true)) := by
  have services : v.cluster.services.erase ⟨key.space, names.service⟩ =
      w.cluster.services.erase ⟨key.space, names.service⟩ := by
    refine Keyed.ext_get? fun k => ?_
    by_cases same : k = ⟨key.space, names.service⟩
    · rw [same, Keyed.get?_erase_self, Keyed.get?_erase_self]
    · rw [Keyed.get?_erase_ne _ same, Keyed.get?_erase_ne _ same, begun.services k same]
  refine (Leads.during .payload (leads_ofExcept .payload (Payload.decode text) v)).bind ?_ ?_
  · intro _ p' v known
    obtain ⟨rfl, decoded', rfl⟩ := known
    obtain rfl : p = p' := Except.ok.inj (decoded.symm.trans decoded')
    rw [named]
    refine (leads_dropService _ _).bind ?_ fun _ _ _ h => h.elim
    intro _ _ _ known
    obtain ⟨rfl, rfl⟩ := known
    rw [show { v with cluster := _ } = withoutService v ⟨key.space, names.service⟩ by
      rw [Memory.answer_of_not_fails droppable]; rfl]
    refine (leads_removal (v := withoutService v ⟨key.space, names.service⟩) genuine
      (Torn.refl begun.paired begun.confined)
      ((congrArg (·.get? key) begun.statefulSets).trans stored)).weaken ?_ ?_
    · intro _ _ u known
      obtain ⟨rfl, spared, gone, left, free, allowed⟩ := known
      refine ⟨rfl, ⟨begun.toSpared.trans spared, gone, ?_, ?_, ?_, ?_, ?_⟩, free, allowed⟩
      · have alone := spared.paired names.group
        rw [show u.compute.store.find? .group names.group = none from gone .group] at alone
        exact Option.isSome_eq_false_iff.mp alone |> Option.isNone_iff_eq_none.mp
      · rw [left, ← begun.statefulSets]
        rfl
      · rw [left, ← begun.pods]
        rfl
      · rw [left, ← begun.nodes]
        rfl
      · rw [left, ← services]
        rfl
    · intro _ _ u known
      obtain ⟨spared, ⟨calls, left⟩, stopped⟩ := known
      refine ⟨⟨begun.toSpared.trans spared, ?_, ?_, ?_, ?_⟩, stopped⟩
      · rw [left, ← begun.statefulSets]
        rfl
      · rw [left, ← begun.pods]
        rfl
      · rw [left, ← begun.nodes]
        rfl
      · intro k other
        rw [left, ← begun.services k other]
        exact Keyed.get?_erase_ne _ other
  · intro _ _ _ known
    obtain ⟨_, -, -, _, failed, -⟩ := known
    rw [decoded] at failed
    cases failed

end Pass

end ReplicaPorts
