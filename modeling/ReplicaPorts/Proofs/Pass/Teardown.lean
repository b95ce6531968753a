import ReplicaPorts.Proofs.Compute.Reachable
import ReplicaPorts.Proofs.Pass.Dismantling

/-!
# Tearing a workload down

A pass over a workload that is being deleted takes its resources down and lets it go. Removals may
be told to fail (`Faults`), in each of any number of attempts others; every such attempt fails,
leaves the workload held and a world in which the next one can go on (`attempt_fails`). When no
removal fails any more, one pass ends the work, with the same outcome as if it had been the first
(`teardown_completes`).
-/

set_option autoImplicit false

namespace ReplicaPorts

open Cluster Compute

namespace Pass

variable {names : Names} {key : ObjectKey} {event workload : StatefulSet}
  {w v : World}

/-! ## Under failures -/

/-- Calls that are told to fail. -/
structure Faults where
  /-- Those to the cluster, by one of their names. -/
  cluster : List String := []
  /-- Those to the Compute API, by name, and the status they fail with. -/
  compute : Keyed String Nat := ∅

/-- A world in which these calls fail and no others. -/
def World.under (w : World) (f : Faults) : World where
  cluster := { w.cluster with failures := f.cluster }
  compute := { w.compute with failures := f.compute }

/-- Only removals fail, of resources or of the finalizer, and none as if there were nothing to
remove. -/
structure Faults.OfRemovals (f : Faults) : Prop where
  /-- Of the calls to the cluster only the one that removes the finalizer fails. -/
  cluster : ∀ method ∈ f.cluster, method = "remove_finalizer"
  /-- Of the calls to the Compute API only deletions fail. -/
  compute : ∀ method status, f.compute.get? method = some status →
    (∃ kind, ∀ name, (Call.delete kind name).method = method) ∧ status ≠ 404

/-- Some removal fails. -/
structure Faults.Aborting (f : Faults) : Prop extends f.OfRemovals where
  /-- There is one. -/
  exists_ : f.cluster ≠ [] ∨ ∃ method status, f.compute.get? method = some status

theorem Faults.ofRemovals_none : Faults.OfRemovals {} where
  cluster := by simp
  compute := by
    intro method status h
    cases h

theorem Faults.OfRemovals.genuine {f : Faults} (h : f.OfRemovals) (v : World) :
    (v.under f).compute.Genuine :=
  fun _ _ told => (h.compute _ _ told).2 rfl

theorem Faults.OfRemovals.spares {f : Faults} (h : f.OfRemovals) (v : World) {c : Cluster.Call}
    (selectors : c.selectors = [c.method]) (other : c.method ≠ "remove_finalizer") :
    (v.under f).cluster.fails c = false := by
  have spared : c.method ∉ f.cluster := fun mem => other (h.cluster _ mem)
  simpa [Memory.fails, selectors, World.under] using spared

/-- If some removal fails, then one that a teardown asks for. -/
theorem Faults.Aborting.stops {f : Faults} (h : f.Aborting) (names : Names) (key : ObjectKey)
    (v : World) :
    Hindered names (v.under f) ∨
      (v.under f).cluster.fails (.removeFinalizer key finalizer) = true := by
  rcases h.exists_ with finalizer_ | ⟨method, status, told⟩
  · obtain ⟨method, mem⟩ := List.exists_mem_of_ne_nil _ finalizer_
    obtain rfl := h.cluster method mem
    refine .inr ?_
    simpa [Memory.fails, Cluster.Call.selectors, Cluster.Call.method, World.under] using mem
  · obtain ⟨⟨kind, deletes⟩, -⟩ := h.compute method status told
    refine .inl ⟨kind, ?_⟩
    rw [Simulator.injected?, deletes]
    show ((f.compute.get? method).map _).isSome = true
    rw [told]
    rfl

theorem not_hindered_none (names : Names) (v : World) : ¬ Hindered names (v.under {}) := by
  intro known
  obtain ⟨kind, hindered⟩ := known
  cases hindered

theorem Resumable.under {service : ObjectKey} (h : Resumable names service w v) (f : Faults) :
    Resumable names service w (v.under f) :=
  ⟨h.toSpared.congr rfl rfl, h.statefulSets, h.pods, h.nodes, h.services⟩

/-- A workload that is to be torn down. -/
structure Doomed (names : Names) (workload : StatefulSet) : Prop where
  /-- It is being deleted. -/
  deleted : isDeleted workload = true
  /-- It carries the finalizer. -/
  finalized : isFinalized workload = true
  /-- Its payload can be read and has the names. -/
  payload : ∃ text p, payloadText? workload = some text ∧ Payload.decode text = .ok p ∧
    Names.of p.namePrefix = names

/-- What a pass asks that tears a workload down. -/
def teardownAsks (names : Names) (key : ObjectKey) : List Ask :=
  .cluster (.getStatefulSet key) :: dismantleAsks names key

/-- A pass that tears a workload down ends what was begun, unless a removal is told to fail. -/
theorem leads_teardown (plan : Plan) (announced : Announces event key)
    (stored : w.cluster.statefulSets.get? key = some workload) (doomed : Doomed names workload)
    (begun : Resumable names ⟨key.space, names.service⟩ w v) {f : Faults} (faults : f.OfRemovals) :
    Leads (ofEvent plan event) (v.under f)
      (fun t _ u => t = teardownAsks names key ∧ Dismantled names key workload w u ∧
        ¬ Hindered names (v.under f) ∧
        (v.under f).cluster.fails (.removeFinalizer key finalizer) = false)
      (fun _ _ u => Resumable names ⟨key.space, names.service⟩ w u ∧
        (Hindered names (v.under f) ∨
          (v.under f).cluster.fails (.removeFinalizer key finalizer) = true)) := by
  obtain ⟨text, p, annotated, decoded, named⟩ := doomed.payload
  have stored' : (v.under f).cluster.statefulSets.get? key = some workload :=
    (congrArg (·.get? key) begun.statefulSets).trans stored
  refine leads_ofEvent announced stored'
    (faults.spares v rfl (show "get_stateful_set" ≠ "remove_finalizer" by decide)) ?_
  have settled : settle plan key workload = dismantle key text := by
    simp only [settle, annotated, doomed.deleted, doomed.finalized, if_true]
  rw [settled]
  have begun' := begun.under f
  refine (leads_dismantle (v := (v.under f).note (.getStatefulSet key)) decoded named stored
    ⟨begun'.toSpared, begun'.statefulSets, begun'.pods, begun'.nodes, begun'.services⟩
    (faults.genuine v)
    (faults.spares v rfl (show "delete_service" ≠ "remove_finalizer" by decide))).weaken ?_
    fun _ _ _ h => h
  intro _ _ u known
  obtain ⟨rfl, ended⟩ := known
  exact ⟨rfl, ended⟩

end Pass

namespace Operator

open Pass

/-- A world of an operator in which these calls fail and no others. -/
def State.under (s : State) (f : Faults) : State := { s with world := s.world.under f }

/-- Passes over one workload, each of them under failures of removals, lead from a state to
another. -/
inductive Attempts (o : Operator) (key : ObjectKey) (s : State) : State → Prop where
  /-- No pass was made yet. -/
  | none : Attempts o key s s
  /-- One more pass is made. -/
  | more {s' : State} (h : Attempts o key s s') {f : Faults} (aborting : f.Aborting)
      {event : StatefulSet} (announced : Announces event key) :
      Attempts o key s (o.pass event (s'.under f)).2

variable {names : Names} {key : ObjectKey} {event workload : StatefulSet} {s s' : State}

/-- An attempt under failures fails, and the teardown can be resumed after it. -/
theorem attempt_fails (o : Operator) (announced : Announces event key)
    (stored : s.world.cluster.statefulSets.get? key = some workload)
    (doomed : Doomed names workload) (prompt : s'.delays = ∅)
    (begun : Resumable names ⟨key.space, names.service⟩ s.world s'.world) {f : Faults}
    (aborting : f.Aborting) :
    (∃ e, (o.pass event (s'.under f)).1 = .error e) ∧
      Resumable names ⟨key.space, names.service⟩ s.world (o.pass event (s'.under f)).2.world ∧
      (o.pass event (s'.under f)).2.delays = ∅ := by
  rw [o.pass_prompt event (s := s'.under f) prompt]
  have stops := aborting.stops names key s'.world
  cases leads_teardown o.plan announced stored doomed begun aborting.toOfRemovals with
  | ok outcome known =>
    obtain ⟨-, -, free, allowed⟩ := known
    rcases stops with hindered | refused
    · exact absurd hindered free
    · rw [allowed] at refused
      cases refused
  | error outcome known =>
    refine ⟨⟨_, congrArg Prod.fst outcome⟩, ?_, prompt⟩
    rw [show (State.under s' f).world = s'.world.under f from rfl, outcome]
    exact known.1

theorem Attempts.resumable {o : Operator} (h : Attempts o key s s')
    (stored : s.world.cluster.statefulSets.get? key = some workload)
    (doomed : Doomed names workload) (prompt : s.delays = ∅)
    (paired : s.world.compute.store.Paired)
    (confined : Confined s.world.compute.place names s.world.compute.store) :
    Resumable names ⟨key.space, names.service⟩ s.world s'.world ∧ s'.delays = ∅ := by
  induction h with
  | none => exact ⟨⟨.refl paired confined, rfl, rfl, rfl, fun _ _ => rfl⟩, prompt⟩
  | more _ aborting announced ih =>
    exact (attempt_fails o announced stored doomed ih.2 ih.1 aborting).2

/-- However often a teardown was stopped by failing removals, each attempt failed and kept the
workload as it was, and the first one that no call fails ends as if it were the first of all: it
asks for all removals in their order, nothing of the resources is left, everything else is as it was
and the workload is released. -/
theorem teardown_completes (o : Operator)
    (stored : s.world.cluster.statefulSets.get? key = some workload)
    (doomed : Doomed names workload) (paired : s.world.compute.store.Paired)
    (confined : Confined s.world.compute.place names s.world.compute.store)
    (prompt : s.delays = ∅) (attempts : Attempts o key s s') (announced : Announces event key) :
    (∀ f : Faults, f.Aborting →
      (∃ e, (o.pass event (s'.under f)).1 = .error e) ∧
      (o.pass event (s'.under f)).2.world.cluster.statefulSets = s.world.cluster.statefulSets) ∧
    (o.pass event (s'.under {})).1 = .ok () ∧
    (ofEvent o.plan event).asked (s'.under {}).world = teardownAsks names key ∧
    (o.pass event (s'.under {})).2.world.cluster.calls =
      s'.world.cluster.calls ++ (teardownAsks names key).filterMap Ask.clusterCall? ∧
    (o.pass event (s'.under {})).2.world.compute.calls =
      s'.world.compute.calls ++ (teardownAsks names key).filterMap Ask.computeCall? ∧
    Dismantled names key workload s.world (o.pass event (s'.under {})).2.world := by
  obtain ⟨begun, prompt'⟩ := attempts.resumable stored doomed prompt paired confined
  refine ⟨fun f aborting => ?_, ?_⟩
  · obtain ⟨failed, left, -⟩ := attempt_fails o announced stored doomed prompt' begun aborting
    exact ⟨failed, left.statefulSets⟩
  · rw [o.pass_prompt event (s := s'.under {}) prompt']
    cases leads_teardown o.plan announced stored doomed begun
      Faults.ofRemovals_none with
    | ok outcome known =>
      have asks : (ofEvent o.plan event).asked (s'.under {}).world = _ := known.1
      refine ⟨congrArg Prod.fst outcome, asks, ?_, ?_, ?_⟩
      · rw [← asks]
        exact outcome_clusterCalls_asked _ _
      · rw [← asks]
        exact outcome_computeCalls_asked _ _
      · rw [show (State.under s' {}).world = s'.world.under {} from rfl, outcome]
        exact known.2.1
    | error outcome known =>
      rcases known.2 with hindered | refused
      · exact absurd hindered (not_hindered_none names s'.world)
      · cases refused

theorem small_doomed : Doomed (Names.of "db-") Small.deletedWorkload where
  deleted := rfl
  finalized := by decide +kernel
  payload := ⟨Small.text, Small.payload, Small.payloadText?_deletedWorkload, Small.decode_text, rfl⟩

/-- The small workload is torn down after a pass that could not remove the finalizer. -/
theorem small_teardown_completes :
    let s : State := { world := Small.deletedWorld }
    let stopped :=
      (Small.operator.pass Small.workload (s.under { cluster := ["remove_finalizer"] })).2
    let ended := Small.operator.pass Small.workload (stopped.under {})
    ended.1 = .ok () ∧
      Dismantled (Names.of "db-") Small.key Small.deletedWorkload s.world ended.2.world := by
  have stored :
      Small.deletedWorld.cluster.statefulSets.get? Small.key = some Small.deletedWorkload := by
    decide +kernel
  have paired : Small.deletedWorld.compute.store.Paired :=
    ((Simulator.Reachable.fresh ⟨"p", "r"⟩).putFirewall _ |>.putGroup _ _).paired
  have confined : Confined Small.deletedWorld.compute.place (Names.of "db-")
      Small.deletedWorld.compute.store := by
    intro kind user uses
    cases kind with
    | firewall => exact uses.elim
    | attachment => exact uses.elim
    | _ =>
      obtain ⟨_, found, -⟩ := uses
      cases found
  have aborting : Faults.Aborting { cluster := ["remove_finalizer"] } :=
    ⟨⟨by simp, fun _ _ told => by cases told⟩, .inl (by simp)⟩
  have completes := teardown_completes Small.operator (s := { world := Small.deletedWorld }) stored
    small_doomed paired confined rfl (.more .none aborting Small.announces_workload)
    Small.announces_workload
  exact ⟨completes.2.1, completes.2.2.2.2.2⟩

end Operator

end ReplicaPorts
