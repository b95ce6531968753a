import ReplicaPorts.Proofs.Compute.Reachable
import ReplicaPorts.Proofs.Pass.Adoption
import ReplicaPorts.Proofs.Pass.Chain
import ReplicaPorts.Proofs.Pass.Dismantling
import ReplicaPorts.Proofs.Pass.Exposure
import ReplicaPorts.Proofs.Pass.Finalizer
import ReplicaPorts.Proofs.Replica.PortRun

/-!
# Passes converge

Where no call fails, one pass over a workload that can be exposed (`Ready`) brings everything in
order (`Settled`), whatever there was of it before. The world is ready for the next pass then, and
that one only looks (`quiet_ofEvent`).
-/

set_option autoImplicit false

namespace ReplicaPorts

open Cluster Compute

namespace Pass

/-- What a workload asks for, and what it takes to give it. -/
structure Demand where
  /-- The payload. -/
  payload : Payload
  /-- The labels that select the replicas. -/
  selector : Labels
  /-- The machines of the replicas. -/
  machines : List String
  /-- The mappings of the ports. -/
  mappings : List PortMapping

/-- A workload asks for its replicas to be exposed. -/
structure Asks (d : Demand) (workload : StatefulSet) : Prop where
  /-- It is annotated with an accepted payload. -/
  payload : ∃ text, payloadText? workload = some text ∧ Payload.parse text = .ok d.payload
  /-- It is not being deleted. -/
  alive : isDeleted workload = false
  /-- It selects its replicas by some labels. -/
  selector : selector? workload = some d.selector

theorem Asks.refinalized {d : Demand} {workload : StatefulSet} (h : Asks d workload)
    (edit : List String → List String) : Asks d (Memory.refinalized edit workload) :=
  ⟨h.payload, h.alive, h.selector⟩

/-- The replicas of a stored workload can be exposed. -/
structure Ready (key : ObjectKey) (d : Demand) (w : World) : Prop where
  /-- The stored workload asks for it. -/
  stored : ∃ workload, w.cluster.statefulSets.get? key = some workload ∧ Asks d workload
  /-- There are ports to expose. -/
  ports : d.payload.ports.isEmpty = false
  /-- The prefix is no path. -/
  slashless : '/' ∉ d.payload.namePrefix.toList
  /-- The nodes of the replicas are there and tell their machines. -/
  machines : MachinesAt w.cluster key.space d.selector d.machines
  /-- The machines take the ports. -/
  accepted : PortRun.Accepts d.payload.ports d.machines d.mappings

/-- Everything that a workload asks for is in order. -/
structure Settled (key : ObjectKey) (d : Demand) (w : World) : Prop where
  /-- The workload is held, and its exposure service exists and is in line. -/
  exposed : ∃ workload, w.cluster.statefulSets.get? key = some workload ∧
    isFinalized workload = true ∧
    NodeService.InLine w.cluster ⟨key.space, (Names.of d.payload.namePrefix).service⟩ workload
      d.selector d.payload
  /-- The firewall exists and is up to date. -/
  firewall : ∃ f,
    w.compute.store.find? .firewall (Names.of d.payload.namePrefix).firewall = some f ∧
    Firewall.isStale f d.payload.nodePorts = false
  /-- All resources exist. -/
  present : ∀ kind, (w.compute.store.find? kind
    ((Names.of d.payload.namePrefix).resource kind)).isSome = true
  /-- The endpoints of the group are the mappings. -/
  aligned : Aligned (Names.of d.payload.namePrefix).group d.mappings w.compute.store

/-- No call is told to fail. -/
structure Unhindered (w : World) : Prop where
  /-- No call to the cluster is. -/
  cluster : w.cluster.Calm
  /-- No call to the Compute API is. -/
  compute : w.compute.Calm

variable {key : ObjectKey} {d : Demand} {w v : World} {event workload : StatefulSet}

theorem Settled.met (h : Settled key d w) (place : Location) (kind : Kind) :
    w.compute.store.Meets ((Names.of d.payload.namePrefix).resource kind)
      (designOf place d.payload kind) := by
  have present := h.present kind
  obtain ⟨m, found⟩ := Option.isSome_iff_exists.mp present
  cases kind with
  | firewall => exact h.firewall
  | _ => exact ⟨m, found, rfl⟩

/-! What was called does not matter for any of these. -/

theorem Ready.withCalls (h : Ready key d w) (cs : List Cluster.Call) (ks : List Compute.Call) :
    Ready key d (w.withCalls cs ks) :=
  ⟨h.stored, h.ports, h.slashless, h.machines, h.accepted⟩

theorem Settled.withCalls (h : Settled key d w) (cs : List Cluster.Call) (ks : List Compute.Call) :
    Settled key d (w.withCalls cs ks) :=
  ⟨h.exposed, h.firewall, h.present, h.aligned⟩

theorem Unhindered.withCalls (h : Unhindered w) (cs : List Cluster.Call) (ks : List Compute.Call) :
    Unhindered (w.withCalls cs ks) :=
  ⟨h.cluster, h.compute⟩

/-! ## The first pass -/

/-- A world in which a pass over a workload that can be exposed succeeds. -/
structure Promising (key : ObjectKey) (d : Demand) (w : World) : Prop extends
    Ready key d w, Unhindered w where
  named : w.cluster.Named
  paired : w.compute.store.Paired

theorem Promising.withCalls (h : Promising key d w) (cs : List Cluster.Call)
    (ks : List Compute.Call) : Promising key d (w.withCalls cs ks) :=
  ⟨h.toReady.withCalls cs ks, h.toUnhindered.withCalls cs ks, h.named, h.paired⟩

/-- The finalizer is put on a workload that lacks it. -/
theorem leads_finalize (calm : w.cluster.Calm)
    (stored : w.cluster.statefulSets.get? key = some workload) :
    Leads (if isFinalized workload then pure ()
        else during .finalizer (cluster (.addFinalizer key finalizer))) w
      (fun _ _ v => ∃ statefulSets calls held,
        v = { w with cluster := { w.cluster with statefulSets, calls } } ∧
        statefulSets.get? key = some held ∧ isFinalized held = true ∧
        ∀ d, Asks d workload → Asks d held)
      fun _ _ _ => False := by
  cases finalized : isFinalized workload with
  | true => exact .ok rfl ⟨_, _, workload, rfl, stored, finalized, fun _ asks => asks⟩
  | false =>
    have put := (calm.answer (.addFinalizer key finalizer)).trans
      (Memory.editFinalizers_of_get? (m := w.cluster.note _) stored (withFinalizer finalizer))
    refine ((leads_answered put).during_sure .finalizer).weaken ?_ fun _ _ _ h => h
    intro _ _ _ known
    obtain ⟨-, -, rfl⟩ := known
    exact ⟨_, _, _, rfl, Keyed.get?_insert_self .., isFinalized_refinalized workload,
      fun _ asks => asks.refinalized _⟩

theorem leads_hold (h : Promising key d w)
    (stored : w.cluster.statefulSets.get? key = some workload) (asks : Asks d workload) :
    Leads (if isFinalized workload then pure ()
        else during .finalizer (cluster (.addFinalizer key finalizer))) w
      (fun _ _ v => Promising key d v ∧ ∃ held,
        v.cluster.statefulSets.get? key = some held ∧ isFinalized held = true)
      fun _ _ _ => False := by
  refine (leads_finalize h.cluster stored).weaken ?_ fun _ _ _ h => h
  intro _ _ _ known
  obtain ⟨sets, calls, held, rfl, found, finalized, asks'⟩ := known
  exact ⟨⟨⟨⟨held, found, asks' d asks⟩, h.ports, h.slashless, h.machines, h.accepted⟩,
    ⟨h.toUnhindered.cluster, h.compute⟩, h.named, h.paired⟩, held, found, finalized⟩

/-- What is exposed in the end: the service is in line, the chain of resources is brought about and
the endpoints are the mappings. -/
structure Exposed (key : ObjectKey) (d : Demand) (plan : Plan) (workload : StatefulSet)
    (w v : World) : Prop where
  cluster : ∃ services calls, v.cluster = { w.cluster with services, calls }
  service : NodeService.InLine v.cluster ⟨key.space, (Names.of d.payload.namePrefix).service⟩
    workload d.selector d.payload
  calm : v.compute.Calm
  met : ∀ kind, v.compute.store.Meets ((Names.of d.payload.namePrefix).resource kind)
    (designOf plan.place d.payload kind)
  aligned : Aligned (Names.of d.payload.namePrefix).group d.mappings v.compute.store

/-- The machines of a demand are those that the nodes tell, and its mappings those of its ports on
them. -/
def Given (m : Memory) (key : ObjectKey) (d : Demand) : Prop :=
  MachinesAt m key.space d.selector d.machines ∧
    PortRun.mappings d.payload.ports d.machines = .ok d.mappings

theorem Given.machines {m : Memory} (h : Given m key d) :
    MachinesAt m key.space d.selector d.machines := h.1

theorem Given.mappings {m : Memory} (h : Given m key d) :
    PortRun.mappings d.payload.ports d.machines = .ok d.mappings := h.2

theorem Given.unique {m : Memory} {d' : Demand} (h : Given m key d) (h' : Given m key d')
    (payload : d.payload = d'.payload) (selector : d.selector = d'.selector) : d = d' := by
  obtain ⟨p, labels, machines, mappings⟩ := d
  obtain ⟨p', labels', machines', mappings'⟩ := d'
  obtain rfl : p = p' := payload
  obtain rfl : labels = labels' := selector
  obtain rfl : machines = machines' := h.machines.unique h'.machines
  obtain rfl : mappings = mappings' := Except.ok.inj (h.mappings.symm.trans h'.mappings)
  rfl

/-- Exposing the replicas of a workload brings the service and the chain in order. Where no call
fails, only a slash in the prefix, nodes that do not tell the machines, ports that have no mappings
and mappings that share a port are in the way. -/
theorem leads_exposing {p : Payload} {selector : Labels} (free : Unhindered w)
    (named : w.cluster.Named) (paired : w.compute.store.Paired) (asked : p.ports.isEmpty = false)
    (selects : selector? workload = some selector) (plan : Plan) :
    Leads (expose plan key workload p) w
      (fun _ _ v => ∃ d : Demand, d.payload = p ∧ d.selector = selector ∧ Given w.cluster key d ∧
        Exposed key d plan workload w v)
      fun _ _ _ => '/' ∈ p.namePrefix.toList ∨ ∀ d : Demand, d.payload = p →
        d.selector = selector → Given w.cluster key d → ¬ SinglePorted d.mappings := by
  have service := (NodeService.leads_provide free.cluster named workload
    ⟨key.space, (Names.of p.namePrefix).service⟩ selector p).during_sure .service
  simp only [expose, asked, selects]
  refine service.bind ?_ fun _ _ _ h => h.elim
  intro _ _ _ known
  obtain ⟨services, calls, rfl, service⟩ := known
  refine ((leads_replicaMachines (w := { w with cluster := { w.cluster with
    services, calls } }) plan.lookups key.space selector free.cluster).during .nodes).bind ?_ ?_
  · intro _ machines _ known
    obtain ⟨told, cs, ks, rfl⟩ := known
    refine ((leads_ofExcept .ports (PortRun.mappings p.ports machines) _).during .payload).bind
      ?_ ?_
    · intro _ mappings _ known
      obtain ⟨-, given, rfl⟩ := known
      have all : Given w.cluster key ⟨p, selector, machines, mappings⟩ := ⟨told, given⟩
      let u : World := { w with cluster := { w.cluster with services, calls } }
      refine Leads.weaken (leads_bringAll (w := u.withCalls cs ks) free.compute paired mappings) ?_
        fun _ _ _ stopped => ?_
      · intro _ _ v known
        obtain ⟨brought, aligned⟩ := known
        refine ⟨⟨p, selector, machines, mappings⟩, rfl, rfl, all, ⟨services, cs, brought.cluster⟩,
          ?_, brought.calm, fun kind => brought.met kind (mem_removalOrder kind), aligned⟩
        rw [brought.cluster]
        exact service
      · refine stopped.imp_right fun shared d payload selector given => ?_
        obtain rfl := given.unique all payload selector
        exact shared
    · intro _ _ _ known
      obtain ⟨_, -, -, e, refused, -⟩ := known
      refine .inr fun d payload selector given => ?_
      obtain rfl := payload
      obtain rfl := selector
      obtain rfl := given.machines.unique told
      cases given.mappings.symm.trans refused
  · intro _ _ _ known
    obtain ⟨_, -, untold⟩ := known
    refine .inr fun d payload selector given => ?_
    obtain rfl := selector
    exact absurd given.machines (untold _)

theorem leads_expose (h : Promising key d w) (asks : Asks d workload) (plan : Plan) :
    Leads (expose plan key workload d.payload) w
      (fun _ _ v => Exposed key d plan workload w v) fun _ _ _ => False := by
  have given : Given w.cluster key d := ⟨h.machines, h.accepted.given⟩
  have single : SinglePorted d.mappings := fun a memA b memB same =>
    PortRun.mappings_apart h.accepted memA memB same
  refine (leads_exposing h.toUnhindered h.named h.paired h.ports asks.selector plan).weaken ?_ ?_
  · intro _ _ _ known
    obtain ⟨d', payload, selector, given', exposed⟩ := known
    obtain rfl := given'.unique given payload selector
    exact exposed
  · intro _ _ _ stopped
    rcases stopped with slash | shared
    · exact h.slashless slash
    · exact shared d rfl rfl given single

/-- Once a workload is held and exposed, everything is in order, and the next pass can be made. -/
theorem Exposed.settled {plan : Plan} {stored : StatefulSet} (h : Exposed key d plan workload w v)
    (before : Promising key d w) (found : w.cluster.statefulSets.get? key = some stored)
    (held : isFinalized stored = true) :
    Settled key d v ∧ Ready key d v ∧ Unhindered v := by
  obtain ⟨services, calls, cluster⟩ := h.cluster
  have sets : v.cluster.statefulSets = w.cluster.statefulSets := by rw [cluster]
  refine ⟨⟨⟨stored, sets ▸ found, held, ?_⟩, h.met .firewall,
    fun kind => exists_of_meets (h.met kind), h.aligned⟩,
    ⟨sets ▸ before.stored, before.ports, before.slashless, ?_, before.accepted⟩, ?_, h.calm⟩
  · exact h.service
  · rw [cluster]
    exact before.machines
  · rw [cluster]
    exact before.toUnhindered.cluster

/-- A pass brings everything in order, whatever there was of it before. -/
theorem leads_adoption (plan : Plan) (announced : Announces event key) (h : Promising key d w) :
    Leads (ofEvent plan event) w
      (fun _ _ v => Settled key d v ∧ Ready key d v ∧ Unhindered v) fun _ _ _ => False := by
  obtain ⟨workload, stored, asks⟩ := h.stored
  obtain ⟨text, annotated, parsed⟩ := asks.payload
  have read : Promising key d (w.note (.getStatefulSet key)) :=
    h.withCalls (w.cluster.calls ++ [Cluster.Call.getStatefulSet key]) w.compute.calls
  refine leads_ofEvent announced stored (h.toUnhindered.cluster.not_fails _) ?_
  rw [settle_adopt annotated asks.alive, adopt_eq]
  refine (leads_hold read stored asks).bind ?_ fun _ _ _ h => h
  intro _ _ v known
  obtain ⟨promising, stored', found, held⟩ := known
  refine Leads.bind ((Quiet.ofExcept parsed v).during .payload) ?_ fun _ _ _ h => h
  intro _ _ _ known
  obtain ⟨rfl, -, cs, ks, rfl⟩ := known
  have promising := promising.withCalls cs ks
  exact (leads_expose promising asks plan).weaken
    (fun _ _ _ exposed => exposed.settled promising found held) fun _ _ _ h => h

/-! ## The next pass -/

/-- Where everything is in order, exposing the replicas only looks. -/
theorem quiet_expose (settled : Settled key d w) (ready : Ready key d w) (free : Unhindered w)
    (asks : Asks d workload) (plan : Plan) :
    Quiet (expose plan key workload d.payload) w () := by
  obtain ⟨stored, -, -, inLine⟩ := settled.exposed
  have service : Quiet (NodeService.provide ⟨key.space, (Names.of d.payload.namePrefix).service⟩
      (NodeService.wanted workload ⟨key.space, (Names.of d.payload.namePrefix).service⟩
        d.selector d.payload)) w () := NodeService.quiet_provide free.cluster inLine
  simp only [expose, ready.ports, asks.selector]
  refine (service.during .service).bind fun cs ks => ?_
  refine ((quiet_replicaMachines (w := w.withCalls cs ks) plan.lookups free.cluster
    ready.machines).during .nodes).bind fun cs ks => ?_
  refine ((Quiet.ofExcept ready.accepted.given _).during .payload).bind fun cs ks => ?_
  exact quiet_bringAll (w := w.withCalls cs ks) free.compute (settled.met plan.place)
    settled.aligned

/-- A pass over a workload for which everything is in order only looks. -/
theorem quiet_ofEvent (plan : Plan) (announced : Announces event key) (settled : Settled key d w)
    (ready : Ready key d w) (free : Unhindered w) : Quiet (ofEvent plan event) w () := by
  obtain ⟨workload, stored, held, -⟩ := settled.exposed
  obtain ⟨workload', stored', asks⟩ := ready.stored
  obtain rfl : workload = workload' := Option.some.inj (stored.symm.trans stored')
  obtain ⟨text, annotated, parsed⟩ := asks.payload
  have read : (w.cluster.answer (.getStatefulSet key)).1 = .ok (some workload) := by
    rw [free.cluster.answer, ← stored]
    rfl
  rw [ofEvent_eq announced]
  refine (Quiet.cluster rfl read).bind fun cs ks => ?_
  simp only [settle_adopt annotated asks.alive, adopt_eq, held, if_true]
  refine (Quiet.pure () _).bind fun cs ks => ?_
  refine ((Quiet.ofExcept parsed _).during .payload).bind fun cs ks => ?_
  exact quiet_expose (settled.withCalls cs ks) (ready.withCalls cs ks) (free.withCalls cs ks) asks
    plan

end Pass

namespace Operator

open Pass

/-- A pass for an event succeeds and brings everything in order that is asked for, and the pass for
another event after it succeeds, calls nothing that may change something, and changes nothing. -/
structure Converges (o : Operator) (key : ObjectKey) (d : Demand) (event event' : StatefulSet)
    (s : State) : Prop where
  /-- The first pass succeeds. -/
  succeeds : (o.pass event s).1 = .ok ()
  /-- Everything is in order after it. -/
  settled : Settled key d (o.pass event s).2.world
  /-- The second pass succeeds. -/
  again : (o.pass event' (o.pass event s).2).1 = .ok ()
  /-- It only reads from the cluster. -/
  readsCluster : ∃ calls, (o.pass event' (o.pass event s).2).2.world.cluster.calls =
    (o.pass event s).2.world.cluster.calls ++ calls ∧ ∀ c ∈ calls, c.isWrite = false
  /-- It only reads from the Compute API. -/
  readsCompute : ∃ calls, (o.pass event' (o.pass event s).2).2.world.compute.calls =
    (o.pass event s).2.world.compute.calls ++ calls ∧ ∀ c ∈ calls, c.isWrite = false
  /-- It changes nothing. -/
  unchanged : (o.pass event' (o.pass event s).2).2.world.forgetCalls =
    (o.pass event s).2.world.forgetCalls

/-- Where no call fails, passes over a workload that can be exposed converge, whatever there was of
its resources before. -/
theorem passes_converge (o : Operator) {key : ObjectKey} {d : Demand} {event event' : StatefulSet}
    {s : State} (announced : Announces event key) (announced' : Announces event' key)
    (prompt : s.delays = ∅) (cluster : s.world.cluster.Reachable)
    (compute : s.world.compute.Reachable) (free : Unhindered s.world)
    (ready : Ready key d s.world) : Converges o key d event event' s := by
  have promising : Promising key d s.world := ⟨ready, free, cluster.named, compute.paired⟩
  have first := pass_prompt o event prompt
  cases leads_adoption o.plan announced promising with
  | error _ known => exact known.elim
  | ok outcome known =>
    obtain ⟨settled, ready', free'⟩ := known
    rw [outcome] at first
    have second := pass_prompt o event' (s := (o.pass event s).2) (by rw [first]; exact prompt)
    obtain ⟨again, readsCluster, readsCompute, unchanged⟩ :=
      (quiet_ofEvent o.plan announced' settled ready' free').outcome
    rw [first] at second
    refine ⟨by rw [first], by rw [first]; exact settled, ?_, ?_, ?_, ?_⟩
    · rw [first, second]
      exact again
    · rw [first, second]
      exact readsCluster
    · rw [first, second]
      exact readsCompute
    · rw [first, second]
      exact unchanged

end Operator

namespace Small

/-- What the small workload asks for. -/
def demand : Pass.Demand where
  payload := payload
  selector := selector
  machines := ["projects/p/zones/z/instances/n0"]
  mappings := [⟨5000, "projects/p/zones/z/instances/n0", 30000⟩]

/-- The small world with a firewall that lets nothing through and another endpoint in the group. -/
def staleWorld : Pass.World where
  cluster := cluster
  compute := { place := ⟨"p", "r"⟩
               store := (({} : Store).putFirewall { name := (Names.of "db-").firewall }).putGroup
                 (Names.of "db-").group [⟨5000, "projects/p/zones/z/instances/n1", 30000⟩] }

theorem machinesAt : Pass.MachinesAt cluster key.space selector demand.machines := by
  have listed : (Replica.ofPods (cluster.pods.filter (Memory.selects key.space selector))).map
      (·.node) = ["n0"] := by decide +kernel
  have told : Pass.MachineAt cluster.nodes "n0" "projects/p/zones/z/instances/n0" :=
    ⟨node, by decide +kernel, by decide +kernel⟩
  rw [Pass.MachinesAt, listed]
  exact .cons told .nil

theorem mappings_demand :
    PortRun.mappings demand.payload.ports demand.machines = .ok demand.mappings :=
  eq_ok_of_toOption (by decide +kernel)

theorem ready_demand : Pass.Ready key demand staleWorld where
  stored := ⟨workload, get?_key, ⟨text, payloadText?_workload, parse_text⟩, rfl, by decide +kernel⟩
  ports := by decide +kernel
  slashless := by decide +kernel
  machines := machinesAt
  accepted := ⟨by unfold PortRun.Counts; decide +kernel, mappings_demand⟩

end Small

namespace Operator

/-- Passes over the small workload converge, though its firewall and its endpoints are stale. -/
theorem small_passes_converge :
    Pass.Announces Small.workload Small.key ∧ Small.staleWorld.cluster.Reachable ∧
    Small.staleWorld.compute.Reachable ∧ Pass.Unhindered Small.staleWorld ∧
    Pass.Ready Small.key Small.demand Small.staleWorld ∧
    Converges Small.operator Small.key Small.demand Small.workload Small.workload
      ⟨Small.staleWorld, ∅, .empty⟩ := by
  have cluster : Small.staleWorld.cluster.Reachable :=
    ((Memory.Reachable.fresh.putStatefulSet _).putPod _).putNode _
  have compute : Small.staleWorld.compute.Reachable :=
    ((Simulator.Reachable.fresh _).putFirewall _).putGroup _ _
  have free : Pass.Unhindered Small.staleWorld := ⟨rfl, rfl⟩
  exact ⟨Small.announces_workload, cluster, compute, free, Small.ready_demand,
    passes_converge Small.operator Small.announces_workload Small.announces_workload rfl cluster
      compute free Small.ready_demand⟩

end Operator

end ReplicaPorts
