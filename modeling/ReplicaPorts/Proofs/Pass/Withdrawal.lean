import ReplicaPorts.Proofs.Pass.Convergence
import ReplicaPorts.Proofs.Pass.Tending

/-!
# Withdrawing ports

What a workload exposed under earlier payloads is too much when its payload asks for less: endpoints
in the group, ports of the firewall, ports of the exposure service. Where no call fails, a pass that
succeeds leaves nothing of the sort (`NoSurplus`), as long as the payload still asks for a port. A
payload that asks for none at all ends the pass before it looks at anything: whatever was exposed
stays exposed (`noSurplus_iff`, `small_emptied_stays_exposed`).
-/

set_option autoImplicit false

namespace ReplicaPorts

open Cluster Compute

/-! ## What is in line allows no more -/

/-- An up-to-date firewall lets TCP through, on some of the ports only. -/
theorem Compute.Firewall.allowed_of_fresh {f : Firewall} {ports : List Int32}
    (fresh : f.isStale ports = false) (asked : ports ≠ []) :
    ∀ clause ∈ f.allowed, clause.protocol.any isTcp = true ∧ clause.ports ≠ [] ∧
      ∀ text ∈ clause.ports, ∃ n ∈ ports, text = toString n.toInt := by
  obtain ⟨clause, protocol, sole, given, tcp, texts⟩ := Firewall.isStale_eq_false_iff.mp fresh
  rw [sole, List.forall_mem_singleton, given]
  refine ⟨isTcp_iff.mpr tcp, fun none_ => ?_, fun text mem => ?_⟩
  · rw [none_] at texts
    exact asked (List.map_eq_nil_iff.mp texts.nil_eq.symm)
  · obtain ⟨n, memN, spelled⟩ := List.mem_map.mp (texts.subset mem)
    exact ⟨n, memN, spelled.symm⟩

namespace Pass

variable {key : ObjectKey} {workload event : StatefulSet} {p : Payload} {d : Demand} {w v : World}

/-- A service that is in line has the named ports of the payload only. -/
theorem NodeService.name_of_inLine {existing : Service} {selector : Labels}
    (inLine : deviates existing (wanted workload key selector p) = false) :
    ∀ port ∈ (existing.spec.bind (·.ports)).getD [],
      ∃ name e, port.name = some name ∧ p.ports.get? name = some e := by
  intro port mem
  have same : portTraits existing = portTraits (wanted workload key selector p) := by
    simp only [deviates, Bool.or_eq_false_iff, bne_eq_false_iff_eq] at inLine
    exact inLine.2
  have traits : PortTraits.of port ∈ portTraits existing :=
    List.mem_mergeSort.mpr (List.mem_map.mpr ⟨port, mem, rfl⟩)
  rw [same] at traits
  obtain ⟨port', mem', alike⟩ := List.mem_map.mp (List.mem_mergeSort.mp traits)
  obtain ⟨⟨name, e⟩, asked, rfl⟩ := List.mem_map.mp mem'
  exact ⟨name, e, (congrArg PortTraits.name alike).symm, Keyed.get?_eq_some_iff.mpr asked⟩

/-! ## No more than is asked for -/

/-- An endpoint that the ports of a payload and the replicas of a workload call for. -/
def CalledFor (m : Memory) (key : ObjectKey) (workload : StatefulSet) (p : Payload)
    (e : PortMapping) : Prop :=
  ∃ d : Demand, d.payload = p ∧ selector? workload = some d.selector ∧ Given m key d ∧
    e ∈ d.mappings

/-- Without ports no endpoint is called for. -/
theorem not_calledFor {m : Memory} {e : PortMapping} (none_ : p.ports.isEmpty = true) :
    ¬ CalledFor m key workload p e := by
  intro called
  obtain ⟨d, rfl, -, given, mem⟩ := called
  obtain ⟨x, asked, -⟩ := PortRun.exists_of_mem_mappings given.mappings mem
  rw [show d.payload.ports.toList = [] from List.isEmpty_iff.mp none_] at asked
  cases asked

/-- Whatever is exposed of a workload, its payload asks for. -/
structure NoSurplus (key : ObjectKey) (workload : StatefulSet) (p : Payload) (w : World) :
    Prop where
  /-- The endpoints of the group, if there is one, are called for. -/
  endpoints : ∀ held, w.compute.store.endpoints.get? (Names.of p.namePrefix).group = some held →
    ∀ e ∈ held, CalledFor w.cluster key workload p e
  /-- The firewall, if there is one, lets TCP through on node ports only; a clause that names no
  port would let all of them through. -/
  firewall : ∀ f, w.compute.store.find? .firewall (Names.of p.namePrefix).firewall = some f →
    ∀ clause ∈ f.allowed, clause.protocol.any isTcp = true ∧ clause.ports ≠ [] ∧
      ∀ text ∈ clause.ports, ∃ n ∈ p.nodePorts, text = toString n.toInt
  /-- The ports of the service, if there is one, are named ones. -/
  service : ∀ s, w.cluster.services.get? (serviceOf key p) = some s →
    ∀ port ∈ (s.spec.bind (·.ports)).getD [],
      ∃ name e, port.name = some name ∧ p.ports.get? name = some e

/-- Workloads and calls do not matter. -/
theorem NoSurplus.listing {statefulSets : Keyed ObjectKey StatefulSet} {calls : List Cluster.Call}
    (same : v = { w with cluster := { w.cluster with statefulSets, calls } }) :
    NoSurplus key workload p v ↔ NoSurplus key workload p w := by
  subst same
  exact ⟨fun h => ⟨h.endpoints, h.firewall, h.service⟩,
    fun h => ⟨h.endpoints, h.firewall, h.service⟩⟩

/-- What was just exposed is no more than is asked for. -/
theorem Exposed.noSurplus {plan : Plan} (h : Exposed key d plan workload w v)
    (asked : d.payload.ports.isEmpty = false) (selects : selector? workload = some d.selector)
    (given : Given w.cluster key d) : NoSurplus key workload d.payload v := by
  obtain ⟨services, calls, cluster⟩ := h.cluster
  obtain ⟨held, listed, mem⟩ := h.aligned
  obtain ⟨f, found, fresh⟩ := h.met .firewall
  obtain ⟨s, stored, inLine⟩ := h.service
  refine ⟨fun held' listed' e mem' => ?_, fun f' found' => ?_, fun s' stored' => ?_⟩
  · obtain rfl := Option.some.inj (listed.symm.trans listed')
    refine ⟨d, rfl, selects, ⟨?_, given.mappings⟩, (mem e).mp mem'⟩
    rw [cluster]
    exact given.machines
  · obtain rfl := Option.some.inj (found.symm.trans found')
    exact Firewall.allowed_of_fresh fresh (Payload.nodePorts_ne_nil asked)
  · obtain rfl := Option.some.inj (stored.symm.trans stored')
    exact NodeService.name_of_inLine inLine

/-- A pass over a live workload leaves no surplus if it succeeds and the payload asks for a port; if
it asks for none, only workloads and calls can be others afterwards. -/
theorem leads_withdrawal {text : String} (plan : Plan) (announced : Announces event key)
    (stored : w.cluster.statefulSets.get? key = some workload)
    (annotated : payloadText? workload = some text) (parsed : Payload.parse text = .ok p)
    (alive : isDeleted workload = false) (free : Unhindered w) (named : w.cluster.Named)
    (paired : w.compute.store.Paired) :
    Leads (ofEvent plan event) w
      (fun _ _ v => match p.ports.isEmpty with
        | true => ∃ statefulSets calls,
          v = { w with cluster := { w.cluster with statefulSets, calls } }
        | false => NoSurplus key workload p v)
      fun _ _ _ => True := by
  refine leads_ofEvent announced stored (free.cluster.not_fails _) ?_
  rw [settle_adopt annotated alive, adopt_eq]
  refine (leads_finalize (w := w.note (.getStatefulSet key)) free.cluster stored).bind ?_
    fun _ _ _ h => h.elim
  intro _ _ _ known
  obtain ⟨sets, calls, held, rfl, -⟩ := known
  refine ((leads_ofExcept .payload (Payload.parse text) _).during .payload).bind ?_
    fun _ _ _ _ => trivial
  intro _ p' _ known
  obtain ⟨-, parsed', rfl⟩ := known
  obtain rfl := Except.ok.inj (parsed.symm.trans parsed')
  cases asked : p.ports.isEmpty with
  | true =>
    simp only [expose, asked]
    exact .ok rfl ⟨sets, calls, rfl⟩
  | false =>
    cases selects : selector? workload with
    | none =>
      simp only [expose, asked, selects]
      exact .error rfl trivial
    | some selector =>
      let u : World := { w with cluster := { w.cluster with statefulSets := sets, calls } }
      have free' : Unhindered u := ⟨free.cluster, free.compute⟩
      refine Leads.weaken (leads_exposing free' named paired asked selects plan) ?_
        fun _ _ _ _ => trivial
      intro _ _ _ known
      obtain ⟨d, rfl, rfl, given, exposed⟩ := known
      exact exposed.noSurplus asked selects given

end Pass

namespace Operator

open Pass

/-- Wherever their own operations led a cluster and a Compute API in which no call fails: after a
pass over a live workload succeeded, no more is exposed than its payload asks for, exactly if the
payload asks for some port or no more was exposed before. -/
theorem noSurplus_iff (o : Operator) {event workload : StatefulSet} {key : ObjectKey}
    {text : String} {p : Payload} {s : State} (announced : Announces event key)
    (stored : s.world.cluster.statefulSets.get? key = some workload)
    (annotated : payloadText? workload = some text) (parsed : Payload.parse text = .ok p)
    (alive : isDeleted workload = false) (prompt : s.delays = ∅) (free : Unhindered s.world)
    (cluster : s.world.cluster.Reachable) (compute : s.world.compute.Reachable)
    (succeeds : (o.pass event s).1 = .ok ()) :
    NoSurplus key workload p (o.pass event s).2.world ↔
      p.ports.isEmpty = false ∨ NoSurplus key workload p s.world := by
  have ran := o.pass_prompt event prompt
  cases leads_withdrawal o.plan announced stored annotated parsed alive free cluster.named
    compute.paired with
  | error outcome _ =>
    rw [ran, outcome] at succeeds
    cases succeeds
  | ok outcome known =>
    rw [ran, outcome]
    cases asked : p.ports.isEmpty with
    | true =>
      rw [asked] at known
      obtain ⟨sets, calls, same⟩ := known
      simp [NoSurplus.listing same]
    | false =>
      rw [asked] at known
      exact ⟨fun _ => .inl rfl, fun _ => known⟩

end Operator

end ReplicaPorts

namespace ReplicaPorts.Small

open Cluster

/-- The text of the small workload without any ports. -/
def emptiedText : String :=
  "\x7b\"prefix\":\"db-\",\"nat_subnet_fqns\":[\"projects/p/regions/r/subnetworks/s\"]\x7d"

/-- What the text spells. -/
def emptiedPayload : Payload := { payload with ports := ∅ }

/-- The workload with that text, still held. -/
def emptiedWorkload : StatefulSet :=
  { workload with metadata := { workload.metadata with
    annotations := some (Keyed.ofList [(Pass.payloadKey, emptiedText)])
    finalizers := some [Pass.finalizer] } }

/-- A pass over the small workload, then the edit. -/
def emptied : Operator.State := exposed.storing emptiedWorkload

theorem parse_emptiedText : Payload.parse emptiedText = .ok emptiedPayload :=
  eq_ok_of_toOption (by decide +kernel)

end ReplicaPorts.Small

namespace ReplicaPorts.Operator

open Cluster Compute Pass

/-- When the small workload does not ask for its port any more, the next pass succeeds and leaves
the endpoint of the port in the group. -/
theorem small_emptied_stays_exposed :
    Payload.parse Small.emptiedText = .ok Small.emptiedPayload ∧
    (Small.operator.pass Small.emptiedWorkload Small.emptied).1 = .ok () ∧
    ¬ NoSurplus Small.key Small.emptiedWorkload Small.emptiedPayload
      (Small.operator.pass Small.emptiedWorkload Small.emptied).2.world := by
  have came : (Small.operator.pass Small.emptiedWorkload Small.emptied).1 = .ok () ∧
      (Small.operator.pass Small.emptiedWorkload
        Small.emptied).2.world.compute.store.endpoints.get? (Names.of "db-").group =
          some [⟨5000, "projects/p/zones/z/instances/n0", 30000⟩] := by decide +kernel
  obtain ⟨ended, held⟩ := came
  exact ⟨Small.parse_emptiedText, ended, fun none_ =>
    not_calledFor rfl (none_.endpoints _ held _ List.mem_cons_self)⟩

/-- The pass over the small workload withdraws a stale endpoint. -/
theorem small_noSurplus :
    let s : State := { world := Small.staleWorld }
    (Small.operator.pass Small.workload s).1 = .ok () ∧
    NoSurplus Small.key Small.workload Small.payload
      (Small.operator.pass Small.workload s).2.world := by
  intro s
  have cluster : s.world.cluster.Reachable :=
    ((Memory.Reachable.fresh.putStatefulSet _).putPod _).putNode _
  have compute : s.world.compute.Reachable :=
    ((Simulator.Reachable.fresh _).putFirewall _).putGroup _ _
  have succeeds : (Small.operator.pass Small.workload s).1 = .ok () := by decide +kernel
  exact ⟨succeeds, (noSurplus_iff Small.operator (s := s) Small.announces_workload Small.get?_key
    Small.payloadText?_workload Small.parse_text rfl rfl ⟨rfl, rfl⟩ cluster compute succeeds).mpr
    (.inl (by decide +kernel))⟩

end ReplicaPorts.Operator
