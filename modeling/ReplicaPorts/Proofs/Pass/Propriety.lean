import ReplicaPorts.Compute.Body
import ReplicaPorts.Proofs.Pass.Errand
import ReplicaPorts.Proofs.Pass.Timing
import ReplicaPorts.Proofs.Replica.PortRun

/-!
# What is sent to the Compute API

Every call by which a pass creates or changes something at the Compute API is `Proper`: a firewall
is given the node ports of the payload, at least one, in order and in range; endpoints are attached
for machines that have paths, on ports that are distinct and in range; an attachment has the
consumers of the payload in their order, each with one identifier, and at least one subnetwork. This
holds in every world, whatever the annotation says and whatever calls fail (`calls_proper`), as long
as the replicas are few enough for their ports to be counted.
-/

set_option autoImplicit false

namespace ReplicaPorts

open Cluster Compute

namespace Compute.Body

/-- A body lets TCP through on some ports, which it names. -/
def Lets (ports : List Int32) (body : Json) : Prop :=
  portTexts ports ≠ [] ∧
    Json.member? "allowed" body =
      some (.array [.named [("IPProtocol", .text "tcp"), ("ports", .texts (portTexts ports))]])

theorem portTexts_ne_nil {ports : List Int32} (h : ports ≠ []) : portTexts ports ≠ [] := by
  intro none_
  have length := congrArg List.length none_
  rw [portTexts, List.length_mergeSort, List.length_map] at length
  exact h (List.eq_nil_of_length_eq_zero length)

/-- With ports, the clause has a member that names them. -/
theorem tcpClause_toJson {ports : List Int32} (h : ports ≠ []) :
    (tcpClause ports).toJson =
      .named [("IPProtocol", .text "tcp"), ("ports", .texts (portTexts ports))] := by
  have some_ : (portTexts ports).isEmpty = false :=
    List.isEmpty_eq_false_iff.mpr (portTexts_ne_nil h)
  simp only [AllowClause.toJson, tcpClause, Json.record, Json.Member.unlessNone,
    Json.Member.unlessNil, some_]
  rfl

theorem lets_portsUpdate {ports : List Int32} (h : ports ≠ []) :
    Lets ports (portsUpdate ports) := by
  refine ⟨portTexts_ne_nil h, ?_⟩
  rw [portsUpdate, tcpClause_toJson h]
  rfl

theorem lets_creation {ports : List Int32} (h : ports ≠ []) (scope : Scope) (name : String) :
    Lets ports (creation scope name (.firewall ports)) := by
  refine ⟨portTexts_ne_nil h, ?_⟩
  simp only [creation, Firewall.toJson, Json.Member.unlessNil, List.isEmpty_cons, List.map_cons,
    tcpClause_toJson h]
  rfl

end Compute.Body

namespace Pass

variable {p : Payload}

/-- The ports that a firewall is given: the node ports of a payload, in order. -/
structure NodePorts (p : Payload) (ports : List Int32) : Prop where
  nonempty : ports ≠ []
  ascending : ports.Pairwise (· < ·)
  exact_ : ∀ n, n ∈ ports ↔ ∃ e ∈ p.ports.values, e.nodePort = n
  inRange : ∀ n ∈ ports, Payload.InRange n

/-- Mappings that may be attached for a payload. -/
structure Attachable (p : Payload) (ms : List PortMapping) : Prop where
  distinct : ms.Pairwise fun a b => a.port ≠ b.port
  inRange : ∀ m ∈ ms, Payload.InRange m.port
  nodePort : ∀ m ∈ ms, ∃ e ∈ p.ports.values, e.nodePort = m.instancePort
  machine : ∀ m ∈ ms, Path.IsMachine m.instancePath

/-- Consumers and subnetworks that an attachment may have for a payload. -/
structure Publishable (p : Payload) (consumers : List ConsumerLimit) (subnets : List String) :
    Prop where
  consumers : List.Forall₂ Payload.Identifies p.consumers consumers
  nonempty : subnets ≠ []
  subnets : ∀ subnet ∈ subnets, Path.IsSubnetwork subnet

/-- A call to the Compute API carries what it should for a payload. -/
def Proper (p : Payload) : Compute.Call → Prop
  | .create name (.firewall ports) =>
    NodePorts p ports ∧ ∀ scope, Body.Lets ports (Body.creation scope name (.firewall ports))
  | .updateFirewall _ ports => NodePorts p ports ∧ Body.Lets ports (Body.portsUpdate ports)
  | .attachEndpoints _ ms => Attachable p ms
  | .create _ (.attachment _ consumers subnets) => Publishable p consumers subnets
  | _ => True

theorem nodePorts_of_parse {text : String} (parsed : Payload.parse text = .ok p)
    (asked : p.ports.isEmpty = false) : NodePorts p p.nodePorts :=
  ⟨Payload.nodePorts_ne_nil asked, p.nodePorts_ascending, fun _ => Payload.mem_nodePorts,
    Payload.nodePorts_inRange parsed⟩

/-- Mappings of the ports of an accepted payload on machines that nodes told may be attached, and so
may some of them. -/
theorem attachable_of_mapped {text : String} {listed : List Pod → Prop}
    {mappings lacking : List PortMapping} (parsed : Payload.parse text = .ok p)
    (few : ∀ pods, listed pods → (Replica.ofPods pods).length ≤ 2147418112)
    (mapped : Mapped listed p mappings) (sub : lacking.Sublist mappings) :
    Attachable p lacking := by
  obtain ⟨pods, paths, listed, count, told, given⟩ := mapped
  have accepted : PortRun.Accepts p.ports paths mappings := by
    refine ⟨PortRun.counts_of_parse parsed ?_, given⟩
    have bound := few pods listed
    rw [count, Int32.toInt_maxValue, show PortRun.maxPort.toInt = 65535 from rfl]
    omega
  have positive : ∀ x ∈ p.ports.toList, 1 ≤ x.2.startingPort.toInt := fun x mem =>
    ((Payload.sound_of_parse parsed).ports _ (List.mem_map_of_mem mem) .startingPort).1
  refine ⟨(PortRun.mappings_pairwise accepted).sublist sub, fun m mem => ?_, fun m mem => ?_,
    fun m mem => ?_⟩
  · exact PortRun.mappings_inRange accepted positive (sub.subset mem)
  · obtain ⟨x, memX, _, _, _, rfl⟩ := PortRun.exists_of_mem_mappings given (sub.subset mem)
    exact ⟨x.2, List.mem_map_of_mem memX, rfl⟩
  · obtain ⟨_, _, path, i, at_, rfl⟩ := PortRun.exists_of_mem_mappings given (sub.subset mem)
    obtain ⟨id, named⟩ := told path (List.mem_of_getElem? at_)
    exact Replica.isMachine_of_machinePath? named

/-- What is asked to bring the resources of an accepted payload about is proper. -/
theorem proper_of_provision {text : String} {place : Location} {listed : List Pod → Prop}
    {mappings : List PortMapping} {c : Compute.Call} (parsed : Payload.parse text = .ok p)
    (asked : p.ports.isEmpty = false)
    (few : ∀ pods, listed pods → (Replica.ofPods pods).length ≤ 2147418112)
    (mapped : Mapped listed p mappings) (h : Provision place p mappings c) : Proper p c := by
  have ports := nodePorts_of_parse parsed asked
  cases h with
  | get kind => exact trivial
  | listEndpoints => exact trivial
  | detachEndpoints surplus => exact trivial
  | updateFirewall => exact ⟨ports, Body.lets_portsUpdate ports.nonempty⟩
  | attachEndpoints sub => exact attachable_of_mapped parsed few mapped sub
  | create kind =>
    cases kind with
    | firewall => exact ⟨ports, fun scope => Body.lets_creation ports.nonempty scope _⟩
    | attachment =>
      have sound := Payload.sound_of_parse parsed
      exact ⟨Payload.consumers_of_parse parsed, sound.some_, sound.subnets⟩
    | _ => exact trivial

/-- What is known in a world with some pods of a workload of a key: its text and its selector. -/
def carrying (key : ObjectKey) (text : String) (selector : Option Labels) (pods : List Pod) :
    Findings where
  workload k s := k = key → payloadText? s = some text ∧ selector? s = selector
  pods space labels found := found = pods.filter (Memory.selects space labels)
  service _ _ := True

theorem carrying_stable (key : ObjectKey) (text : String) (selector : Option Labels)
    (pods : List Pod) : (carrying key text selector pods).Stable :=
  ⟨fun _ _ _ known => known, fun _ _ _ _ _ _ => trivial⟩

end Pass

namespace Operator

open Pass

/-- Whatever the annotation says, whatever the cluster and the Compute API hold and whatever calls
fail or take time, every call that a pass makes to the Compute API is proper for the payload that
the annotation spells, provided that the sums of ports and replicas can be counted. -/
theorem calls_proper (o : Operator) {event w : StatefulSet} {key : ObjectKey} {text : String}
    {s : State} (announced : Announces event key)
    (stored : s.world.cluster.statefulSets.get? key = some w)
    (annotated : payloadText? w = some text)
    (few : ∀ selector, selector? w = some selector →
      (Replica.ofPods (s.world.cluster.pods.filter
        (Memory.selects key.space selector))).length ≤ 2147418112) :
    ∃ calls, (o.pass event s).2.world.compute.calls = s.world.compute.calls ++ calls ∧
      ∀ c ∈ calls, ∃ p, Payload.decode text = .ok p ∧ Proper p c := by
  obtain ⟨calls, first, made⟩ := o.pass_computeCalls event s
  refine ⟨calls, made, fun c mem => ?_⟩
  have known : (carrying key text (selector? w) s.world.cluster.pods).Hold s.world := by
    refine ⟨fun k v found same => ?_, fun _ _ => rfl, fun _ _ _ => trivial⟩
    subst same
    obtain rfl := Option.some.inj (stored.symm.trans found)
    exact ⟨annotated, rfl⟩
  obtain ⟨⟨ask, answer⟩, asked, listed⟩ := List.mem_filterMap.mp (first.subset mem)
  have errand := (sticks_ofEvent o.plan announced _ _ (Program.path_run World.answer _ _)
    (known.transcript (carrying_stable ..) _)).1 _ asked
  cases errand with
  | provision granted mapped provision =>
    obtain rfl := Option.some.inj listed
    obtain ⟨text', annotated', parsed⟩ := granted.accepted
    obtain ⟨same, selects⟩ := granted.found rfl
    obtain rfl := Option.some.inj (annotated'.symm.trans same)
    refine ⟨_, (Payload.parse_eq_ok_iff.mp parsed).1,
      proper_of_provision parsed granted.ports (fun pods listed => ?_) mapped provision⟩
    rw [listed]
    exact few _ (selects.symm.trans granted.selects)
  | delete spelled kind =>
    obtain rfl := Option.some.inj listed
    obtain ⟨v, text', found, annotated', decoded⟩ := spelled
    obtain rfl := Option.some.inj (annotated'.symm.trans (found rfl).1)
    exact ⟨_, decoded, trivial⟩
  | _ => cases listed

/-- The calls of a pass over the small workload are proper; one of them attaches an endpoint. -/
theorem small_calls_proper :
    let s : State := { world := Small.world }
    let calls := (Small.operator.pass Small.workload s).2.world.compute.calls
    .attachEndpoints (Names.of "db-").group [⟨5000, "projects/p/zones/z/instances/n0", 30000⟩] ∈
        calls ∧
      ∀ c ∈ calls, ∃ p, Payload.decode Small.text = .ok p ∧ Proper p c := by
  intro s calls
  have few : ∀ selector, selector? Small.workload = some selector →
      (Replica.ofPods (s.world.cluster.pods.filter
        (Memory.selects Small.key.space selector))).length ≤ 2147418112 := by
    intro selector selects
    have same : selector? Small.workload = some Small.selector := by decide +kernel
    obtain rfl := Option.some.inj (same.symm.trans selects)
    have one : (Replica.ofPods (s.world.cluster.pods.filter
        (Memory.selects Small.key.space Small.selector))).length = 1 := by decide +kernel
    omega
  obtain ⟨made, all, proper⟩ := calls_proper Small.operator (s := s) Small.announces_workload
    Small.get?_key Small.payloadText?_workload few
  have same : calls = made := all
  refine ⟨by decide +kernel, ?_⟩
  rw [same]
  exact proper

end Operator

end ReplicaPorts
