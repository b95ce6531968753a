import Mathlib.Data.List.Forall2
import ReplicaPorts.Pass.NodeService
import ReplicaPorts.Proofs.Cluster.Reachable
import ReplicaPorts.Proofs.Pass.Quiet
import ReplicaPorts.Proofs.Replica.Machine

/-!
# Exposing a workload in the cluster

In a cluster that fails no call (`Memory.Calm`) the exposure service exists after it was provided
and is not out of line any more, whatever service there was under its name (`leads_provide`); one
that is in line is only read (`quiet_provide`). The machines of the replicas are looked up without
changing anything, provided that every node is there and tells its machine
(`quiet_replicaMachines`).
-/

set_option autoImplicit false

namespace ReplicaPorts

open Cluster

/-- No call is told to fail. -/
def Cluster.Memory.Calm (m : Memory) : Prop := m.failures = []

theorem Cluster.Memory.Calm.not_fails {m : Memory} (calm : m.Calm) (c : Call) :
    m.fails c = false := by
  rw [fails, show m.failures = [] from calm]
  simp

theorem Cluster.Memory.Calm.answer {m : Memory} (calm : m.Calm) (c : Call) :
    m.answer c = perform c (m.note c) :=
  answer_of_not_fails (calm.not_fails c)

namespace Pass

variable {w : World}

/-! ## The machines -/

/-- A node is there and tells its machine. -/
def MachineAt (nodes : Keyed String Node) (node path : String) : Prop :=
  ∃ n, nodes.get? node = some n ∧ Replica.machinePath? (n.providerId.getD "") = some path

theorem quiet_node {name : String} {n : Node} (calm : w.cluster.Calm)
    (there : w.cluster.nodes.get? name = some n) (ahead : List String) :
    Quiet (node name ahead) w n := by
  have answered : w.cluster.answer (.getNode name) = (.ok n, w.cluster.note (.getNode name)) := by
    rw [calm.answer]
    simp only [Memory.perform, Memory.note, there]
  have outcome : (node name ahead).outcome w =
      (.ok n, w.withCalls (w.cluster.calls ++ [.getNode name]) w.compute.calls) := by
    show ((w.cluster.answer (.getNode name)).1.mapError Error.cluster,
      { w with cluster := (w.cluster.answer (.getNode name)).2 }) = _
    rw [answered]
    rfl
  exact .ok outcome ⟨rfl, List.forall_mem_singleton.mpr rfl, _, _, rfl⟩

theorem quiet_machinesOf {nodes : Keyed String Node} {names paths : List String} (lookups : Nat)
    (told : List.Forall₂ (MachineAt nodes) names paths) (calm : w.cluster.Calm)
    (same : w.cluster.nodes = nodes) : Quiet (machinesOf lookups names) w paths := by
  induction told generalizing w with
  | nil => exact Quiet.pure [] w
  | @cons name path names paths at_ _ ih =>
    obtain ⟨n, there, told⟩ := at_
    have machine : machineOf name n.providerId = .ok path := machineOf_eq_ok_iff.mpr told
    rw [machinesOf]
    refine (quiet_node calm (same ▸ there) _).bind fun cs ks => ?_
    refine (Quiet.ofExcept machine _).bind fun cs ks => ?_
    exact Quiet.bind (ih calm same) fun cs ks => Quiet.pure _ _

/-- The nodes of the replicas that labels select tell these machines. -/
def MachinesAt (m : Memory) (space : String) (selector : Labels) (machines : List String) : Prop :=
  List.Forall₂ (MachineAt m.nodes)
    ((Replica.ofPods (m.pods.filter (Memory.selects space selector))).map (·.node)) machines

/-- The machines are looked up, and nothing is changed. -/
theorem quiet_replicaMachines {space : String} {selector : Labels} {machines : List String}
    (lookups : Nat) (calm : w.cluster.Calm)
    (told : MachinesAt w.cluster space selector machines) :
    Quiet (replicaMachines lookups space selector) w machines := by
  have listed : (w.cluster.answer (.listPods space selector)).1 =
      .ok (w.cluster.pods.filter (Memory.selects space selector)) := by
    rw [calm.answer]
    rfl
  exact (Quiet.cluster rfl listed).bind fun cs ks => quiet_machinesOf lookups told calm rfl

theorem MachineAt.unique {nodes : Keyed String Node} {node path path' : String}
    (h : MachineAt nodes node path) (h' : MachineAt nodes node path') : path = path' := by
  obtain ⟨n, there, told⟩ := h
  obtain ⟨n', there', told'⟩ := h'
  obtain rfl := Option.some.inj (there.symm.trans there')
  exact Option.some.inj (told.symm.trans told')

/-- The nodes tell no other machines. -/
theorem MachinesAt.unique {m : Memory} {space : String} {selector : Labels}
    {machines machines' : List String} (h : MachinesAt m space selector machines)
    (h' : MachinesAt m space selector machines') : machines = machines' := by
  have functional : Relator.RightUnique (MachineAt m.nodes) := fun _ _ _ told told' =>
    told.unique told'
  exact functional.forall₂ h h'

theorem leads_node (calm : w.cluster.Calm) (name : String) (ahead : List String) :
    Leads (node name ahead) w
      (fun _ n v => w.cluster.nodes.get? name = some n ∧ ∃ cs, v = w.withCalls cs w.compute.calls)
      fun _ _ _ => w.cluster.nodes.get? name = none := by
  have answered : (node name ahead).outcome w =
      ((w.cluster.answer (.getNode name)).1.mapError Error.cluster,
        { w with cluster := (w.cluster.answer (.getNode name)).2 }) := rfl
  rw [calm.answer] at answered
  simp only [Memory.perform, Memory.note] at answered
  cases there : w.cluster.nodes.get? name with
  | some n =>
    rw [there] at answered
    exact .ok answered ⟨rfl, _, rfl⟩
  | none =>
    rw [there] at answered
    exact .error answered rfl

/-- The machines of some nodes are looked up as long as every node is there and tells of its
machine. -/
theorem leads_machinesOf (lookups : Nat) (names : List String) (calm : w.cluster.Calm) :
    Leads (machinesOf lookups names) w
      (fun _ paths v => List.Forall₂ (MachineAt w.cluster.nodes) names paths ∧
        ∃ cs ks, v = w.withCalls cs ks)
      fun _ _ _ => ∀ paths, ¬ List.Forall₂ (MachineAt w.cluster.nodes) names paths := by
  induction names generalizing w with
  | nil => exact .ok rfl ⟨.nil, _, _, rfl⟩
  | cons name names ih =>
    rw [machinesOf]
    refine (leads_node calm name _).bind ?_ ?_
    · intro _ n _ known
      obtain ⟨there, cs, rfl⟩ := known
      refine (leads_ofExcept id (machineOf name n.providerId) _).bind ?_ ?_
      · intro _ path _ known
        obtain ⟨-, told, rfl⟩ := known
        have at_ : MachineAt w.cluster.nodes name path := ⟨n, there, machineOf_eq_ok_iff.mp told⟩
        refine (ih (w := w.withCalls cs w.compute.calls) calm).bind ?_ ?_
        · intro _ paths _ known
          obtain ⟨rest, cs', ks', rfl⟩ := known
          exact .ok rfl ⟨.cons at_ rest, cs', ks', rfl⟩
        · intro _ _ _ missing paths all
          cases all with
          | cons _ rest => exact missing _ rest
      · intro _ _ _ known paths all
        obtain ⟨-, _, untold, -⟩ := known
        cases all with
        | cons at_ _ =>
          obtain ⟨n', there', told⟩ := at_
          obtain rfl := Option.some.inj (there.symm.trans there')
          cases (machineOf_eq_ok_iff.mpr told).symm.trans untold
    · intro _ _ _ missing paths all
      cases all with
      | cons at_ _ =>
        obtain ⟨n, there, -⟩ := at_
        rw [missing] at there
        cases there

/-- The machines of the replicas are looked up, or the nodes do not tell them all. -/
theorem leads_replicaMachines (lookups : Nat) (space : String) (selector : Labels)
    (calm : w.cluster.Calm) :
    Leads (replicaMachines lookups space selector) w
      (fun _ machines v => MachinesAt w.cluster space selector machines ∧
        ∃ cs ks, v = w.withCalls cs ks)
      fun _ _ _ => ∀ machines, ¬ MachinesAt w.cluster space selector machines := by
  have listed : w.cluster.answer (.listPods space selector) =
      (.ok (w.cluster.pods.filter (Memory.selects space selector)), w.cluster.note _) :=
    calm.answer _
  refine (leads_answered listed).bind ?_ fun _ _ _ h => h.elim
  intro _ _ _ known
  obtain ⟨-, rfl, rfl⟩ := known
  exact leads_machinesOf (w := { w with cluster := w.cluster.note _ }) lookups _ calm

/-! ## The service -/

namespace NodeService

variable {workload : StatefulSet} {key : ObjectKey} {selector : Labels} {p : Payload}

/-- A service that has the label, the way to be reached and the ports of a wanted one is in line. -/
theorem deviates_eq_false {existing wanted : Service} {spec goal : ServiceSpec}
    (label : existing.metadata.label? managerLabel = wanted.metadata.label? managerLabel)
    (asks : existing.spec = some spec) (asked : wanted.spec = some goal)
    (type : spec.type = goal.type)
    (policy : spec.externalTrafficPolicy = goal.externalTrafficPolicy)
    (selector : spec.selector = goal.selector) (ports : spec.ports = goal.ports) :
    deviates existing wanted = false := by
  simp [deviates, portTraits, label, asks, asked, type, policy, selector, ports]

/-- What is stored when a service is created. -/
def created (wanted : Service) : Service :=
  { wanted with metadata := { wanted.metadata with resourceVersion := some "1" } }

theorem deviates_created :
    deviates (created (wanted workload key selector p)) (wanted workload key selector p) = false :=
  deviates_eq_false rfl rfl rfl rfl rfl rfl rfl

/-- A mended service is in line, whatever it was before. -/
theorem deviates_mended (existing : Service) :
    deviates (mended existing (wanted workload key selector p)) (wanted workload key selector p) =
      false := by
  refine deviates_eq_false ?_ rfl rfl rfl rfl rfl rfl
  exact Keyed.get?_insert_self _ managerLabel manager

theorem serviceKey_wanted :
    Memory.serviceKey key.space (wanted workload key selector p) = key := rfl

theorem serviceKey_mended (space : String) (existing wanted : Service) :
    Memory.serviceKey space (mended existing wanted) = Memory.serviceKey space existing := rfl

/-- The service of a key is in line with what is wanted for a workload. -/
def InLine (m : Memory) (key : ObjectKey) (workload : StatefulSet) (selector : Labels)
    (p : Payload) : Prop :=
  ∃ service, m.services.get? key = some service ∧
    deviates service (wanted workload key selector p) = false

/-- A world with another service under a key. -/
def withService (w : World) (key : ObjectKey) (s : Service) (calls : List Cluster.Call) : World :=
  { w with cluster := { w.cluster with services := w.cluster.services.insert key s, calls } }

theorem leads_create (calm : w.cluster.Calm) {space : String} {s : Service}
    (missing : w.cluster.services.get? (Memory.serviceKey space s) = none) :
    Leads (cluster (.createService space s)) w
      (fun _ _ v => ∃ calls, v = withService w (Memory.serviceKey space s) (created s) calls)
      fun _ _ _ => False := by
  have free : (w.cluster.note (.createService space s)).services.contains
      (Memory.serviceKey space s) = false := by
    show (w.cluster.services.get? _).isSome = false
    rw [missing]
    rfl
  have put : w.cluster.answer (.createService space s) =
      (.ok (), (w.cluster.note (.createService space s)).putService space (created s)) := by
    rw [calm.answer]
    exact if_neg (Bool.eq_false_iff.mp free)
  exact (leads_answered put).weaken (fun _ _ _ ⟨_, _, left⟩ => ⟨_, left⟩) fun _ _ _ h => h

theorem leads_update (calm : w.cluster.Calm) (space : String) (s : Service) :
    Leads (cluster (.updateService space s)) w
      (fun _ _ v => ∃ calls, v = withService w (Memory.serviceKey space s) s calls)
      fun _ _ _ => False :=
  (leads_answered (calm.answer _)).weaken (fun _ _ _ ⟨_, _, left⟩ => ⟨_, left⟩) fun _ _ _ h => h

/-- The exposure service is brought in line, whatever service there was under its name. -/
theorem leads_provide (calm : w.cluster.Calm) (named : w.cluster.Named) (workload : StatefulSet)
    (key : ObjectKey) (selector : Labels) (p : Payload) :
    Leads (provide key (wanted workload key selector p)) w
      (fun _ _ v => ∃ services calls,
        v = { w with cluster := { w.cluster with services, calls } } ∧
        InLine v.cluster key workload selector p)
      fun _ _ _ => False := by
  have read : w.cluster.answer (.getService key) =
      (.ok (w.cluster.services.get? key), w.cluster.note (.getService key)) := calm.answer _
  refine (leads_answered read).bind ?_ fun _ _ _ h => h
  intro _ _ _ known
  obtain ⟨rfl, rfl, rfl⟩ := known
  cases stored : w.cluster.services.get? key with
  | none =>
    have missing : (w.cluster.note (.getService key)).services.get?
        (Memory.serviceKey key.space (wanted workload key selector p)) = none := by
      rw [serviceKey_wanted]
      exact stored
    refine (leads_create (w := { w with cluster := w.cluster.note _ }) calm missing).weaken ?_
      fun _ _ _ h => h
    intro _ _ _ known
    obtain ⟨calls, rfl⟩ := known
    rw [serviceKey_wanted]
    exact ⟨_, calls, rfl, _, Keyed.get?_insert_self .., deviates_created⟩
  | some existing =>
    cases stale : deviates existing (wanted workload key selector p) with
    | false =>
      simp only [stale]
      exact .ok rfl ⟨_, _, rfl, existing, stored, stale⟩
    | true =>
      have own := named key existing stored
      rw [← serviceKey_mended _ existing (wanted workload key selector p)] at own
      simp only [stale, if_true]
      refine (leads_update (w := { w with cluster := w.cluster.note _ }) calm key.space
        (mended existing _)).weaken ?_ fun _ _ _ h => h
      intro _ _ _ known
      obtain ⟨calls, rfl⟩ := known
      rw [own]
      exact ⟨_, calls, rfl, _, Keyed.get?_insert_self .., deviates_mended existing⟩

/-- A service that is in line is only read. -/
theorem quiet_provide {workload : StatefulSet} {key : ObjectKey} {selector : Labels} {p : Payload}
    (calm : w.cluster.Calm) (inLine : InLine w.cluster key workload selector p) :
    Quiet (provide key (wanted workload key selector p)) w () := by
  obtain ⟨service, stored, fresh⟩ := inLine
  have read : (w.cluster.answer (.getService key)).1 = .ok (some service) := by
    rw [calm.answer, ← stored]
    rfl
  refine (Quiet.cluster rfl read).bind fun cs ks => ?_
  simp only [fresh]
  exact Quiet.pure () _

end NodeService

end Pass

end ReplicaPorts
