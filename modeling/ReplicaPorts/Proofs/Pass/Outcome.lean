import ReplicaPorts.Operator
import ReplicaPorts.Proofs.Cluster.Memory
import ReplicaPorts.Proofs.Compute.Simulator
import ReplicaPorts.Proofs.Program.Invariant

/-!
# Outcomes of passes

What a pass gives in a world, what it leaves there and what it asked. The calls that a world lists
grow by those of the transcript. A pass that an operator makes where calls take no time comes out as
the same pass in a world without a clock (`pass_prompt`), since then the deadline is never reached.
-/

set_option autoImplicit false

namespace ReplicaPorts

namespace Pass

variable {α : Type}

/-- What a pass gives in a world, and the world after it. -/
def outcome (p : Pass α) (w : World) : Except Error α × World := p.run.run World.answer w

/-- What a pass asks in a world, with the answers. -/
def transcript (p : Pass α) (w : World) : List (Event asks) := p.run.trace World.answer w

theorem outcome_bind {β : Type} (p : Pass α) (f : α → Pass β) (w : World) :
    (p >>= f : Pass β).outcome w =
      match (p.outcome w).1 with
      | .ok a => (f a).outcome (p.outcome w).2
      | .error e => (.error e, (p.outcome w).2) := by
  simp only [outcome, ExceptT.run_bind, Program.bind_eq]
  rw [Program.run_bind]
  cases (p.run.run World.answer w).1 <;> rfl

theorem transcript_bind {β : Type} (p : Pass α) (f : α → Pass β) (w : World) :
    (p >>= f : Pass β).transcript w =
      p.transcript w ++
        match (p.outcome w).1 with
        | .ok a => (f a).transcript (p.outcome w).2
        | .error _ => [] := by
  simp only [outcome, transcript, ExceptT.run_bind, Program.bind_eq]
  rw [Program.trace_bind]
  cases (p.run.run World.answer w).1 <;> rfl

theorem outcome_cluster (c : Cluster.Call) (w : World) :
    (cluster c).outcome w =
      ((w.answerCluster c).1.mapError .cluster, (w.answerCluster c).2) := rfl

theorem transcript_cluster (c : Cluster.Call) (w : World) :
    (cluster c).transcript w = [⟨.cluster c, (w.answerCluster c).1⟩] := rfl

/-! ## Calls and pods -/

/-- The call to the cluster that is listed for an ask. -/
def Ask.clusterCall? : Ask → Option Cluster.Call
  | .cluster c => some c
  | .node name _ => some (.getNode name)
  | .compute _ => none

/-- The call to the Compute API that is listed for an ask. -/
def Ask.computeCall? : Ask → Option Compute.Call
  | .compute c => some c
  | _ => none

/-- The calls to the cluster among some events. -/
def clusterCalls (t : List (Event asks)) : List Cluster.Call := t.filterMap (·.op.clusterCall?)

/-- The calls to the Compute API among some events. -/
def computeCalls (t : List (Event asks)) : List Compute.Call := t.filterMap (·.op.computeCall?)

theorem outcome_clusterCalls (p : Pass α) (w : World) :
    (p.outcome w).2.cluster.calls = w.cluster.calls ++ clusterCalls (p.transcript w) := by
  refine Program.log_run (fun w : World => w.cluster.calls) Ask.clusterCall? (fun op w => ?_)
    p.run w
  cases op with
  | cluster c => exact Cluster.Memory.answer_calls c w.cluster
  | compute c => exact (List.append_nil _).symm
  | node name ahead => exact Cluster.Memory.answer_calls (.getNode name) w.cluster

/-- An answer lists the call to the Compute API that was asked for, if it was one. -/
theorem answer_computeCalls (a : Ask) (w : World) :
    (w.answer a).2.compute.calls = w.compute.calls ++ a.computeCall?.toList := by
  cases a with
  | compute c => exact Compute.Simulator.answer_calls c w.compute
  | cluster c => exact (List.append_nil _).symm
  | node name ahead => exact (List.append_nil _).symm

theorem computeCalls_cons (ev : Event asks) (t : List (Event asks)) :
    computeCalls (ev :: t) = ev.op.computeCall?.toList ++ computeCalls t := by
  unfold computeCalls
  cases h : ev.op.computeCall? <;> simp [h]

theorem outcome_computeCalls (p : Pass α) (w : World) :
    (p.outcome w).2.compute.calls = w.compute.calls ++ computeCalls (p.transcript w) := by
  refine Program.log_run (fun w : World => w.compute.calls) Ask.computeCall? ?_ p.run w
  exact fun op w => answer_computeCalls op w

theorem answer_pods (a : Ask) (w : World) : (w.answer a).2.cluster.pods = w.cluster.pods := by
  cases a with
  | cluster c => exact Cluster.Memory.answer_pods c w.cluster
  | compute c => rfl
  | node name ahead => exact Cluster.Memory.answer_pods (.getNode name) w.cluster

/-- An event announces a managed workload of a key. -/
structure Announces (event : Cluster.StatefulSet) (key : Cluster.ObjectKey) : Prop where
  space : event.metadata.space = some key.space
  name : event.metadata.name = some key.name
  managed : (hasPayload event || isFinalized event) = true

theorem ofEvent_eq {plan : Plan} {event : Cluster.StatefulSet} {key : Cluster.ObjectKey}
    (h : Announces event key) :
    ofEvent plan event = (cluster (.getStatefulSet key) >>= fun
      | none => pure ()
      | some w => settle plan key w) := by
  simp only [ofEvent, h.managed, if_true, h.space, h.name]
  rfl

/-- A world in which a call to the cluster was listed. -/
def World.note (w : World) (c : Cluster.Call) : World := { w with cluster := w.cluster.note c }

/-- A pass for an announced workload reads it first; then it does what the stored workload asks for,
unless reading failed. -/
theorem ofEvent_reads (plan : Plan) {event : Cluster.StatefulSet} {key : Cluster.ObjectKey}
    (announced : Announces event key) {w : Cluster.StatefulSet} {v : World}
    (stored : v.cluster.statefulSets.get? key = some w) :
    (∃ e, (ofEvent plan event).transcript v = [⟨.cluster (.getStatefulSet key), .error e⟩] ∧
      (ofEvent plan event).outcome v = (.error (.cluster e), v.note (.getStatefulSet key))) ∨
    (ofEvent plan event).transcript v = ⟨.cluster (.getStatefulSet key), .ok (some w)⟩ ::
        (settle plan key w).transcript (v.note (.getStatefulSet key)) ∧
      (ofEvent plan event).outcome v =
        (settle plan key w).outcome (v.note (.getStatefulSet key)) := by
  rw [ofEvent_eq announced, transcript_bind, outcome_bind, transcript_cluster, outcome_cluster]
  unfold World.answerCluster
  cases fails : v.cluster.fails (.getStatefulSet key) with
  | true =>
    rw [Cluster.Memory.answer_of_fails fails]
    exact .inl ⟨_, rfl, rfl⟩
  | false =>
    have found : (v.cluster.answer (.getStatefulSet key)) =
        (.ok (some w), v.cluster.note (.getStatefulSet key)) := by
      rw [Cluster.Memory.answer_of_not_fails fails, ← stored]
      rfl
    rw [found]
    exact .inr ⟨rfl, rfl⟩

/-! ## Passes of an operator -/

/-- Calls take no time, nothing is under way, and the deadline is not over. -/
structure Clock.Prompt (t : Clock) : Prop where
  delays : t.delays = ∅
  underWay : t.underWay = []
  inTime : t.now ≤ t.deadline

theorem Clock.delayOf_of_empty {t : Clock} (h : t.delays = ∅) (c : Cluster.Call) :
    t.delayOf c = 0 := by
  have undelayed : c.selectors.findSome? t.delays.get? = none := by
    rw [h]
    exact List.findSome?_eq_none_iff.mpr fun _ _ => rfl
  rw [delayOf, undelayed]
  rfl

theorem Clock.answer_prompt (a : Ask) {t : Clock} (h : t.Prompt) :
    t.answer a = (some (t.world.answer a).1, { t with world := (t.world.answer a).2 }) := by
  obtain ⟨world, delays, deadline, now, underWay⟩ := t
  obtain ⟨rfl, rfl, inTime⟩ := h
  have delay : ∀ c : Cluster.Call, ((c.selectors.findSome? fun s =>
      (∅ : Keyed String Nat).get? s).getD 0) = 0 :=
    delayOf_of_empty (t := ⟨world, ∅, deadline, now, []⟩) rfl
  cases a with
  | compute c => rfl
  | cluster c =>
    simp only [answer, note, delayOf, settleAt, delay, Nat.add_zero, if_neg (Nat.not_lt.mpr inTime)]
    rfl
  | node name ahead =>
    simp only [answer, lookup, completion, start, note, delayOf, delay, Nat.add_zero, settleAt,
      if_neg (Nat.not_lt.mpr inTime), List.nil_append, List.tail_cons, Nat.le_refl, if_true]
    rfl

/-- Where calls take no time, a program comes out as in a world without a clock. -/
theorem Clock.attempt_prompt {β : Type} (p : Program asks β) {t : Clock} (h : t.Prompt) :
    p.attempt Clock.answer t =
      (some (p.run World.answer t.world).1,
        { t with world := (p.run World.answer t.world).2 }) := by
  induction p generalizing t with
  | done a => rfl
  | ask op next ih =>
    simp only [Program.attempt, answer_prompt op h]
    exact ih _ ⟨h.delays, h.underWay, h.inTime⟩

end Pass

namespace Operator

/-- Where calls take no time, an operator's pass for an event comes out as the pass itself. -/
theorem pass_prompt (o : Operator) (event : Cluster.StatefulSet) {s : State} (h : s.delays = ∅) :
    o.pass event s =
      (((Pass.ofEvent o.plan event).outcome s.world).1,
        { s with
          world := ((Pass.ofEvent o.plan event).outcome s.world).2
          meter := s.meter.record ((Pass.ofEvent o.plan event).outcome s.world).1 0 }) := by
  have prompt : (o.clock s).Prompt := ⟨h, rfl, Nat.zero_le _⟩
  simp only [pass, Pass.Clock.attempt_prompt _ prompt]
  rfl

end Operator

/-! ## A small world -/

namespace Small

open Cluster

/-- A payload that asks for one port. -/
def text : String :=
  "\x7b\"prefix\":\"db-\",\"nat_subnet_fqns\":[\"projects/p/regions/r/subnetworks/s\"],"
    ++ "\"node_ports\":\x7b\"app\":\x7b\"node_port\":30000,\"container_port\":8080,"
    ++ "\"starting_port\":5000\x7d\x7d\x7d"

/-- The payload that the text spells. -/
def payload : Payload where
  namePrefix := "db-"
  natSubnets := ["projects/p/regions/r/subnetworks/s"]
  ports := Keyed.ofList [("app", ⟨30000, 8080, 5000⟩)]

/-- The key of the workload. -/
def key : ObjectKey := ⟨"prod", "db"⟩

/-- The labels of its pods. -/
def selector : Labels := Keyed.ofList [("app", "db")]

/-- A workload with the payload. -/
def workload : StatefulSet where
  metadata := { space := some "prod", name := some "db",
                annotations := some (Keyed.ofList [(Pass.payloadKey, text)]) }
  matchLabels := some selector

/-- The workload while it is being deleted and held. -/
def deletedWorkload : StatefulSet :=
  { workload with metadata := { workload.metadata with
    finalizers := some ["foregroundDeletion", Pass.finalizer]
    deletionTimestamp := some .epoch } }

/-- Its one pod, on a node. -/
def pod : Pod where
  metadata := { space := some "prod", name := some "db-0", labels := some selector }
  nodeName := some "n0"

/-- The node, which tells its machine. -/
def node : Node where
  metadata := { name := some "n0" }
  providerId := some "gce://p/z/n0"

/-- The cluster with these three. -/
def cluster : Memory := (({} : Memory).putStatefulSet workload |>.putPod pod).putNode node

/-- The cluster beside an empty Compute API. -/
def world : Pass.World where
  cluster := cluster
  compute := { place := ⟨"p", "r"⟩ }

/-- The world while the workload is being deleted; of its resources the firewall and the group with
one endpoint are there. -/
def deletedWorld : Pass.World where
  cluster := cluster.putStatefulSet deletedWorkload
  compute := {
    place := ⟨"p", "r"⟩
    store := (Compute.Store.putFirewall {} { name := (Names.of "db-").firewall }).putGroup
      (Names.of "db-").group [⟨5000, "projects/p/zones/z/instances/n0", 30000⟩] }

/-- An operator of the world. -/
def operator : Operator where
  plan := { place := ⟨"p", "r"⟩ }

theorem announces_workload : Pass.Announces workload key := ⟨rfl, rfl, by decide +kernel⟩

theorem get?_key : world.cluster.statefulSets.get? key = some workload := by decide +kernel

theorem payloadText?_workload : Pass.payloadText? workload = some text := by decide +kernel

theorem payloadText?_deletedWorkload : Pass.payloadText? deletedWorkload = some text :=
  payloadText?_workload

/-- A value that is given, for results whose errors cannot be compared. -/
theorem eq_ok_of_toOption {ε α : Type} {x : Except ε α} {a : α} (given : x.toOption = some a) :
    x = .ok a := by
  cases x with
  | error e => cases given
  | ok b => exact congrArg _ (Option.some.inj given)

theorem decode_text : Payload.decode text = .ok payload :=
  eq_ok_of_toOption (by decide +kernel)

theorem parse_text : Payload.parse text = .ok payload := by
  have sound : payload.violations = [] := by decide +kernel
  simp only [Payload.parse, decode_text, sound, if_true]

end Small

end ReplicaPorts
