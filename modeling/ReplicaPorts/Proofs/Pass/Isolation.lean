import ReplicaPorts.Proofs.Cluster.Reachable
import ReplicaPorts.Proofs.Pass.Tending

/-!
# Passes side by side

Two passes for workloads with different keys, whose payloads have different prefixes, do not
interfere, whatever either has to do and whatever calls fail: each asks only what is within the
cells of its own workload. In whatever order their calls are answered, each ends as it does alone,
and the world is left as by one pass after the other, in either order (`passes_apart`).

This needs a world in which only resources of one prefix refer to each other, as passes leave it
from an empty Compute API on, and prefixes without a slash, since an attachment looks for its rule
by the last segment of a path.
-/

set_option autoImplicit false

namespace ReplicaPorts

open Cluster Compute Program
open Relation (ReflTransGen)

namespace Pass

/-- What others may do: anything to the cluster that its own operations do, and to the failures, and
nothing to the resources. -/
structure Aside (w v : World) : Prop where
  store : v.compute.store = w.compute.store
  place : v.compute.place = w.compute.place
  cluster : v.cluster.Reachable

/-- What is known wherever a cluster is reachable: services are stored under their own names. -/
def anyhow : Findings where
  workload _ _ := True
  pods _ _ _ := True
  service k s := Memory.serviceKey k.space s = k

/-- What is known where a workload is annotated with a text. -/
def annotatedWith (key : ObjectKey) (text : String) : Findings where
  workload k s := k = key → payloadText? s = some text
  pods _ _ _ := True
  service k s := Memory.serviceKey k.space s = k

theorem anyhow_stable : anyhow.Stable :=
  ⟨fun _ _ _ _ => trivial, fun _ c named => Memory.Named.answer named c⟩

theorem annotatedWith_stable (key : ObjectKey) (text : String) :
    (annotatedWith key text).Stable :=
  ⟨fun _ _ _ known => known, fun _ c named => Memory.Named.answer named c⟩

/-- Scenes that passes lead to from an empty Compute API are tended. -/
theorem tended_aside {place : Location} {w : World} (empty : w.compute.store = {})
    (at_ : w.compute.place = place) (cluster : w.cluster.Reachable)
    {scene : Scene asks World (Except Error Unit)}
    (reaches : ReflTransGen (Moves World.answer (BeginsFor place fun _ => True) Aside) ⟨w, none⟩
      scene) : Tended anyhow place (fun _ => True) scene.state := by
  have hold {m : World} (h : m.cluster.Reachable) : anyhow.Hold m :=
    ⟨fun _ _ _ => trivial, fun _ _ => trivial, h.named⟩
  have moves : ReflTransGen (Moves World.answer (BeginsFor place fun _ => True) (Others anyhow))
      ⟨w, none⟩ scene :=
    reaches.lift id fun _ _ move => move.mono fun _ _ h => ⟨h.store, h.place, hold h.cluster⟩
  exact tended_reaches anyhow_stable (fun _ _ _ _ => trivial)
    (tended_of_empty (hold cluster) at_ empty) moves

/-- A pass for a workload that spells a payload asks only what is local to its cells. -/
theorem transcript_local (plan : Plan) {event workload : StatefulSet} {key : ObjectKey}
    {text : String} {p : Payload} {w : World} (announced : Announces event key)
    (stored : w.cluster.statefulSets.get? key = some workload)
    (annotated : payloadText? workload = some text) (decoded : Payload.decode text = .ok p)
    (slashless : '/' ∉ p.namePrefix.toList) (place : plan.place = w.compute.place)
    (named : w.cluster.Named) :
    ∀ ev ∈ (ofEvent plan event).transcript w, Local World.answer Cell.Same (Ordered w)
      (Owns key (Names.of p.namePrefix)) ev.op := by
  intro ev mem
  have hold : (annotatedWith key text).Hold w := by
    refine ⟨fun k s found same => ?_, fun _ _ => trivial, named⟩
    subst same
    obtain rfl := Option.some.inj (stored.symm.trans found)
    exact annotated
  have errand := (sticks_ofEvent plan announced _ _ (path_run World.answer _ _)
    (hold.transcript (annotatedWith_stable key text) _)).1 ev mem
  have within : Within w.compute.place key (Names.of p.namePrefix) ev.op := by
    refine place ▸ errand.within (fun p' spelled => ?_) fun _ _ own => own
    obtain ⟨s, text', known, annotated', decoded'⟩ := spelled
    obtain rfl := Option.some.inj ((known rfl).symm.trans annotated')
    rw [Except.ok.inj (decoded.symm.trans decoded')]
  exact within.local_ slashless

end Pass

namespace Operator

open Pass

/-- Two passes side by side come out as one after the other, in either order, and neither touches
what belongs to the workload of the other one. -/
structure SideBySide (o : Operator) (event event' : StatefulSet) (own own' : Cell → Prop)
    (s : State) (r r' : Except Pass.Error Unit) (w : World) : Prop where
  /-- As the first pass and then the second. -/
  inOrder : r = (o.pass event s).1 ∧ r' = (o.pass event' (o.pass event s).2).1 ∧
    w.forgetCalls = (o.pass event' (o.pass event s).2).2.world.forgetCalls
  /-- As the second pass and then the first. -/
  inReverse : r = (o.pass event (o.pass event' s).2).1 ∧ r' = (o.pass event' s).1 ∧
    w.forgetCalls = (o.pass event (o.pass event' s).2).2.world.forgetCalls
  /-- The first pass alone leaves the cells of the second workload as they were, and its own ones as
  both do. -/
  first : (∀ c, own' c → c.Same s.world (o.pass event s).2.world) ∧
    ∀ c, own c → c.Same (o.pass event s).2.world w
  /-- So does the second one. -/
  second : (∀ c, own c → c.Same s.world (o.pass event' s).2.world) ∧
    ∀ c, own' c → c.Same (o.pass event' s).2.world w

/-- Passes for workloads with different keys and different prefixes do not interfere, wherever
passes led from an empty Compute API. -/
theorem passes_apart (o : Operator) {event event' workload workload' : StatefulSet}
    {key key' : ObjectKey} {text text' : String} {p p' : Payload} {u : World} {s : State}
    (empty : u.compute.store = {}) (place : o.plan.place = u.compute.place)
    (cluster : u.cluster.Reachable)
    (reaches : ReflTransGen (Moves World.answer (BeginsFor o.plan.place fun _ => True) Aside)
      ⟨u, none⟩ ⟨s.world, none⟩)
    (prompt : s.delays = ∅)
    (announced : Announces event key) (announced' : Announces event' key')
    (stored : s.world.cluster.statefulSets.get? key = some workload)
    (stored' : s.world.cluster.statefulSets.get? key' = some workload')
    (annotated : payloadText? workload = some text)
    (annotated' : payloadText? workload' = some text')
    (decoded : Payload.decode text = .ok p) (decoded' : Payload.decode text' = .ok p')
    (keys : key ≠ key') (prefixes : p.namePrefix ≠ p'.namePrefix)
    (slashless : '/' ∉ p.namePrefix.toList) (slashless' : '/' ∉ p'.namePrefix.toList)
    {r r' : Except Pass.Error Unit} {w : World}
    (interleaved : Interleaves World.answer (ofEvent o.plan event).run (ofEvent o.plan event').run
      s.world r r' w) :
    SideBySide o event event' (Owns key (Names.of p.namePrefix))
      (Owns key' (Names.of p'.namePrefix)) s r r' w := by
  have tended := tended_aside empty place.symm cluster reaches
  have ordered : Ordered s.world s.world :=
    ⟨.refl _, tended.stays.symm ▸ tended.orderly⟩
  have asks := transcript_local o.plan announced stored annotated decoded slashless
    tended.stays.symm tended.hold.service
  have asks' := transcript_local o.plan announced' stored' annotated' decoded' slashless'
    tended.stays.symm tended.hold.service
  have disjoint := Owns.disjoint keys prefixes
  have setting {a a' : Except Pass.Error Unit} {v : World}
      (h : Interleaves World.answer (ofEvent o.plan event).run (ofEvent o.plan event').run s.world
        a a' v) : Setting s.world v :=
    h.keeps (fun a _ same => same.answer a) (.refl _)
  -- what the operator makes of the two passes, one after the other
  have ran := o.pass_prompt event prompt
  have ran' := o.pass_prompt event' prompt
  have afterwards := o.pass_prompt event' (s := (o.pass event s).2) (by rw [ran]; exact prompt)
  have afterwards' := o.pass_prompt event (s := (o.pass event' s).2) (by rw [ran']; exact prompt)
  have apart := interleaved.apart Cell.equivalence disjoint ordered ordered ordered
    (fun _ _ => rfl) (fun _ _ => rfl) asks asks'
  refine ⟨?_, ?_, ⟨fun c theirs => ?_, fun c mine => ?_⟩, fun c mine => ?_, fun c theirs => ?_⟩
  · have order := interleaves_left_first World.answer (ofEvent o.plan event).run
      (ofEvent o.plan event').run s.world
    obtain ⟨first, second, cells⟩ := interleaved.agree Cell.equivalence disjoint order ordered asks
      asks'
    rw [afterwards, ran]
    exact ⟨first, second, forgetCalls_eq (setting interleaved) (setting order) cells⟩
  · have order := interleaves_right_first World.answer (ofEvent o.plan event).run
      (ofEvent o.plan event').run s.world
    obtain ⟨first, second, cells⟩ := interleaved.agree Cell.equivalence disjoint order ordered asks
      asks'
    rw [afterwards', ran']
    exact ⟨first, second, forgetCalls_eq (setting interleaved) (setting order) cells⟩
  · rw [ran]
    exact run_frame Cell.equivalence ordered asks fun mine => disjoint c mine theirs
  · rw [ran]
    exact apart.leftCells c mine
  · rw [ran']
    exact run_frame Cell.equivalence ordered asks' (disjoint c mine)
  · rw [ran']
    exact apart.rightCells c theirs

end Operator

end ReplicaPorts

namespace ReplicaPorts.Small

open Cluster

/-- The key of another workload. -/
def otherKey : ObjectKey := ⟨"prod", "mq"⟩

/-- What the other workload asks for. -/
def otherText : String :=
  "\x7b\"prefix\":\"mq-\",\"nat_subnet_fqns\":[\"projects/p/regions/r/subnetworks/s\"],"
    ++ "\"node_ports\":\x7b\"app\":\x7b\"node_port\":31000,\"container_port\":5672,"
    ++ "\"starting_port\":7000\x7d\x7d\x7d"

/-- What the text spells. -/
def otherPayload : Payload where
  namePrefix := "mq-"
  natSubnets := ["projects/p/regions/r/subnetworks/s"]
  ports := Keyed.ofList [("app", ⟨31000, 5672, 7000⟩)]

/-- The other workload. -/
def otherWorkload : StatefulSet where
  metadata := { space := some "prod", name := some "mq",
                annotations := some (Keyed.ofList [(Pass.payloadKey, otherText)]) }
  matchLabels := some (Keyed.ofList [("app", "mq")])

/-- The small world with both workloads. -/
def sharedWorld : Pass.World := { world with cluster := cluster.putStatefulSet otherWorkload }

theorem decode_otherText : Payload.decode otherText = .ok otherPayload :=
  eq_ok_of_toOption (by decide +kernel)

theorem get?_otherKey : sharedWorld.cluster.statefulSets.get? otherKey = some otherWorkload := by
  decide +kernel

end ReplicaPorts.Small

namespace ReplicaPorts.Operator

open Cluster Compute Pass Program

/-- A pass over the small workload while one over another workload is under way: the other one has
read its workload, and goes on when the first is through. -/
theorem small_passes_apart : ∃ w : World,
    Interleaves World.answer (ofEvent Small.operator.plan Small.workload).run
      (ofEvent Small.operator.plan Small.otherWorkload).run Small.sharedWorld (.ok ()) (.ok ()) w ∧
    SideBySide Small.operator Small.workload Small.otherWorkload (Owns Small.key (Names.of "db-"))
      (Owns Small.otherKey (Names.of "mq-")) { world := Small.sharedWorld } (.ok ()) (.ok ())
      w := by
  have announced : Announces Small.otherWorkload Small.otherKey := ⟨rfl, rfl, by decide +kernel⟩
  have begun : ∃ r r' w, (r = .ok () ∧ r' = .ok ()) ∧
      Interleaves World.answer (ofEvent Small.operator.plan Small.workload).run
        (ofEvent Small.operator.plan Small.otherWorkload).run Small.sharedWorld r r' w := by
    rw [ofEvent_eq announced]
    exact ⟨_, _, _, by decide +kernel,
      .right _ _ (interleaves_left_first _ _ _ _)⟩
  obtain ⟨r, r', w, ⟨rfl, rfl⟩, interleaved⟩ := begun
  have cluster : Small.sharedWorld.cluster.Reachable :=
    (((Memory.Reachable.fresh.putStatefulSet _).putPod _).putNode _).putStatefulSet _
  have stored : Small.sharedWorld.cluster.statefulSets.get? Small.key = some Small.workload := by
    decide +kernel
  exact ⟨w, interleaved, passes_apart Small.operator (s := { world := Small.sharedWorld }) rfl rfl
    cluster .refl rfl Small.announces_workload announced stored Small.get?_otherKey
    Small.payloadText?_workload (by decide +kernel) Small.decode_text Small.decode_otherText
    (by decide) (by decide) (by decide) (by decide) interleaved⟩

end ReplicaPorts.Operator
