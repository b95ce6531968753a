import ReplicaPorts.Proofs.Pass.Separation
import ReplicaPorts.Proofs.Program.Interference

/-!
# Worlds that passes tend

Passes for some workloads are made one after the other, each of them answered and left off at any
call, while others change the cluster and leave the resources alone (`Others`). If every payload
that is read has one of some prefixes, every resource is named by one of them and refers to
resources of its own prefix only, and groups and endpoints stay paired (`Tended`). An errand of a
pass is within the cells of its workload (`Errand.within`), so no call disturbs that
(`tended_reaches`).
-/

set_option autoImplicit false

namespace ReplicaPorts

open Cluster Compute Program
open Relation (ReflTransGen)

namespace Pass

variable {f : Findings} {place : Location} {key : ObjectKey} {namePrefix : String}

/-! ## Where errands lie -/

theorem refers_designOf (place : Location) (p : Payload) (kind : Kind) :
    Refers place (Names.of p.namePrefix) (designOf place p kind) := by
  cases kind <;> first | exact trivial | exact rfl

theorem touches_of_provision {p : Payload} {mappings : List PortMapping} {c : Compute.Call}
    (h : Provision place p mappings c) : Touches place (Names.of p.namePrefix) c := by
  cases h with
  | get kind => exact .get kind
  | updateFirewall => exact .updateFirewall _
  | listEndpoints => exact .listEndpoints
  | detachEndpoints surplus => exact .detachEndpoints surplus
  | attachEndpoints _ => exact .attachEndpoints _
  | create kind =>
    have named := Touches.create (refers_designOf place p kind)
    rwa [designOf_kind] at named

/-- What is asked of the Compute API is about resources of a payload that was read. -/
theorem Errand.touches {c : Compute.Call} (h : Errand f place key (.compute c)) :
    ∃ p, f.Spells key p ∧ Touches place (Names.of p.namePrefix) c := by
  cases h with
  | delete spelled kind => exact ⟨_, spelled, .delete kind⟩
  | provision granted _ asked => exact ⟨_, granted.spells, touches_of_provision asked⟩

/-- The errands for a workload keep to its cells, if all payloads that are read have one prefix and
services are found under their own names. -/
theorem Errand.within {a : Ask} (h : Errand f place key a)
    (named : ∀ p, f.Spells key p → p.namePrefix = namePrefix)
    (own : ∀ k s, f.service k s → Memory.serviceKey k.space s = k) :
    Within place key (Names.of namePrefix) a := by
  cases h with
  | read => exact .cluster .getStatefulSet
  | addFinalizer => exact .cluster (.addFinalizer _)
  | removeFinalizer => exact .cluster (.removeFinalizer _)
  | listPods labels => exact .cluster (.listPods _ labels)
  | node name ahead => exact .node name ahead
  | deleteService spelled =>
    rw [← named _ spelled]
    exact .cluster .deleteService
  | getService granted =>
    rw [← named _ granted.spells]
    exact .cluster .getService
  | createService granted =>
    rw [← named _ granted.spells]
    exact .cluster (.createService rfl)
  | updateService granted found =>
    rw [← named _ granted.spells]
    exact .cluster (.updateService (own _ _ found))
  | delete spelled kind =>
    rw [← named _ spelled]
    exact .compute (.delete kind)
  | provision granted mapped asked =>
    rw [← named _ granted.spells]
    exact .compute (touches_of_provision asked)

/-! ## Runs -/

/-- What others may do: anything to the cluster that keeps to what is known, and to the failures,
and nothing to the resources. -/
structure Others (f : Findings) (w v : World) : Prop where
  store : v.compute.store = w.compute.store
  place : v.compute.place = w.compute.place
  hold : f.Hold v

/-- Something is known of what the cluster stores, and the resources are in the order in which
passes for payloads with some prefixes keep them. -/
structure Tended (f : Findings) (place : Location) (among : String → Prop) (w : World) : Prop where
  hold : f.Hold w
  stays : w.compute.place = place
  orderly : Orderly place among w.compute.store
  paired : w.compute.store.Paired

/-- A pass for an event about one of some workloads is begun. -/
def BeginsFor (place : Location) (keys : ObjectKey → Prop) (p : Program asks (Except Error Unit)) :
    Prop :=
  ∃ plan event, plan.place = place ∧ (∀ key, Announces event key → keys key) ∧
    p = (ofEvent plan event).run

theorem Announces.unique {event : StatefulSet} {key' : ObjectKey} (h : Announces event key)
    (h' : Announces event key') : key = key' := by
  obtain ⟨space, name⟩ := key
  obtain ⟨space', name'⟩ := key'
  obtain rfl : space = space' := Option.some.inj (h.space.symm.trans h'.space)
  obtain rfl : name = name' := Option.some.inj (h.name.symm.trans h'.name)
  rfl

/-- An event announces a workload, or a pass for it asks nothing. -/
theorem announces_or_silent (plan : Plan) (event : StatefulSet) :
    (∃ key, Announces event key) ∨ ∃ r, (ofEvent plan event).run = .done r := by
  cases managed : hasPayload event || isFinalized event with
  | false =>
    refine .inr ⟨.ok (), ?_⟩
    simp only [ofEvent, managed]
    rfl
  | true =>
    cases atSpace : event.metadata.space with
    | none =>
      refine .inr ⟨.error (.workload .space), ?_⟩
      simp only [ofEvent, managed, atSpace]
      rfl
    | some space =>
      cases named : event.metadata.name with
      | none =>
        refine .inr ⟨.error (.workload .name), ?_⟩
        simp only [ofEvent, managed, atSpace, named]
        rfl
      | some name => exact .inl ⟨⟨space, name⟩, atSpace, named, managed⟩

variable {among : String → Prop} {keys : ObjectKey → Prop}

theorem tended_stable : Stable (Others f) (Tended f place among) := by
  intro w v h others
  refine ⟨others.hold, others.place.trans h.stays, ?_, ?_⟩
  · rw [others.store]
    exact h.orderly
  · rw [others.store]
    exact h.paired

/-- An errand for a workload leaves a world tended. -/
theorem Tended.answer {w : World} {a : Ask} (h : Tended f place among w) (stable : f.Stable)
    (member : ∀ p, f.Spells key p → among p.namePrefix) (errand : Errand f place key a) :
    Tended f place among (w.answer a).2 := by
  have hold := h.hold.answer stable a
  cases a with
  | cluster c => exact ⟨hold, h.stays, h.orderly, h.paired⟩
  | node name ahead => exact ⟨hold, h.stays, h.orderly, h.paired⟩
  | compute c =>
    obtain ⟨p, spelled, touches⟩ := errand.touches
    obtain rfl := h.stays
    refine ⟨hold, Simulator.answer_place c w.compute, ?_, ?_⟩
    · exact h.orderly.effect (member p spelled) (effect_answer touches)
    · exact h.paired.answer c

/-- A world without resources is tended. -/
theorem tended_of_empty {w : World} (hold : f.Hold w) (at_ : w.compute.place = place)
    (empty : w.compute.store = {}) : Tended f place among w := by
  refine ⟨hold, at_, ?_, ?_⟩
  · rw [empty]
    exact orderly_empty
  · rw [empty]
    exact fun _ => rfl

/-- Wherever passes and others lead, the world is tended. -/
theorem tended_reaches {w : World} {scene : Scene asks World (Except Error Unit)}
    (stable : f.Stable) (member : ∀ key p, keys key → f.Spells key p → among p.namePrefix)
    (start : Tended f place among w)
    (reaches : ReflTransGen (Moves World.answer (BeginsFor place keys) (Others f)) ⟨w, none⟩
      scene) : Tended f place among scene.state := by
  refine invariant_reaches tended_stable ?_ start reaches
  rintro _ ⟨plan, event, rfl, about, rfl⟩ v tended
  rcases announces_or_silent plan event with ⟨key, announced⟩ | ⟨r, silent⟩
  · refine Guarded.of_honest_path f.Honest tended_stable (fun _ h => h)
      (fun a _ h => h.hold.answers a) (fun t r takes honestly ev mem u known => ?_) tended
    have errand := (sticks_ofEvent plan announced t r takes honestly).1 ev mem
    exact known.answer stable (fun p => member key p (about key announced)) errand
  · rw [silent]
    exact tended

end Pass

namespace Operator

/-- Where calls take no time, an operator's passes are among the moves. -/
theorem pass_moves (o : Operator) {event : StatefulSet} {keys : ObjectKey → Prop}
    {outside : Pass.World → Pass.World → Prop} {s : State} (prompt : s.delays = ∅)
    (about : ∀ key, Pass.Announces event key → keys key) :
    ReflTransGen (Moves Pass.World.answer (Pass.BeginsFor o.plan.place keys) outside)
      ⟨s.world, none⟩ ⟨(o.pass event s).2.world, none⟩ := by
  rw [o.pass_prompt event prompt]
  exact moves_run ⟨o.plan, event, rfl, about, rfl⟩ s.world

/-- A pass does not change which calls are told to fail, nor what others put in the cluster. -/
theorem pass_setting (o : Operator) (event : StatefulSet) {s : State} (prompt : s.delays = ∅) :
    Pass.Setting s.world (o.pass event s).2.world := by
  rw [o.pass_prompt event prompt]
  exact run_keeps (Pass.Setting s.world) (fun a _ h => h.answer a) _ (.refl _)

/-- Puts a workload in place of the stored one, as an edit does. -/
def State.storing (s : State) (w : StatefulSet) : State :=
  { s with world := { s.world with cluster := s.world.cluster.putStatefulSet w } }

theorem get?_storing (s : State) (w : StatefulSet) :
    (s.storing w).world.cluster.statefulSets.get?
      ⟨w.metadata.space.getD "", w.metadata.name.getD ""⟩ = some w :=
  Keyed.get?_insert_self ..

/-- Neither a pass nor an edit changes how long calls take. -/
theorem delays_storing_pass (o : Operator) (event w : StatefulSet) (s : State) :
    ((o.pass event s).2.storing w).delays = s.delays := rfl

theorem others_storing {f : Pass.Findings} {s : State} {w : StatefulSet}
    (h : f.Hold (s.storing w).world) : Pass.Others f s.world (s.storing w).world :=
  ⟨rfl, rfl, h⟩

end Operator

namespace Small

/-- After a pass over the small workload. -/
def exposed : Operator.State := (operator.pass workload { world }).2

theorem exposed_setting : Pass.Setting world exposed.world := by
  unfold exposed
  exact operator.pass_setting workload (s := { world }) rfl

end Small

end ReplicaPorts
