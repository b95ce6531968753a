import ReplicaPorts.Proofs.Pass.Errand
import ReplicaPorts.Proofs.Pass.Tenancy
import ReplicaPorts.Proofs.Cluster.Reachable
import ReplicaPorts.Proofs.Program.Interleaving

/-!
# Asks that keep to the cells of a workload

What a world stores lies in cells: workloads, services, resources and the endpoints of groups. A
workload with some names `Owns` its own cell, that of its exposure service, and those of the
resources of its names. An ask `Within` them is local to them (`Within.local_`): they decide its
answer, and it changes no others. Two worlds of one setting that store the same in all cells are the
same, up to the calls (`forgetCalls_eq`).
-/

set_option autoImplicit false

namespace ReplicaPorts.Pass

open Cluster Compute Program

variable {key exposure : ObjectKey} {names : Names} {place : Location} {namePrefix : String}

/-! ## Cells -/

/-- A place of a world where something is stored. -/
inductive Cell where
  | workload (key : ObjectKey)
  | service (key : ObjectKey)
  | resource (kind : Kind) (name : String)
  | endpoints (group : String)

/-- What may be in a cell. -/
abbrev Cell.Content : Cell → Type
  | workload _ => Option StatefulSet
  | service _ => Option Service
  | resource kind _ => Option kind.Model
  | endpoints _ => Option (List PortMapping)

/-- What a world stores in a cell. -/
def Cell.read : (c : Cell) → World → c.Content
  | workload key, w => w.cluster.statefulSets.get? key
  | service key, w => w.cluster.services.get? key
  | resource kind name, w => w.compute.store.find? kind name
  | endpoints group, w => w.compute.store.endpoints.get? group

/-- Two worlds store the same in a cell. -/
def Cell.Same (c : Cell) (w v : World) : Prop := c.read w = c.read v

theorem Cell.equivalence (c : Cell) : Equivalence c.Same :=
  ⟨fun _ => rfl, Eq.symm, Eq.trans⟩

/-- The cells of a workload with some names. -/
def Owns (key : ObjectKey) (names : Names) : Cell → Prop
  | .workload k => k = key
  | .service k => k = ⟨key.space, names.service⟩
  | .resource kind name => name = names.resource kind
  | .endpoints group => group = names.group

/-- Workloads of different keys with names of different prefixes own no cell together. -/
theorem Owns.disjoint {key' : ObjectKey} {namePrefix' : String} (keys : key ≠ key')
    (prefixes : namePrefix ≠ namePrefix') (c : Cell) (mine : Owns key (Names.of namePrefix) c) :
    ¬ Owns key' (Names.of namePrefix') c := by
  intro theirs
  cases c with
  | workload k => exact keys (mine.symm.trans theirs)
  | service k =>
    have same := congrArg ObjectKey.name (mine.symm.trans theirs)
    exact prefixes (Names.service_injective same)
  | resource kind name => exact prefixes (Names.resource_injective kind (mine.symm.trans theirs))
  | endpoints group =>
    exact prefixes (Names.resource_injective .group (mine.symm.trans theirs))

/-- What no pass changes is the same in two worlds. -/
structure Setting (w v : World) : Prop where
  place : v.compute.place = w.compute.place
  failures : v.compute.failures = w.compute.failures
  clusterFailures : v.cluster.failures = w.cluster.failures
  pods : v.cluster.pods = w.cluster.pods
  nodes : v.cluster.nodes = w.cluster.nodes

theorem Setting.refl (w : World) : Setting w w := ⟨rfl, rfl, rfl, rfl, rfl⟩

theorem Setting.answer {w v : World} (h : Setting w v) (a : Ask) : Setting w (v.answer a).2 := by
  have called (c : Cluster.Call) : Setting w (v.answerCluster c).2 :=
    ⟨h.place, h.failures, (Memory.answer_failures c v.cluster).trans h.clusterFailures,
      (Memory.answer_pods c v.cluster).trans h.pods,
      (Memory.answer_nodes c v.cluster).trans h.nodes⟩
  cases a with
  | cluster c => exact called c
  | node name ahead => exact called (.getNode name)
  | compute c =>
    exact ⟨(Simulator.answer_place c v.compute).trans h.place,
      (Simulator.answer_failures c v.compute).trans h.failures, h.clusterFailures, h.pods, h.nodes⟩

/-- Worlds of one setting that store the same in all cells are the same, up to the calls. -/
theorem forgetCalls_eq {u w v : World} (left : Setting u w) (right : Setting u v)
    (same : ∀ c : Cell, c.Same w v) : w.forgetCalls = v.forgetCalls := by
  have sets : w.cluster.statefulSets = v.cluster.statefulSets :=
    Keyed.ext_get? fun key => same (.workload key)
  have services : w.cluster.services = v.cluster.services :=
    Keyed.ext_get? fun key => same (.service key)
  have store : w.compute.store = v.compute.store :=
    Store.ext_find? (fun kind name => same (.resource kind name)) fun group =>
      same (.endpoints group)
  obtain ⟨⟨_, _, _, _, _, _⟩, ⟨_, _, _, _⟩⟩ := w
  obtain ⟨⟨_, _, _, _, _, _⟩, ⟨_, _, _, _⟩⟩ := v
  obtain ⟨rfl, rfl, rfl, rfl, rfl⟩ := left
  obtain ⟨rfl, rfl, rfl, rfl, rfl⟩ := right
  obtain rfl := sets
  obtain rfl := services
  obtain rfl := store
  rfl

/-! ## Calls to the cluster -/

/-- A call to the cluster is about one workload and one service, or it reads pods and nodes. -/
inductive Regards (key exposure : ObjectKey) : Cluster.Call → Prop where
  | getStatefulSet : Regards key exposure (.getStatefulSet key)
  | addFinalizer (finalizer : String) : Regards key exposure (.addFinalizer key finalizer)
  | removeFinalizer (finalizer : String) : Regards key exposure (.removeFinalizer key finalizer)
  | listPods (space : String) (labels : Labels) : Regards key exposure (.listPods space labels)
  | getNode (name : String) : Regards key exposure (.getNode name)
  | getService : Regards key exposure (.getService exposure)
  | deleteService : Regards key exposure (.deleteService exposure)
  | createService {space : String} {s : Service} (own : Memory.serviceKey space s = exposure) :
      Regards key exposure (.createService space s)
  | updateService {space : String} {s : Service} (own : Memory.serviceKey space s = exposure) :
      Regards key exposure (.updateService space s)

/-- Other workloads and other services are left alone. -/
theorem Regards.elsewhere {c : Cluster.Call} (h : Regards key exposure c) (m : Memory) :
    (∀ k, k ≠ key → m.statefulSets.get? k = (m.answer c).2.statefulSets.get? k) ∧
      ∀ k, k ≠ exposure → m.services.get? k = (m.answer c).2.services.get? k := by
  have edited (c : Cluster.Call) (edit : List String → List String) :
      (∀ k, k ≠ key → m.statefulSets.get? k =
        ((m.note c).editFinalizers key edit).2.statefulSets.get? k) ∧
      ∀ k, k ≠ exposure → m.services.get? k =
        ((m.note c).editFinalizers key edit).2.services.get? k := by
    refine ⟨fun k other => ?_, fun k _ => ?_⟩
    · rw [Memory.get?_editFinalizers, if_neg other]
      rfl
    · unfold Memory.editFinalizers
      split <;> rfl
  cases fails : m.fails c with
  | true =>
    rw [Memory.answer_of_fails fails]
    exact ⟨fun _ _ => rfl, fun _ _ => rfl⟩
  | false =>
    rw [Memory.answer_of_not_fails fails]
    cases h with
    | addFinalizer finalizer => exact edited _ _
    | removeFinalizer finalizer => exact edited _ _
    | deleteService => exact ⟨fun _ _ => rfl, fun k other => (Keyed.get?_erase_ne _ other).symm⟩
    | updateService own =>
      subst own
      exact ⟨fun _ _ => rfl, fun k other => (Keyed.get?_insert_ne _ _ other).symm⟩
    | createService own =>
      subst own
      simp only [Memory.perform]
      split
      · exact ⟨fun _ _ => rfl, fun _ _ => rfl⟩
      · exact ⟨fun _ _ => rfl, fun k other => (Keyed.get?_insert_ne _ _ other).symm⟩
    | _ => exact ⟨fun _ _ => rfl, fun _ _ => rfl⟩

/-- Two clusters hold the same of what such calls look at. -/
structure Shared (key exposure : ObjectKey) (m n : Memory) : Prop where
  failures : m.failures = n.failures
  pods : m.pods = n.pods
  nodes : m.nodes = n.nodes
  workload : m.statefulSets.get? key = n.statefulSets.get? key
  service : m.services.get? exposure = n.services.get? exposure

theorem Shared.editFinalizers {m n : Memory} (h : Shared key exposure m n)
    (edit : List String → List String) :
    (m.editFinalizers key edit).1 = (n.editFinalizers key edit).1 ∧
      Shared key exposure (m.editFinalizers key edit).2 (n.editFinalizers key edit).2 := by
  cases stored : n.statefulSets.get? key with
  | none =>
    rw [Memory.editFinalizers_of_none (h.workload.trans stored),
      Memory.editFinalizers_of_none stored]
    exact ⟨rfl, h⟩
  | some s =>
    rw [Memory.editFinalizers_of_get? (h.workload.trans stored),
      Memory.editFinalizers_of_get? stored]
    exact ⟨rfl, h.failures, h.pods, h.nodes,
      (Keyed.get?_insert_self ..).trans (Keyed.get?_insert_self ..).symm, h.service⟩

theorem Shared.putService {m n : Memory} (h : Shared key exposure m n) {space : String}
    {s : Service} (own : Memory.serviceKey space s = exposure) :
    Shared key exposure (m.putService space s) (n.putService space s) := by
  subst own
  exact ⟨h.failures, h.pods, h.nodes, h.workload,
    (Keyed.get?_insert_self ..).trans (Keyed.get?_insert_self ..).symm⟩

/-- Such calls are answered alike, and leave the same. -/
theorem Shared.answer {m n : Memory} (h : Shared key exposure m n) {c : Cluster.Call}
    (regards : Regards key exposure c) :
    (m.answer c).1 = (n.answer c).1 ∧ Shared key exposure (m.answer c).2 (n.answer c).2 := by
  have noted : Shared key exposure (m.note c) (n.note c) :=
    ⟨h.failures, h.pods, h.nodes, h.workload, h.service⟩
  cases fails : n.fails c with
  | true =>
    have fails' : m.fails c = true := by rw [Memory.fails, h.failures]; exact fails
    rw [Memory.answer_of_fails fails, Memory.answer_of_fails fails']
    exact ⟨rfl, noted⟩
  | false =>
    have fails' : m.fails c = false := by rw [Memory.fails, h.failures]; exact fails
    rw [Memory.answer_of_not_fails fails, Memory.answer_of_not_fails fails']
    cases regards with
    | getStatefulSet => exact ⟨congrArg Except.ok h.workload, noted⟩
    | getService => exact ⟨congrArg Except.ok h.service, noted⟩
    | addFinalizer finalizer => exact noted.editFinalizers _
    | removeFinalizer finalizer => exact noted.editFinalizers _
    | updateService own => exact ⟨rfl, noted.putService own⟩
    | listPods space labels =>
      refine ⟨?_, noted⟩
      simp only [Memory.perform, noted.pods]
    | getNode name =>
      refine ⟨?_, noted⟩
      simp only [Memory.perform, noted.nodes]
    | deleteService =>
      exact ⟨rfl, h.failures, h.pods, h.nodes, h.workload,
        (Keyed.get?_erase_self ..).trans (Keyed.get?_erase_self ..).symm⟩
    | createService own =>
      have there := congrArg Option.isSome noted.service
      simp only [Memory.perform, Keyed.contains, own, there]
      split
      · exact ⟨rfl, noted⟩
      · exact ⟨rfl, noted.putService own⟩

/-! ## Asks -/

/-- An ask keeps to the cells of a workload with some names. -/
inductive Within (place : Location) (key : ObjectKey) (names : Names) : Ask → Prop where
  | cluster {c : Cluster.Call} (regards : Regards key ⟨key.space, names.service⟩ c) :
      Within place key names (.cluster c)
  | compute {c : Compute.Call} (touches : Touches place names c) :
      Within place key names (.compute c)
  | node (name : String) (ahead : List String) : Within place key names (.node name ahead)

/-- A world in the setting of another one, with an orderly store. -/
structure Ordered (u w : World) : Prop extends Setting u w where
  orderly : Orderly w.compute.place (fun _ => True) w.compute.store

/-- A call about resources of some names does what it may do to a store, or nothing if it is told to
fail. -/
theorem effect_answer {s : Simulator} {c : Compute.Call} (touches : Touches s.place names c) :
    Effect s.place names s.store (s.answer c).2.store :=
  Simulator.answer_keeps .unchanged (effect_perform touches s.store)

/-- Simulators that fail the same calls and agree under some names answer a call about them alike,
and agree afterwards. -/
theorem Agree.answer {s t : Simulator} {c : Compute.Call} (h : Agree names s.store t.store)
    (place : s.place = t.place) (failures : s.failures = t.failures)
    (slashless : '/' ∉ names.rule.toList) (confined : Confined s.place names s.store)
    (confined' : Confined t.place names t.store) (touches : Touches s.place names c) :
    (s.answer c).1 = (t.answer c).1 ∧ Agree names (s.answer c).2.store (t.answer c).2.store := by
  have told : s.injected? c = t.injected? c := injected?_congr failures c
  cases injected : t.injected? c with
  | some e =>
    rw [Simulator.answer_of_injected injected, Simulator.answer_of_injected (told.trans injected)]
    exact ⟨rfl, h⟩
  | none =>
    rw [Simulator.answer_of_not_injected injected,
      Simulator.answer_of_not_injected (told.trans injected), ← place]
    exact h.perform slashless confined (place ▸ confined') touches

theorem orderly_answer {among : String → Prop} {w : World} {a : Ask}
    (within : Within w.compute.place key (Names.of namePrefix) a) (member : among namePrefix)
    (h : Orderly w.compute.place among w.compute.store) :
    Orderly (w.answer a).2.compute.place among (w.answer a).2.compute.store := by
  cases within with
  | cluster regards => exact h
  | node name ahead => exact h
  | compute touches =>
    show Orderly (w.compute.answer _).2.place among (w.compute.answer _).2.store
    rw [Simulator.answer_place]
    exact h.effect member (effect_answer touches)

theorem Ordered.answer {u w : World} {a : Ask} (h : Ordered u w)
    (within : Within u.compute.place key (Names.of namePrefix) a) : Ordered u (w.answer a).2 :=
  ⟨h.toSetting.answer a, orderly_answer (h.place ▸ within) trivial h.orderly⟩

/-- Cells of others are left alone. -/
theorem Within.frame {w : World} {a : Ask} (h : Within w.compute.place key names a) (c : Cell)
    (other : ¬ Owns key names c) : c.Same w (w.answer a).2 := by
  have called {c' : Cluster.Call} (regards : Regards key ⟨key.space, names.service⟩ c') :
      c.Same w (w.answerCluster c').2 := by
    obtain ⟨workloads, services⟩ := regards.elsewhere w.cluster
    cases c with
    | workload k => exact workloads k other
    | service k => exact services k other
    | resource kind name => rfl
    | endpoints group => rfl
  cases h with
  | cluster regards => exact called regards
  | node name ahead => exact called (.getNode name)
  | compute touches =>
    have elsewhere := (effect_answer touches).elsewhere
    cases c with
    | workload k => rfl
    | service k => rfl
    | resource kind name => exact elsewhere.found kind name other
    | endpoints group => exact elsewhere.endpoints group other

/-- Worlds of one setting answer an ask alike if they store the same in its cells, and do so
afterwards. -/
theorem Within.alike {u w v : World} {a : Ask}
    (h : Within u.compute.place key (Names.of namePrefix) a)
    (slashless : '/' ∉ namePrefix.toList) (left : Ordered u w) (right : Ordered u v)
    (same : ∀ c, Owns key (Names.of namePrefix) c → c.Same w v) :
    (w.answer a).1 = (v.answer a).1 ∧
      ∀ c, Owns key (Names.of namePrefix) c → c.Same (w.answer a).2 (v.answer a).2 := by
  have shared : Shared key ⟨key.space, (Names.of namePrefix).service⟩ w.cluster v.cluster :=
    ⟨left.clusterFailures.trans right.clusterFailures.symm, left.pods.trans right.pods.symm,
      left.nodes.trans right.nodes.symm, same (.workload _) rfl, same (.service _) rfl⟩
  have called {c : Cluster.Call}
      (regards : Regards key ⟨key.space, (Names.of namePrefix).service⟩ c) :
      (w.answerCluster c).1 = (v.answerCluster c).1 ∧
        ∀ c', Owns key (Names.of namePrefix) c' →
          c'.Same (w.answerCluster c).2 (v.answerCluster c).2 := by
    obtain ⟨answers, after⟩ := shared.answer regards
    refine ⟨answers, fun c' owned => ?_⟩
    cases c' with
    | workload k =>
      obtain rfl := owned
      exact after.workload
    | service k =>
      obtain rfl := owned
      exact after.service
    | resource kind name => exact same _ owned
    | endpoints group => exact same _ owned
  cases h with
  | cluster regards => exact called regards
  | node name ahead => exact called (.getNode name)
  | @compute c touches =>
    have agree : Agree (Names.of namePrefix) w.compute.store v.compute.store :=
      ⟨fun kind => same (.resource kind _) rfl, same (.endpoints _) rfl⟩
    obtain ⟨answers, after⟩ := agree.answer (left.place.trans right.place.symm)
      (left.failures.trans right.failures.symm) (Names.slash_not_mem slashless .rule)
      (left.orderly.confined namePrefix) (right.orderly.confined namePrefix)
      (left.place ▸ touches)
    refine ⟨answers, fun c' owned => ?_⟩
    cases c' with
    | workload k => exact same _ owned
    | service k => exact same _ owned
    | resource kind name =>
      obtain rfl := owned
      exact after.found kind
    | endpoints group =>
      obtain rfl := owned
      exact after.endpoints

/-- An ask that keeps to the cells of a workload is local to them. -/
theorem Within.local_ {u : World} {a : Ask}
    (h : Within u.compute.place key (Names.of namePrefix) a) (slashless : '/' ∉ namePrefix.toList) :
    Local World.answer Cell.Same (Ordered u) (Owns key (Names.of namePrefix)) a where
  keeps _ ordered := ordered.answer h
  frame _ ordered c other := (ordered.place ▸ h).frame c other
  answer _ _ left right same := (h.alike slashless left right same).1
  after _ _ left right same := (h.alike slashless left right same).2

end ReplicaPorts.Pass
