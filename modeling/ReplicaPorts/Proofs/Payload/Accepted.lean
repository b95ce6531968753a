import Mathlib.Data.List.Forall2
import ReplicaPorts.Pass.Resources
import ReplicaPorts.Proofs.Payload.Violations

/-!
# What an accepted payload is

A payload is accepted if it has no violations. Then every consumer is named once, by a project or by
the path of a network, there are subnetworks and all of them are paths of such, and the node ports,
in ascending order, are ports. What the resources are created from is taken from the payload as it
is (`consumers_of_parse`, `nodePorts_inRange`).
-/

set_option autoImplicit false

namespace ReplicaPorts

open Compute

namespace Payload

variable {text : String} {p : Payload}

theorem sound_of_parse (h : parse text = .ok p) : p.Sound := (parse_eq_ok_iff.mp h).2

/-! ## Consumers and subnetworks -/

/-- A limit is that of a consumer, which has one identifier: a project, or the path of a network. -/
structure Identifies (c : Consumer) (l : ConsumerLimit) : Prop where
  limit : l.connectionLimit = c.connectionLimit
  once : (∃ project, project ≠ "" ∧ c.projectName = some project ∧ l.project = some project ∧
      l.network = none) ∨
    ∃ network, Path.IsNetwork network ∧ c.networkPath = some network ∧
      l.network = some network ∧ l.project = none

theorem identifies_limit {c : Consumer} (sound : c.Sound) : Identifies c c.limit := by
  by_cases named : Given c.projectName
  · have other : c.network = none :=
      filter_eq_none_iff.mpr fun network => sound.once.mp network named
    obtain ⟨project, name, filled⟩ := named
    have project_ : c.project = some project := by simp [Consumer.project, name, filled]
    exact ⟨rfl, .inl ⟨project, filled, name, project_, other⟩⟩
  · obtain ⟨network, path, filled⟩ := sound.once.mpr named
    have other : c.project = none := filter_eq_none_iff.mpr named
    have network_ : c.network = some network := by simp [Consumer.network, path, filled]
    exact ⟨rfl, .inr ⟨network, sound.form network path filled, path, network_, other⟩⟩

theorem consumers_of_parse (h : parse text = .ok p) :
    List.Forall₂ Identifies p.consumers (p.consumers.map (·.limit)) := by
  refine List.forall₂_map_right_iff.mpr (List.forall₂_same.mpr fun c mem => ?_)
  exact identifies_limit ((sound_of_parse h).consumers c mem)

/-! ## Ports -/

theorem mem_nodePorts {n : Int32} : n ∈ p.nodePorts ↔ ∃ e ∈ p.ports.values, e.nodePort = n := by
  rw [nodePorts, Keyed.mem_keys_ofList, List.map_map, List.mem_map]
  rfl

theorem nodePorts_ascending (p : Payload) : p.nodePorts.Pairwise (· < ·) :=
  (Keyed.keys_ascending _).imp fun before => compareOfLessAndEq_eq_lt.mp before

theorem nodePorts_inRange (h : parse text = .ok p) : ∀ n ∈ p.nodePorts, InRange n := by
  intro n mem
  obtain ⟨e, entry, rfl⟩ := mem_nodePorts.mp mem
  exact (sound_of_parse h).ports e entry .nodePort

theorem nodePorts_ne_nil (asked : p.ports.isEmpty = false) : p.nodePorts ≠ [] := by
  obtain ⟨⟨name, e⟩, entry⟩ := List.exists_mem_of_ne_nil p.ports.entries
    (List.isEmpty_eq_false_iff.mp asked)
  have mem : e ∈ p.ports.values := List.mem_map.mpr ⟨_, entry, rfl⟩
  exact List.ne_nil_of_mem (mem_nodePorts.mpr ⟨e, mem, rfl⟩)

end Payload

end ReplicaPorts
