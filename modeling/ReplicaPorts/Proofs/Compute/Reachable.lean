import ReplicaPorts.Proofs.Compute.Simulator
import ReplicaPorts.Proofs.Compute.Store

/-!
# Reachable simulators

The states that a Compute API in memory gets to by its own operations: calls of any sort, resources
that are put in, failures that calls are told. In all of them the groups and the lists of endpoints
go by the same names (`Reachable.paired`).
-/

set_option autoImplicit false

namespace ReplicaPorts.Compute

namespace Store

variable {s : Store} {place : Location}

/-- Other endpoints in the place of those of a group that has some. -/
theorem Paired.endpoints_insert {group : String} {old : List PortMapping} (h : s.Paired)
    (present : s.endpoints.get? group = some old) (new : List PortMapping) :
    ({ s with endpoints := s.endpoints.insert group new } : Store).Paired := by
  intro other
  by_cases same : other = group
  · subst same
    have := h other
    rw [present] at this
    exact (congrArg Option.isSome (Keyed.get?_insert_self ..)).trans this
  · exact (congrArg Option.isSome (Keyed.get?_insert_ne _ _ same)).trans (h other)

/-- Other resources that are no groups do not matter. -/
theorem Paired.withResources {kind : Kind} (h : s.Paired) (ne : kind ≠ .group)
    (m : Keyed String kind.Model) : (s.withResources kind m).Paired := by
  intro other
  rw [find?, resources_withResources_ne m ne.symm]
  exact h other

theorem Paired.create (h : s.Paired) (name : String) (design : Design) :
    (s.create place name design).2.Paired := by
  obtain ⟨e, refused⟩ | ⟨-, -, created⟩ := s.create_cases place name design
  · rwa [refused]
  · rw [created]
    exact h.put design

theorem Paired.delete (h : s.Paired) (kind : Kind) (name : String) :
    (s.delete place kind name).2.Paired := by
  obtain ⟨e, refused⟩ | ⟨-, -, deleted⟩ := s.delete_cases place kind name
  · rwa [refused]
  · rw [deleted]
    exact h.drop

theorem Paired.perform (h : s.Paired) (c : Call) : (s.perform place c).2.Paired := by
  cases c with
  | get kind name => exact h
  | listEndpoints group => exact h
  | create name design => exact h.create name design
  | delete kind name => exact h.delete kind name
  | updateFirewall name ports =>
    simp only [Store.perform]
    split
    · exact h.withResources (by decide) _
    · exact h
  | attachEndpoints group mappings =>
    simp only [Store.perform]
    split
    · next present => exact h.endpoints_insert present _
    · exact h
  | detachEndpoints group mappings =>
    simp only [Store.perform]
    split
    · next present => exact h.endpoints_insert present _
    · exact h

theorem Paired.putGroup (h : s.Paired) (name : String) (mappings : List PortMapping) :
    (s.putGroup name mappings).Paired := by
  intro other
  unfold Store.putGroup find?
  simp only [endpoints_withResources]
  rw [resources_withResources_self]
  by_cases same : other = name
  · subst same
    rw [Keyed.get?_insert_self, Keyed.get?_insert_self]
    rfl
  · rw [Keyed.get?_insert_ne _ _ same, Keyed.get?_insert_ne _ _ same]
    exact h other

end Store

theorem Store.Paired.answer {s : Simulator} (h : s.store.Paired) (c : Call) :
    (s.answer c).2.store.Paired :=
  Simulator.answer_keeps h (h.perform c)

/-- A simulator is in a state that its own operations lead to. -/
inductive Simulator.Reachable : Simulator → Prop where
  | fresh (place : Location) : Reachable { place }
  | call {s : Simulator} (h : Reachable s) (c : Call) : Reachable (s.answer c).2
  | putFirewall {s : Simulator} (h : Reachable s) (f : Firewall) :
      Reachable { s with store := s.store.putFirewall f }
  | putGroup {s : Simulator} (h : Reachable s) (name : String) (mappings : List PortMapping) :
      Reachable { s with store := s.store.putGroup name mappings }
  | inject {s : Simulator} (h : Reachable s) (method : String) (status : Nat) :
      Reachable (s.inject method status)
  | heal {s : Simulator} (h : Reachable s) : Reachable s.heal
  | forgetCalls {s : Simulator} (h : Reachable s) : Reachable s.forgetCalls

theorem Simulator.Reachable.paired {s : Simulator} (h : s.Reachable) : s.store.Paired := by
  induction h with
  | fresh place => exact fun _ => rfl
  | call _ c ih => exact ih.answer c
  | putFirewall _ f ih => exact ih.withResources (by decide) _
  | putGroup _ name mappings ih => exact ih.putGroup name mappings
  | inject _ _ _ ih => exact ih
  | heal _ ih => exact ih
  | forgetCalls _ ih => exact ih

end ReplicaPorts.Compute
