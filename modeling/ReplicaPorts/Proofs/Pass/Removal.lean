import ReplicaPorts.Proofs.Compute.Retirement
import ReplicaPorts.Proofs.Pass.Leads

/-!
# Removing the resources of some names

The resources are removed from the one that nothing refers to down to the one that refers to
nothing. `Removed` is what holds on the way: some kinds are gone, everything under other names is as
it was, and a removal was asked for each of these kinds. Where only resources of the same names
refer to each other (`Confined`), each removal finds its resource unused, so it is done unless it is
told to fail.
-/

set_option autoImplicit false

namespace ReplicaPorts

open Compute

/-- The name of the resource of a kind. -/
def Names.resource (names : Names) : Kind → String
  | .firewall => names.firewall
  | .group => names.group
  | .backend => names.backend
  | .rule => names.rule
  | .attachment => names.attachment

namespace Pass

variable {names : Names} {w v : World}

/-- Whatever refers to a resource of some names is the resource of these names that should. -/
def Confined (place : Location) (names : Names) (s : Store) : Prop :=
  ∀ kind user, s.Uses place kind (names.resource kind) user →
    ∃ k, kind.user? = some k ∧ user = names.resource k

theorem Confined.unused {place : Location} {s : Store} (confined : Confined place names s)
    {kind : Kind} (gone : ∀ k, kind.user? = some k → s.find? k (names.resource k) = none) :
    s.userOf? place kind (names.resource kind) = none := by
  refine Store.userOf?_eq_none fun user uses => ?_
  obtain ⟨k, isUser, rfl⟩ := confined kind user uses
  obtain ⟨k', isUser', present⟩ := uses.exists_find?
  obtain rfl : k = k' := Option.some.inj (isUser.symm.trans isUser')
  rw [gone k isUser] at present
  cases present

/-- A Compute API differs from an earlier one at most in resources of some names, and these can be
removed in their order. -/
structure Spared (names : Names) (s s' : Simulator) : Prop where
  place : s'.place = s.place
  found : ∀ kind name, name ≠ names.resource kind →
    s'.store.find? kind name = s.store.find? kind name
  endpoints : ∀ group, group ≠ names.group →
    s'.store.endpoints.get? group = s.store.endpoints.get? group
  paired : s'.store.Paired
  confined : Confined s'.place names s'.store

variable {s s' s'' : Simulator}

theorem Spared.refl (paired : s.store.Paired) (confined : Confined s.place names s.store) :
    Spared names s s :=
  ⟨rfl, fun _ _ _ => rfl, fun _ _ => rfl, paired, confined⟩

theorem Spared.trans (h : Spared names s s') (h' : Spared names s' s'') : Spared names s s'' :=
  ⟨h'.place.trans h.place,
    fun kind name ne => (h'.found kind name ne).trans (h.found kind name ne),
    fun group ne => (h'.endpoints group ne).trans (h.endpoints group ne), h'.paired, h'.confined⟩

/-- The calls and the failures do not matter. -/
theorem Spared.congr (h : Spared names s s') (place : s''.place = s'.place)
    (store : s''.store = s'.store) : Spared names s s'' := by
  obtain ⟨place', store', failures', calls'⟩ := s''
  obtain rfl : place' = _ := place
  obtain rfl : store' = _ := store
  exact ⟨h.place, h.found, h.endpoints, h.paired, h.confined⟩

theorem Spared.drop (h : Spared names s s') (kind : Kind) (calls : List Call) :
    Spared names s { s' with store := s'.store.drop kind (names.resource kind), calls } where
  place := h.place
  found := by
    intro kind' name ne
    rw [Store.find?_drop_ne, h.found kind' name ne]
    by_cases same : kind' = kind
    · exact .inr (same ▸ ne)
    · exact .inl same
  endpoints := by
    intro group ne
    rw [Store.endpoints_drop, h.endpoints group ne]
    by_cases same : kind = .group
    · exact .inr (by rw [same]; exact ne)
    · exact .inl same
  paired := h.paired.drop
  confined := fun kind' user uses => h.confined kind' user uses.of_drop

/-- A world differs from an earlier one at most in such resources and in the calls to the Compute
API. -/
structure Torn (names : Names) (w v : World) : Prop extends Spared names w.compute v.compute where
  cluster : v.cluster = w.cluster
  failures : v.compute.failures = w.compute.failures

theorem Torn.refl (paired : w.compute.store.Paired)
    (confined : Confined w.compute.place names w.compute.store) : Torn names w w :=
  ⟨.refl paired confined, rfl, rfl⟩

/-- The resources of some kinds are gone, and their removal was not told to fail. -/
structure Removed (names : Names) (done : List Kind) (w v : World) : Prop extends
    Torn names w v where
  gone : ∀ kind ∈ done, v.compute.store.find? kind (names.resource kind) = none
  allowed : ∀ kind ∈ done, w.compute.injected? (.delete kind (names.resource kind)) = none

/-- A removal was told to fail. -/
def Hindered (names : Names) (w : World) : Prop :=
  ∃ kind, (w.compute.injected? (.delete kind (names.resource kind))).isSome = true

theorem injected?_congr {s s' : Simulator} (h : s'.failures = s.failures) (c : Call) :
    s'.injected? c = s.injected? c := by
  unfold Simulator.injected?
  rw [h]

theorem outcome_remove (s : Step) (kind : Kind) (name : String) (w : World) :
    (remove s kind name).outcome w =
      (((retire kind name).run Simulator.answer w.compute).1.mapError (.step s ∘ .compute)
          |>.map fun _ => (),
        { w with compute := ((retire kind name).run Simulator.answer w.compute).2 }) := by
  rw [remove, outcome_during, outcome_bind, outcome_compute]
  cases ((retire kind name).run Simulator.answer w.compute).1 <;> rfl

theorem asked_remove (s : Step) (kind : Kind) (name : String) (w : World) :
    (remove s kind name).asked w = [.compute (.delete kind name)] := by
  rw [remove, asked_during, asked_bind, asked_compute, asked_retire, outcome_compute]
  cases ((retire kind name).run Simulator.answer w.compute).1 <;> rfl

/-- One more resource is removed after those that refer to it, unless that is told to fail. -/
theorem leads_remove {done : List Kind} (s : Step) (kind : Kind) (genuine : w.compute.Genuine)
    (h : Removed names done w v) (after : ∀ k, kind.user? = some k → k ∈ done) :
    Leads (remove s kind (names.resource kind)) v
      (fun t _ u => t = [.compute (.delete kind (names.resource kind))] ∧
        Removed names (kind :: done) w u)
      (fun _ _ u => Torn names w u ∧ Hindered names w) := by
  have unused := h.confined.unused fun k isUser => h.gone k (after k isUser)
  have genuine' : v.compute.Genuine := fun k n => h.failures ▸ genuine k n
  have told := injected?_congr h.failures (.delete kind (names.resource kind))
  cases injected : v.compute.injected? (.delete kind (names.resource kind)) with
  | some e =>
    refine .error (by rw [outcome_remove, retire_injected genuine' injected]; rfl) ?_
    exact ⟨⟨h.toSpared.congr rfl rfl, h.cluster, h.failures⟩, kind, by rw [← told, injected]; rfl⟩
  | none =>
    obtain ⟨present, ran⟩ := retire_unused injected unused h.paired
    refine .ok (by rw [outcome_remove, ran]; rfl) ⟨asked_remove .., ?_⟩
    refine ⟨⟨h.toSpared.drop kind _, h.cluster, h.failures⟩, ?_, ?_⟩
    · refine List.forall_mem_cons.mpr ⟨Store.find?_drop_self, fun k mem => ?_⟩
      by_cases same : k = kind
      · subst same
        exact Store.find?_drop_self
      · exact (Store.find?_drop_ne (.inl same)).trans (h.gone k mem)
    · exact List.forall_mem_cons.mpr ⟨told ▸ injected, h.allowed⟩

/-- The kinds in the order of their removal. -/
def removalOrder : List Kind := [.attachment, .rule, .backend, .group, .firewall]

theorem leads_removeAll (genuine : w.compute.Genuine) (h : Torn names w v) :
    Leads (removeAll names) v
      (fun t _ u =>
        t = removalOrder.map (fun kind => .compute (.delete kind (names.resource kind))) ∧
        Removed names removalOrder.reverse w u)
      (fun _ _ u => Torn names w u ∧ Hindered names w) := by
  have start : Removed names [] w v := ⟨h, by simp, by simp⟩
  refine (leads_remove _ _ genuine start (by decide)).bind ?_ fun _ _ _ h => h
  intro _ _ _ known
  obtain ⟨rfl, removed⟩ := known
  refine (leads_remove _ _ genuine removed (by decide)).bind ?_ fun _ _ _ h => h
  intro _ _ _ known
  obtain ⟨rfl, removed⟩ := known
  refine (leads_remove _ _ genuine removed (by decide)).bind ?_ fun _ _ _ h => h
  intro _ _ _ known
  obtain ⟨rfl, removed⟩ := known
  refine (leads_remove _ _ genuine removed (by decide)).bind ?_ fun _ _ _ h => h
  intro _ _ _ known
  obtain ⟨rfl, removed⟩ := known
  refine (leads_remove _ _ genuine removed (by decide)).weaken ?_ fun _ _ _ h => h
  intro _ _ _ known
  obtain ⟨rfl, removed⟩ := known
  exact ⟨rfl, removed⟩

end Pass

end ReplicaPorts
