import ReplicaPorts.Cluster.Memory

/-!
# Reachable clusters

The states that a cluster in memory gets to by its own operations: objects that are put in and taken
out, calls of any sort, failures that calls are told. In all of them a service is stored under its
own name (`Reachable.named`).
-/

set_option autoImplicit false

namespace ReplicaPorts.Cluster.Memory

variable {m : Memory}

/-- Services are stored under their own names. -/
def Named (m : Memory) : Prop :=
  ∀ key s, m.services.get? key = some s → serviceKey key.space s = key

theorem Named.putService (h : m.Named) (space : String) (s : Service) :
    (m.putService space s).Named := by
  intro key stored found
  by_cases same : key = serviceKey space s
  · subst same
    obtain rfl : s = stored := Option.some.inj ((Keyed.get?_insert_self ..).symm.trans found)
    rfl
  · exact h key stored ((Keyed.get?_insert_ne _ _ same).symm.trans found)

theorem Named.deleteService (h : m.Named) (key : ObjectKey) :
    ({ m with services := m.services.erase key } : Memory).Named := by
  intro k stored found
  by_cases same : k = key
  · subst same
    have missing := (Keyed.get?_erase_self ..).symm.trans found
    cases missing
  · exact h k stored ((Keyed.get?_erase_ne _ same).symm.trans found)

theorem Named.answer (h : m.Named) (c : Call) : (m.answer c).2.Named := by
  have edited : ∀ key edit, ((m.note c).editFinalizers key edit).2.Named := by
    intro key edit
    unfold editFinalizers
    split <;> exact h
  unfold Memory.answer settle
  split
  · exact h
  · cases c with
    | createService space s =>
      simp only [perform]
      split
      · exact h
      · exact Named.putService (m := m.note _) h space _
    | updateService space s => exact Named.putService (m := m.note _) h space s
    | deleteService key => exact Named.deleteService (m := m.note _) h key
    | addFinalizer key finalizer => exact edited key _
    | removeFinalizer key finalizer => exact edited key _
    | _ => exact h

/-- A cluster is in a state that its own operations lead to. -/
inductive Reachable : Memory → Prop where
  | fresh : Reachable {}
  | call {m : Memory} (h : Reachable m) (c : Call) : Reachable (m.answer c).2
  | putStatefulSet {m : Memory} (h : Reachable m) (s : StatefulSet) :
      Reachable (m.putStatefulSet s)
  | putPod {m : Memory} (h : Reachable m) (p : Pod) : Reachable (m.putPod p)
  | dropPod {m : Memory} (h : Reachable m) (name : String) : Reachable (m.dropPod name)
  | putNode {m : Memory} (h : Reachable m) (n : Node) : Reachable (m.putNode n)
  | putService {m : Memory} (h : Reachable m) (space : String) (s : Service) :
      Reachable (m.putService space s)
  | tell {m : Memory} (h : Reachable m) (failures : List String) : Reachable { m with failures }
  | forgetCalls {m : Memory} (h : Reachable m) : Reachable { m with calls := [] }

theorem Reachable.named (h : m.Reachable) : m.Named := by
  induction h with
  | fresh => rintro _ _ ⟨⟩
  | call _ c ih => exact ih.answer c
  | putService _ space s ih => exact ih.putService space s
  | putStatefulSet _ _ ih => exact ih
  | putPod _ _ ih => exact ih
  | dropPod _ _ ih => exact ih
  | putNode _ _ ih => exact ih
  | tell _ _ ih => exact ih
  | forgetCalls _ ih => exact ih

end ReplicaPorts.Cluster.Memory
