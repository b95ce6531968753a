import ReplicaPorts.Proofs.Pass.Leads

/-!
# Passes that only look

A pass is `Quiet` in a world if it succeeds there, asks for nothing that may change something, and
leaves the world as it was, but for the calls that are listed. Quiet passes in a row are quiet.
-/

set_option autoImplicit false

namespace ReplicaPorts.Pass

open Cluster Compute

variable {α β : Type} {w : World} {a : α}

/-- Whether an ask may change something. -/
def Ask.isWrite : Ask → Bool
  | .cluster c => c.isWrite
  | .compute c => c.isWrite
  | .node _ _ => false

/-- A world in which other calls are listed. -/
def World.withCalls (w : World) (cs : List Cluster.Call) (ks : List Compute.Call) : World where
  cluster := { w.cluster with calls := cs }
  compute := { w.compute with calls := ks }

/-- A pass succeeds with a value, asks for nothing that may change something, and leaves the world
as it was, but for the calls. -/
def Quiet (p : Pass α) (w : World) (a : α) : Prop :=
  Leads p w
    (fun t b v => b = a ∧ (∀ x ∈ t, x.isWrite = false) ∧ ∃ cs ks, v = w.withCalls cs ks)
    fun _ _ _ => False

theorem Quiet.pure (a : α) (w : World) : Quiet (pure a) w a :=
  .ok rfl ⟨rfl, fun _ mem => (List.not_mem_nil mem).elim, _, _, rfl⟩

theorem Quiet.bind {b : β} {p : Pass α} {f : α → Pass β} (hp : Quiet p w a)
    (hf : ∀ cs ks, Quiet (f a) (w.withCalls cs ks) b) : Quiet (p >>= f) w b := by
  refine Leads.bind hp ?_ fun _ _ _ h => h
  intro t _ _ known
  obtain ⟨rfl, reads, cs, ks, rfl⟩ := known
  refine (hf cs ks).weaken ?_ fun _ _ _ h => h
  intro t' _ _ known
  obtain ⟨rfl, reads', cs', ks', rfl⟩ := known
  exact ⟨rfl, List.forall_mem_append.mpr ⟨reads, reads'⟩, cs', ks', rfl⟩

/-- What a quiet pass gives and leaves: the calls that it adds only read. -/
theorem Quiet.outcome {p : Pass α} (h : Quiet p w a) :
    (p.outcome w).1 = .ok a ∧
    (∃ calls, (p.outcome w).2.cluster.calls = w.cluster.calls ++ calls ∧
      ∀ c ∈ calls, c.isWrite = false) ∧
    (∃ calls, (p.outcome w).2.compute.calls = w.compute.calls ++ calls ∧
      ∀ c ∈ calls, c.isWrite = false) ∧
    (p.outcome w).2.forgetCalls = w.forgetCalls := by
  cases h with
  | error _ known => exact known.elim
  | ok outcome known =>
    obtain ⟨rfl, reads, cs, ks, rfl⟩ := known
    refine ⟨by rw [outcome], ⟨_, outcome_clusterCalls_asked p w, fun c mem => ?_⟩,
      ⟨_, outcome_computeCalls_asked p w, fun c mem => ?_⟩, by rw [outcome]; rfl⟩
    · obtain ⟨x, asked, call⟩ := List.mem_filterMap.mp mem
      have read := reads x asked
      cases x with
      | cluster c' => exact Option.some.inj call ▸ read
      | compute c' => cases call
      | node name ahead => exact Option.some.inj call ▸ rfl
    · obtain ⟨x, asked, call⟩ := List.mem_filterMap.mp mem
      have read := reads x asked
      cases x with
      | compute c' => exact Option.some.inj call ▸ read
      | cluster c' => cases call
      | node name ahead => cases call

theorem Quiet.during {p : Pass α} (h : Quiet p w a) (s : Step) : Quiet (during s p) w a :=
  Leads.during_sure h s

theorem Quiet.ofExcept {ε : Type} {error : ε → Error} {x : Except ε α} (h : x = .ok a)
    (w : World) : Quiet (ofExcept error x) w a := by
  subst h
  exact Quiet.pure a w

/-- A call to the cluster that only reads, and is answered. -/
theorem Quiet.cluster {c : Cluster.Call} {a : c.Value} (read : c.isWrite = false)
    (answered : (w.cluster.answer c).1 = .ok a) : Quiet (cluster c) w a := by
  have left : w.cluster.answer c = (.ok a, w.cluster.note c) := by
    rw [← answered, ← Memory.answer_of_read read]
  refine (leads_answered left).weaken ?_ fun _ _ _ h => h
  intro _ _ _ known
  obtain ⟨rfl, rfl, rfl⟩ := known
  exact ⟨rfl, List.forall_mem_singleton.mpr read, _, _, rfl⟩

/-- Calls to the Compute API that only read. -/
theorem Quiet.compute {p : Program Compute.calls (Except Compute.Error α)}
    {ks : List Compute.Call}
    (ran : p.run Simulator.answer w.compute = (.ok a, { w.compute with calls := ks }))
    (reads : ∀ c ∈ (p.trace Simulator.answer w.compute).map (·.op), c.isWrite = false) :
    Quiet (compute p) w a := by
  refine (leads_ran ran).weaken ?_ fun _ _ _ h => h
  intro _ _ _ known
  obtain ⟨rfl, rfl, rfl⟩ := known
  exact ⟨rfl, List.forall_mem_map.mpr reads, _, _, rfl⟩

end ReplicaPorts.Pass
