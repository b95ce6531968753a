import ReplicaPorts.Pass.Resources
import ReplicaPorts.Proofs.Compute.Provision
import ReplicaPorts.Proofs.Replica.Mappings

/-!
# Aligning endpoints

What `alignEndpoints` does to a simulator that fails no call. Whatever a group holds, once it
succeeds it holds what is desired and nothing else, in some order; it does succeed if no two desired
mappings share a port (`SinglePorted`), since what is left after detaching is desired, so no port of
it is in the way of what is attached (`alignEndpoints_run`). A group that holds what is desired is
only looked at (`alignEndpoints_aligned`).
-/

set_option autoImplicit false

namespace ReplicaPorts

open Compute

/-- No two mappings of a list share a port. -/
def SinglePorted (ms : List PortMapping) : Prop :=
  ∀ a ∈ ms, ∀ b ∈ ms, a.port = b.port → a = b

theorem SinglePorted.of_subset {ms ms' : List PortMapping} (h : SinglePorted ms)
    (sub : ∀ m ∈ ms', m ∈ ms) : SinglePorted ms' :=
  fun a memA b memB same => h a (sub a memA) b (sub b memB) same

/-- When mappings were attached, they are there besides those that were. -/
theorem Compute.Store.mem_attachAll {attached ms l : List PortMapping}
    (done : attachAll attached ms = (.ok (), l)) : ∀ m, m ∈ l ↔ m ∈ attached ∨ m ∈ ms := by
  induction ms generalizing attached with
  | nil =>
    obtain rfl : attached = l := (Prod.mk.inj done).2
    simp
  | cons m ms ih =>
    unfold attachAll at done
    split at done
    · next there =>
      intro m'
      rw [ih done m']
      grind
    · split at done
      · cases (Prod.mk.inj done).1
      · intro m'
        rw [ih done m']
        grind

/-- Mappings are attached if all of them together share no port. -/
theorem Compute.Store.attachAll_ok {attached ms : List PortMapping}
    (single : SinglePorted (attached ++ ms)) : (attachAll attached ms).1 = .ok () := by
  induction ms generalizing attached with
  | nil => rfl
  | cons m ms ih =>
    by_cases there : m ∈ attached
    · have rest : SinglePorted (attached ++ ms) := single.of_subset (by grind)
      rw [attachAll, if_pos there]
      exact ih rest
    · have free : ¬ attached.any (·.port == m.port) = true := by
        intro taken
        obtain ⟨a, memA, same⟩ := List.any_eq_true.mp taken
        have both := single a (List.mem_append_left _ memA) m (by simp) (beq_iff_eq.mp same)
        exact there (both ▸ memA)
      have rest : SinglePorted (attached ++ [m] ++ ms) := single.of_subset (by grind)
      rw [attachAll, if_neg there, if_neg free]
      exact ih rest

namespace Pass

variable {s : Simulator} {group : String} {desired actual : List PortMapping}

/-- A simulator in which other endpoints of a group and other calls are listed. -/
def relist (s : Simulator) (group : String) (ms : List PortMapping) (calls : List Call) :
    Simulator :=
  { s with store := { s.store with endpoints := s.store.endpoints.insert group ms }, calls }

theorem relist_relist (s : Simulator) (group : String) (ms ms' : List PortMapping)
    (calls calls' : List Call) :
    relist (relist s group ms calls) group ms' calls' = relist s group ms' calls' := by
  have same : (s.store.endpoints.insert group ms).insert group ms' =
      s.store.endpoints.insert group ms' := by
    refine Keyed.ext_get? fun g => ?_
    by_cases at_ : g = group
    · rw [at_, Keyed.get?_insert_self, Keyed.get?_insert_self]
    · rw [Keyed.get?_insert_ne _ _ at_, Keyed.get?_insert_ne _ _ at_, Keyed.get?_insert_ne _ _ at_]
  simp only [relist, same]

theorem relist_of_listed (listed : s.store.endpoints.get? group = some actual)
    (calls : List Call) : relist s group actual calls = { s with calls } := by
  rw [relist, Keyed.insert_eq_self_iff.mpr listed]

/-- Detaches what is not desired, where there is anything of the sort. -/
def detachSurplus (group : String) (desired actual : List PortMapping) :
    Program Compute.calls (Except Compute.Error Unit) :=
  if PortMapping.surplus desired actual = [] then .done (.ok ())
  else request (.detachEndpoints group (PortMapping.surplus desired actual))

/-- Attaches what is missing, where there is anything of the sort. -/
def attachLacking (group : String) (desired actual : List PortMapping) :
    Program Compute.calls (Except Compute.Error Unit) :=
  if PortMapping.lacking desired actual = [] then .done (.ok ())
  else request (.attachEndpoints group (PortMapping.lacking desired actual))

theorem alignEndpoints_eq (group : String) (desired : List PortMapping) :
    alignEndpoints group desired = (request (.listEndpoints group)).bind fun
      | .error e => .done (.error e)
      | .ok actual => (detachSurplus group desired actual).bind fun
        | .error e => .done (.error e)
        | .ok () => attachLacking group desired actual := by
  unfold alignEndpoints
  show (request (.listEndpoints group)).bind _ = _
  congr 1
  funext listed
  cases listed with
  | error e => rfl
  | ok actual =>
    dsimp only [detachSurplus]
    split
    · rfl
    · show (request (.detachEndpoints group _)).bind _ = _
      congr 1
      funext detached
      cases detached <;> rfl

theorem detachSurplus_run (desired : List PortMapping) (calm : s.Calm)
    (listed : s.store.endpoints.get? group = some actual) :
    ∃ calls, (detachSurplus group desired actual).run Simulator.answer s =
      (.ok (), relist s group (actual.filter (· ∉ PortMapping.surplus desired actual)) calls) := by
  unfold detachSurplus
  split
  · next none_ =>
    have all : actual.filter (· ∉ PortMapping.surplus desired actual) = actual := by
      simp [none_]
    refine ⟨s.calls, ?_⟩
    rw [all, relist_of_listed listed]
    rfl
  · refine ⟨s.calls ++ [.detachEndpoints group (PortMapping.surplus desired actual)], ?_⟩
    simp only [request, Program.call, Program.run_ask, Program.run_done, calm.answer, Store.perform,
      listed]
    rfl

theorem attachLacking_run (desired actual : List PortMapping) {kept : List PortMapping}
    (calm : s.Calm) (listed : s.store.endpoints.get? group = some kept) :
    ∃ r l calls, (attachLacking group desired actual).run Simulator.answer s =
      (r, relist s group l calls) ∧
      (r = .ok () → ∀ m, m ∈ l ↔ m ∈ kept ∨ m ∈ PortMapping.lacking desired actual) ∧
      (SinglePorted (kept ++ PortMapping.lacking desired actual) → r = .ok ()) := by
  unfold attachLacking
  split
  · next none_ =>
    refine ⟨.ok (), kept, s.calls, ?_, by simp [none_], fun _ => rfl⟩
    rw [relist_of_listed listed]
    rfl
  · refine ⟨(Store.attachAll kept (PortMapping.lacking desired actual)).1,
      (Store.attachAll kept (PortMapping.lacking desired actual)).2,
      s.calls ++ [.attachEndpoints group (PortMapping.lacking desired actual)], ?_,
      fun attached => Store.mem_attachAll (Prod.ext attached rfl), Store.attachAll_ok⟩
    simp only [request, Program.call, Program.run_ask, Program.run_done, calm.answer, Store.perform,
      listed]
    rfl

/-- Whatever a group holds, afterwards it holds what is desired, unless that cannot be attached
because mappings share a port. -/
theorem alignEndpoints_run (desired : List PortMapping) (calm : s.Calm)
    (listed : s.store.endpoints.get? group = some actual) :
    ∃ r l calls, (alignEndpoints group desired).run Simulator.answer s =
      (r, relist s group l calls) ∧ (r = .ok () → ∀ m, m ∈ l ↔ m ∈ desired) ∧
      (SinglePorted desired → r = .ok ()) := by
  rw [alignEndpoints_eq]
  simp only [request, Program.call, Program.ask_bind, Program.done_bind, Program.run_ask,
    calm.answer, Store.perform, listed]
  obtain ⟨calls, detached⟩ := detachSurplus_run
    (s := { s with calls := s.calls ++ [.listEndpoints group] }) desired calm listed
  rw [Program.run_bind, detached]
  -- what is kept and what is missing make up what is desired
  have whole : ∀ m, m ∈ actual.filter (· ∉ PortMapping.surplus desired actual) ∨
      m ∈ PortMapping.lacking desired actual ↔ m ∈ desired := by
    intro m
    simp only [List.mem_filter, decide_eq_true_eq, PortMapping.surplus, PortMapping.lacking,
      PortMapping.mem_without]
    grind
  obtain ⟨r, l, calls', attached, mem, came⟩ := attachLacking_run
    (s := relist { s with calls := s.calls ++ [.listEndpoints group] } group _ calls) desired actual
    calm (Keyed.get?_insert_self ..)
  refine ⟨r, l, calls', attached.trans ?_, fun ok m => (mem ok m).trans (whole m), fun single => ?_⟩
  · rw [relist_relist]
    rfl
  · exact came (single.of_subset fun m mem => (whole m).mp (List.mem_append.mp mem))

/-- A group that holds what is desired is only looked at. -/
theorem alignEndpoints_aligned (calm : s.Calm)
    (listed : s.store.endpoints.get? group = some actual) (same : ∀ m, m ∈ actual ↔ m ∈ desired) :
    (alignEndpoints group desired).run Simulator.answer s =
      (.ok (), { s with calls := s.calls ++ [.listEndpoints group] }) ∧
    ((alignEndpoints group desired).trace Simulator.answer s).map (·.op) =
      [.listEndpoints group] := by
  have nothingSurplus : PortMapping.surplus desired actual = [] :=
    PortMapping.without_eq_nil fun m => (same m).mp
  have nothingLacking : PortMapping.lacking desired actual = [] :=
    PortMapping.without_eq_nil fun m => (same m).mpr
  rw [alignEndpoints_eq]
  simp only [request, Program.call, Program.ask_bind, Program.done_bind, Program.run_ask,
    Program.trace_ask, calm.answer, Store.perform, listed, detachSurplus, attachLacking,
    nothingSurplus, nothingLacking]
  exact ⟨rfl, rfl⟩

end Pass

end ReplicaPorts
