import Mathlib.Data.List.Forall2
import ReplicaPorts.Proofs.Replica.Mappings
import ReplicaPorts.Proofs.Replica.Order

/-!
# More or fewer replicas

A replica that stays keeps its place, and with it its ports, when others come behind it or go from
there (`scaling_spares`). Runs that fit some replicas fit fewer of them (`Fit.mono`), and the
mappings of the first replicas are the first mappings (`Accepts.append`). No two mappings share a
port, so what is registered beyond the first replicas are the mappings of the others, whole and
alone.
-/

set_option autoImplicit false

namespace ReplicaPorts

open Compute

namespace PortRun

variable {ports : Keyed String PortEntry} {fewer more : Nat}

theorem Counts.mono (h : Counts ports more) (le : fewer ≤ more) : Counts ports fewer := by
  intro e mem
  have counted := h e mem
  omega

theorem Takes.mono {x : String × PortEntry} {port : Int} (h : Takes fewer x port)
    (le : fewer ≤ more) : Takes more x port := by
  obtain ⟨least, most⟩ := h
  refine ⟨least, ?_⟩
  unfold lastPort at most ⊢
  omega

theorem Fit.mono (h : Fit ports more) (le : fewer ≤ more) : Fit ports fewer where
  within x mem := by
    have within := h.within x mem
    unfold lastPort at within ⊢
    omega
  apart x memX y memY differ port both :=
    h.apart x memX y memY differ port ⟨both.1.mono le, both.2.mono le⟩

/-- The mappings of machines from a place on. -/
def mappingsFrom (ports : Keyed String PortEntry) (start : Nat) (paths : List String) :
    List PortMapping :=
  (paths.zipIdx start).flatMap fun (path, i) => mappingsOf ports path i

theorem mappingsFrom_append (start : Nat) (xs ys : List String) :
    mappingsFrom ports start (xs ++ ys) =
      mappingsFrom ports start xs ++ mappingsFrom ports (start + xs.length) ys := by
  rw [mappingsFrom, List.zipIdx_append, List.flatMap_append, mappingsFrom, mappingsFrom]

variable {xs ys : List String} {ms : List PortMapping}

/-- If some machines take the ports then so do the first of them, and the mappings of the others
come behind theirs. -/
theorem Accepts.append (h : Accepts ports (xs ++ ys) ms) :
    ∃ kept, Accepts ports xs kept ∧ ms = kept ++ mappingsFrom ports xs.length ys := by
  obtain ⟨all, small, sound⟩ := mappings_eq h.given
  have le : xs.length ≤ (xs ++ ys).length := by simp
  have counts := h.counts.mono le
  have small' : (xs.length : Int) ≤ Int32.maxValue.toInt := by omega
  have free : xs = [] ∨ fault? ports xs.length = none := by
    by_cases none_ : xs = []
    · exact .inl none_
    · have some_ := List.length_pos_iff.mpr none_
      have fit := (fault?_eq_none_iff (Nat.lt_of_lt_of_le some_ le) small h.counts).mp
        (sound (List.append_ne_nil_of_left_ne_nil none_ ys))
      exact .inr ((fault?_eq_none_iff some_ small' counts).mpr (fit.mono le))
  obtain ⟨kept, given⟩ := (exists_mappings_iff small').mpr free
  refine ⟨kept, ⟨counts, given⟩, ?_⟩
  obtain ⟨rfl, -⟩ := mappings_eq given
  rw [all]
  exact (mappingsFrom_append 0 xs ys).trans (by rw [Nat.zero_add]; rfl)

end PortRun

namespace Replica

open Cluster

variable {pods pods' : List Pod}

/-- Pods that come after all others add their replicas at the end of the list. -/
theorem ofPods_append (distinct : Distinct (pods ++ pods'))
    (later : ∀ p ∈ pods, Scheduled p → ∀ q ∈ pods', Scheduled q → Precedes p q) :
    ofPods (pods ++ pods') = ofPods pods ++ ofPods pods' := by
  have names := distinct
  rw [Distinct, List.map_append] at names
  obtain ⟨first, others, -⟩ := List.nodup_append.mp names
  exact (ofPods_inOrder distinct).unique
    ((ofPods_inOrder first).append (ofPods_inOrder others) later)

/-- If the pods that were put on nodes fall into two parts, and all of one come after those of the
other, then the replicas do so as well, and so do the machines `xs` and `ys` that are found for
them. When all of these take the ports, so do the first ones alone, and they have the same mappings
with or without the others: going up detaches nothing, and going down detaches the mappings of `ys`
and nothing else. -/
theorem scaling_spares (distinct : Distinct (pods ++ pods'))
    (later : ∀ p ∈ pods, Scheduled p → ∀ q ∈ pods', Scheduled q → Precedes p q) :
    ofPods (pods ++ pods') = ofPods pods ++ ofPods pods' ∧
    ∀ (ports : Keyed String PortEntry) (xs ys : List String) (found : Replica → String → Prop),
      List.Forall₂ found (ofPods pods) xs → List.Forall₂ found (ofPods pods') ys →
      List.Forall₂ found (ofPods (pods ++ pods')) (xs ++ ys) ∧
      ∀ ms, PortRun.Accepts ports (xs ++ ys) ms →
        ∃ kept, PortRun.Accepts ports xs kept ∧ kept <+: ms ∧
          PortMapping.surplus ms kept = [] ∧
          PortMapping.surplus kept ms = PortRun.mappingsFrom ports xs.length ys := by
  refine ⟨ofPods_append distinct later, fun ports xs ys found foundX foundY => ⟨?_, fun ms h => ?_⟩⟩
  · rw [ofPods_append distinct later]
    exact List.rel_append foundX foundY
  · obtain ⟨kept, accepted, rfl⟩ := h.append
    refine ⟨kept, accepted, List.prefix_append _ _, ?_, ?_⟩
    · exact PortMapping.without_eq_nil fun m mem => List.mem_append_left _ mem
    · refine PortMapping.without_append fun m added mem => ?_
      -- a mapping on both sides would share its port with itself
      have apart := (List.pairwise_append.mp (PortRun.mappings_pairwise h)).2.2
      exact apart m mem m added rfl

end Replica

namespace Small

open Cluster Replica

/-- The pod of an ordinal. -/
def podAt (ordinal node : String) : Pod where
  metadata := { name := some s!"app-{ordinal}" }
  nodeName := some node

/-- Two named ports for two replicas. -/
def twice : List PortMapping := [⟨40002, "here", 30100⟩, ⟨40000, "here", 30000⟩,
  ⟨40003, "there", 30100⟩, ⟨40001, "there", 30000⟩]

/-- The replica with the ordinal 10 comes behind the one with the ordinal 9, though not by its name.
When it goes, its mappings are the ones to detach. -/
theorem small_scaling_spares :
    ofPods ([podAt "9" "here"] ++ [podAt "10" "there"]) =
      ofPods [podAt "9" "here"] ++ ofPods [podAt "10" "there"] ∧
    List.Forall₂ (fun r path => path = r.node) (ofPods ([podAt "9" "here"] ++ [podAt "10" "there"]))
      (["here"] ++ ["there"]) ∧
    PortRun.Accepts neighbours (["here"] ++ ["there"]) twice ∧
    ∃ kept, PortRun.Accepts neighbours ["here"] kept ∧ kept <+: twice ∧
      PortMapping.surplus twice kept = [] ∧
      PortMapping.surplus kept twice = PortRun.mappingsFrom neighbours 1 ["there"] := by
  have order : Precedes (podAt "9" "here") (podAt "10" "there") :=
    precedes_iff.mpr (by decide +kernel)
  have replicas : ofPods [podAt "9" "here"] = [⟨"app-9", "here"⟩] ∧
      ofPods [podAt "10" "there"] = [⟨"app-10", "there"⟩] := by decide +kernel
  have counts : PortRun.Counts neighbours 2 := by
    unfold PortRun.Counts
    decide +kernel
  have sound := (PortRun.fault?_eq_none_iff (by decide) (by decide) counts).mpr fit_neighbours
  have accepted : PortRun.Accepts neighbours (["here"] ++ ["there"]) twice := by
    obtain ⟨ms, given⟩ :=
      (@PortRun.exists_mappings_iff _ ["here", "there"] (by decide)).mpr (.inr sound)
    obtain rfl : ms = twice := (PortRun.mappings_eq given).1.trans (by decide +kernel)
    exact ⟨counts, given⟩
  obtain ⟨whole, spared⟩ := @scaling_spares [podAt "9" "here"] [podAt "10" "there"]
    (by decide +kernel) (by simpa using fun _ _ => order)
  obtain ⟨found, kept⟩ := spared neighbours ["here"] ["there"] (fun r path => path = r.node)
    (by rw [replicas.1]; exact .cons rfl .nil) (by rw [replicas.2]; exact .cons rfl .nil)
  exact ⟨whole, found, accepted, kept twice accepted⟩

end Small

end ReplicaPorts
