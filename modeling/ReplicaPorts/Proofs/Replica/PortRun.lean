import ReplicaPorts.Proofs.Payload.Violations
import ReplicaPorts.Replica.PortRun

/-!
# Port runs that do not meet

If the runs of the named ports are accepted for a number of replicas, no two of them share a port:
sorted runs of which each ends before the next one starts lie apart altogether
(`apart_of_overlap?`). Hence no two mappings share a port (`mappings_apart`), and since the last
port of each run is one that there is, so are all of them (`mappings_inRange`).

The sums of ports and replicas are signed numbers of 32 bits. To accept some machines (`Accepts`)
is to give mappings for them without an overflow of these sums: one would end the program, or take
one port for another. The ports of an accepted payload are too small for that with any number of
replicas that a cluster has (`counts_of_parse`).
-/

set_option autoImplicit false

namespace ReplicaPorts

open Compute

namespace PortRun

/-- No sum of a starting port and a number of replicas overflows. -/
def Counts (ports : Keyed String PortEntry) (replicas : Nat) : Prop :=
  ∀ e ∈ ports.values, e.startingPort.toInt + replicas ≤ Int32.maxValue.toInt

/-- Some machines take the ports. -/
structure Accepts (ports : Keyed String PortEntry) (paths : List String) (ms : List PortMapping) :
    Prop where
  counts : Counts ports paths.length
  given : mappings ports paths = .ok ms

theorem counts_of_parse {text : String} {p : Payload} (h : Payload.parse text = .ok p)
    {replicas : Nat} (few : (replicas : Int) ≤ Int32.maxValue.toInt - maxPort.toInt) :
    Counts p.ports replicas := by
  intro e mem
  have most : e.startingPort.toInt ≤ maxPort.toInt :=
    ((Payload.parse_eq_ok_iff.mp h).2.ports e mem .startingPort).2
  omega

theorem toInt_add_ofNat {a : Int32} {n : Nat} (h : a.toInt + n ≤ Int32.maxValue.toInt)
    (small : n ≤ Int32.maxValue.toInt) : (a + Int32.ofNat n).toInt = a.toInt + n := by
  have low := a.le_toInt
  rw [Int32.toInt_maxValue] at h small
  rw [Int32.toInt_add, Int32.toInt_ofNat_of_lt (by omega)]
  exact Int.bmod_eq_of_le (by omega) (by omega)

/-- The last port of a run for at least one replica. -/
theorem of_last {replicas : Nat} (some_ : 0 < replicas) (name : String) {e : PortEntry}
    (h : e.startingPort.toInt + replicas ≤ Int32.maxValue.toInt)
    (small : replicas ≤ Int32.maxValue.toInt) :
    (PortRun.of replicas name e).last.toInt = e.startingPort.toInt + replicas - 1 := by
  have low := e.startingPort.le_toInt
  show (e.startingPort + Int32.ofNat replicas - 1).toInt = _
  rw [Int32.toInt_sub, toInt_add_ofNat h small]
  rw [Int32.toInt_maxValue] at h
  exact Int.bmod_eq_of_le (by simp; omega) (by simp; omega)

/-- Runs that are in order and of which none meets the next one lie apart. -/
theorem apart_of_overlap? (replicas : Nat) {runs : List PortRun}
    (proper : ∀ run ∈ runs, run.first.toInt ≤ run.last.toInt)
    (h : overlap? replicas runs = none) :
    runs.Pairwise fun a b => a.last.toInt < b.first.toInt := by
  induction runs with
  | nil => exact .nil
  | cons a runs ih =>
    cases runs with
    | nil => exact List.pairwise_singleton _ _
    | cons b runs =>
      rw [overlap?] at h
      split at h
      · cases h
      · next before =>
        have next : a.last.toInt < b.first.toInt := by
          rwa [Int32.le_iff_toInt_le, Int.not_le] at before
        have rest := ih (fun run mem => proper run (List.mem_cons_of_mem _ mem)) h
        refine List.pairwise_cons.mpr ⟨List.forall_mem_cons.mpr ⟨next, fun c mem => ?_⟩, rest⟩
        have later := (List.pairwise_cons.mp rest).1 c mem
        have length := proper b (by simp)
        omega

/-- Two named ports take ports that lie apart for a number of replicas. -/
def Apart (replicas : Nat) (x y : String × PortEntry) : Prop :=
  x.2.startingPort.toInt + (replicas : Int) ≤ y.2.startingPort.toInt ∨
    y.2.startingPort.toInt + (replicas : Int) ≤ x.2.startingPort.toInt

theorem Apart.symm {replicas : Nat} {x y : String × PortEntry} (h : Apart replicas x y) :
    Apart replicas y x :=
  Or.symm h

theorem apart_of_fault? {ports : Keyed String PortEntry} {replicas : Nat} (some_ : 0 < replicas)
    (small : replicas ≤ Int32.maxValue.toInt) (counts : Counts ports replicas)
    (h : fault? ports replicas = none) {x y : String × PortEntry} (memX : x ∈ ports.toList)
    (memY : y ∈ ports.toList) :
    x = y ∨ Apart replicas x y := by
  have counted : ∀ x ∈ ports.toList, x.2.startingPort.toInt + replicas ≤ Int32.maxValue.toInt :=
    fun x mem => counts x.2 (List.mem_map_of_mem mem)
  have apart : (all ports replicas).Pairwise fun a b => a.last.toInt < b.first.toInt := by
    refine apart_of_overlap? replicas (fun run mem => ?_) ?_
    · obtain ⟨x, memX, rfl⟩ := List.mem_map.mp (List.mem_mergeSort.mp mem)
      rw [of_last some_ x.1 (counted x memX) small]
      show x.2.startingPort.toInt ≤ _
      omega
    · simp only [fault?] at h
      split at h
      · cases h
      · exact h
  -- the order of the runs does not matter any more
  have unordered : (ports.toList.map fun x => of replicas x.1 x.2).Pairwise fun a b =>
      a.last.toInt < b.first.toInt ∨ b.last.toInt < a.first.toInt :=
    ((List.mergeSort_perm _ _).pairwise_iff Or.symm).mp (apart.imp .inl)
  have entries : ports.toList.Pairwise (Apart replicas) := by
    refine (List.pairwise_map.mp unordered).imp_of_mem fun {x y} memX memY either => ?_
    rw [of_last some_ _ (counted x memX) small, of_last some_ _ (counted y memY) small] at either
    refine either.imp (fun before => ?_) fun before => ?_
    · exact Int.le_of_sub_one_lt before
    · exact Int.le_of_sub_one_lt before
  exact List.Pairwise.forall_of_forall_of_flip (R := fun x y => x = y ∨ Apart replicas x y)
    (fun _ _ => .inl rfl) (entries.imp .inr) (entries.imp fun apart => .inr apart.symm) memX memY

/-- Given mappings are those of all named ports for all machines, and no run of them is at fault. -/
theorem mappings_eq {ports : Keyed String PortEntry} {paths : List String} {ms : List PortMapping}
    (h : mappings ports paths = .ok ms) :
    ms = (paths.zipIdx.flatMap fun (path, i) => mappingsOf ports path i) ∧
      paths.length ≤ Int32.maxValue.toInt ∧ (paths ≠ [] → fault? ports paths.length = none) := by
  unfold mappings at h
  split at h
  · cases h
  · next few =>
    split at h
    · cases h
    · next sound =>
      refine ⟨(Except.ok.inj h).symm, Int.not_lt.mp few, fun some_ => ?_⟩
      cases paths with
      | nil => exact absurd rfl some_
      | cons path paths => exact sound

/-- Every mapping is that of a named port for one of the machines, by its place. -/
theorem exists_of_mem_mappings {ports : Keyed String PortEntry} {paths : List String}
    {ms : List PortMapping} (h : mappings ports paths = .ok ms) {m : PortMapping} (mem : m ∈ ms) :
    ∃ x ∈ ports.toList, ∃ path i, paths[i]? = some path ∧
      m = ⟨x.2.startingPort + Int32.ofNat i, path, x.2.nodePort⟩ := by
  obtain ⟨rfl, -⟩ := mappings_eq h
  obtain ⟨⟨path, i⟩, at_, mem⟩ := List.mem_flatMap.mp mem
  obtain ⟨e, memE, rfl⟩ := List.mem_map.mp mem
  obtain ⟨x, memX, rfl⟩ := List.mem_map.mp memE
  exact ⟨x, memX, path, i, List.mem_zipIdx_iff_getElem?.mp at_, rfl⟩

section Accepted

variable {ports : Keyed String PortEntry} {paths : List String} {ms : List PortMapping}

/-- The port of a named port for one of the machines, as a number. -/
theorem Accepts.toInt_port (accepted : Accepts ports paths ms) {x : String × PortEntry}
    (memX : x ∈ ports.toList) {i : Nat} (below : i < paths.length) :
    (x.2.startingPort + Int32.ofNat i).toInt = x.2.startingPort.toInt + i := by
  obtain ⟨-, small, -⟩ := mappings_eq accepted.given
  have counts := accepted.counts x.2 (List.mem_map_of_mem memX)
  exact toInt_add_ofNat (by omega) (by omega)

/-- Different named ports, or the same one for different machines, take different ports. -/
theorem Accepts.port_ne (accepted : Accepts ports paths ms) {x y : String × PortEntry}
    (memX : x ∈ ports.toList) (memY : y ∈ ports.toList) {i j : Nat} (belowI : i < paths.length)
    (belowJ : j < paths.length) (differ : x ≠ y ∨ i ≠ j) :
    x.2.startingPort + Int32.ofNat i ≠ y.2.startingPort + Int32.ofNat j := by
  intro same
  obtain ⟨-, small, sound⟩ := mappings_eq accepted.given
  have some_ : paths ≠ [] := List.ne_nil_of_length_pos (by omega)
  have equal := congrArg Int32.toInt same
  rw [accepted.toInt_port memX belowI, accepted.toInt_port memY belowJ] at equal
  rcases apart_of_fault? (by omega) small accepted.counts (sound some_) memX memY with rfl | apart
  · exact differ.elim (fun ne => ne rfl) fun ne => ne (by omega)
  · unfold Apart at apart
    omega

/-- The ports of the mappings are pairwise distinct. -/
theorem mappings_pairwise (accepted : Accepts ports paths ms) :
    ms.Pairwise fun a b => a.port ≠ b.port := by
  obtain ⟨rfl, -⟩ := mappings_eq accepted.given
  have below : ∀ a ∈ paths.zipIdx, a.2 < paths.length := fun a mem => by
    simpa using List.snd_lt_of_mem_zipIdx mem
  refine List.pairwise_flatMap.mpr ⟨fun a memA => ?_, ?_⟩
  · -- different named ports for one machine
    refine List.pairwise_map.mpr (List.pairwise_map.mpr ?_)
    refine ports.nodup_toList.imp_of_mem fun memX memY ne => ?_
    exact accepted.port_ne memX memY (below a memA) (below a memA) (.inl ne)
  · have ascending : paths.zipIdx.Pairwise fun a b => a.2 < b.2 := by
      refine List.pairwise_map.mp ?_
      rw [List.zipIdx_map_snd]
      exact List.pairwise_lt_range'
    refine ascending.imp_of_mem fun {a b} memA memB before m memM m' memM' => ?_
    obtain ⟨e, memE, rfl⟩ := List.mem_map.mp memM
    obtain ⟨e', memE', rfl⟩ := List.mem_map.mp memM'
    obtain ⟨x, memX, rfl⟩ := List.mem_map.mp memE
    obtain ⟨y, memY, rfl⟩ := List.mem_map.mp memE'
    exact accepted.port_ne memX memY (below a memA) (below b memB) (.inr (Nat.ne_of_lt before))

/-- No two mappings share a port. -/
theorem mappings_apart (accepted : Accepts ports paths ms) {a b : PortMapping} (memA : a ∈ ms)
    (memB : b ∈ ms) (same : a.port = b.port) : a = b := by
  have distinct := mappings_pairwise accepted
  have either : a = b ∨ a.port ≠ b.port :=
    List.Pairwise.forall_of_forall_of_flip (R := fun a b => a = b ∨ a.port ≠ b.port)
      (fun _ _ => .inl rfl) (distinct.imp .inr) (distinct.imp fun ne => .inr ne.symm) memA memB
  exact either.resolve_right fun ne => ne same

/-- No run ends past the greatest port. -/
theorem last_le_of_fault? {replicas : Nat} (h : fault? ports replicas = none)
    {x : String × PortEntry} (memX : x ∈ ports.toList) : (of replicas x.1 x.2).last ≤ maxPort := by
  simp only [fault?] at h
  split at h
  · cases h
  · next within =>
    have mem : of replicas x.1 x.2 ∈ all ports replicas :=
      List.mem_mergeSort.mpr (List.mem_map.mpr ⟨x, memX, rfl⟩)
    have notPast := List.find?_eq_none.mp within _ mem
    simpa [Int32.lt_iff_toInt_lt, Int32.le_iff_toInt_le] using notPast

/-- The mappings of ports from one on take ports from one to the greatest. -/
theorem mappings_inRange (accepted : Accepts ports paths ms)
    (positive : ∀ x ∈ ports.toList, 1 ≤ x.2.startingPort.toInt) {m : PortMapping} (mem : m ∈ ms) :
    1 ≤ m.port.toInt ∧ m.port.toInt ≤ maxPort.toInt := by
  obtain ⟨-, small, sound⟩ := mappings_eq accepted.given
  obtain ⟨x, memX, path, i, at_, rfl⟩ := exists_of_mem_mappings accepted.given mem
  have below : i < paths.length := (List.getElem?_eq_some_iff.mp at_).1
  have some_ : paths ≠ [] := List.ne_nil_of_length_pos (by omega)
  have last := Int32.le_iff_toInt_le.mp (last_le_of_fault? (sound some_) memX)
  rw [of_last (by omega) x.1 (accepted.counts x.2 (List.mem_map_of_mem memX)) small] at last
  have first := positive x memX
  rw [accepted.toInt_port memX below]
  omega

end Accepted

end PortRun

end ReplicaPorts
