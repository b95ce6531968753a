import ReplicaPorts.Proofs.Replica.Order
import ReplicaPorts.Proofs.Replica.PortRun

/-!
# The mappings of named ports

Mappings are given exactly if there is no replica, or if the runs of the named ports `Fit`: each
ends within the range of ports, and those of two names have no port in common
(`mappings_enumerate`). Only neighbours among the sorted runs are compared. That suffices to find
that all runs lie apart (`apart_of_fault?`); and where neighbours meet, the start of the later one
is a port of both (`reports_of_fault?`).

The mappings are listed replica by replica, for each replica in the order of the names, so the place
of a mapping in the list tells its replica and its name (`getElem?_flatMap_zipIdx`).
-/

set_option autoImplicit false

namespace ReplicaPorts.PortRun

open Compute Std

/-! ## Sorted runs -/

/-- How runs are compared: by their fields, one after the other. -/
def order : PortRun → PortRun → Ordering :=
  compareLex (compareOn first) (compareLex (compareOn last) (compareOn name))

instance : TransCmp order :=
  inferInstanceAs (TransCmp (compareLex (compareOn first)
    (compareLex (compareOn last) (compareOn name))))

theorem first_le_of_le {a b : PortRun} (h : le a b = true) : a.first ≤ b.first :=
  LawfulOrderOrd.isLE_compare a.first b.first |>.mp (Ordering.isLE_then_iff_and.mp h).1

variable {ports : Keyed String PortEntry} {replicas : Nat} {x y : String × PortEntry}

theorem mem_all {run : PortRun} :
    run ∈ all ports replicas ↔ ∃ x ∈ ports.toList, of replicas x.1 x.2 = run := by
  rw [all, List.mem_mergeSort, List.mem_map]

/-- The runs are in the order of their first ports. -/
theorem all_sorted (ports : Keyed String PortEntry) (replicas : Nat) :
    (all ports replicas).Pairwise fun a b => a.first ≤ b.first :=
  (Replica.pairwise_mergeSort_isLE order _).imp first_le_of_le

/-- No name has two runs. -/
theorem all_pairwise_name (ports : Keyed String PortEntry) (replicas : Nat) :
    (all ports replicas).Pairwise fun a b => a.name ≠ b.name := by
  refine ((List.mergeSort_perm _ _).pairwise_iff Ne.symm).mpr (List.pairwise_map.mpr ?_)
  refine ports.ascending.imp fun {x y} before (same : x.1 = y.1) => ?_
  have self : compare y.1 y.1 = .eq := ReflCmp.compare_self
  rw [same, self] at before
  cases before

/-- Where an overlap is found, two neighbours meet. -/
theorem exists_of_overlap? {runs : List PortRun} {fault : Fault}
    (h : overlap? replicas runs = some fault) :
    ∃ a b, [a, b] <:+: runs ∧ b.first ≤ a.last ∧
      fault = .overlap a.name b.name b.first replicas := by
  induction runs with
  | nil => cases h
  | cons a runs ih =>
    cases runs with
    | nil => cases h
    | cons b runs =>
      rw [overlap?] at h
      split at h
      · next meet =>
        exact ⟨a, b, (List.prefix_append [a, b] runs).isInfix, meet, (Option.some.inj h).symm⟩
      · obtain ⟨c, d, neighbours, rest⟩ := ih h
        exact ⟨c, d, neighbours.trans (List.suffix_cons a _).isInfix, rest⟩

/-! ## Runs that fit -/

/-- The first external port of a named port. -/
def firstPort (x : String × PortEntry) : Int := x.2.startingPort.toInt

/-- The last external port of a named port for a number of replicas. -/
def lastPort (replicas : Nat) (x : String × PortEntry) : Int := firstPort x + replicas - 1

/-- A named port takes an external port for one of some replicas. -/
def Takes (replicas : Nat) (x : String × PortEntry) (port : Int) : Prop :=
  firstPort x ≤ port ∧ port ≤ lastPort replicas x

instance (replicas : Nat) (x : String × PortEntry) (port : Int) :
    Decidable (Takes replicas x port) :=
  inferInstanceAs (Decidable (_ ∧ _))

/-- The runs of all named ports end within the range of ports and do not meet. -/
structure Fit (ports : Keyed String PortEntry) (replicas : Nat) : Prop where
  within : ∀ x ∈ ports.toList, lastPort replicas x ≤ maxPort.toInt
  apart : ∀ x ∈ ports.toList, ∀ y ∈ ports.toList, x.1 ≠ y.1 → ∀ port,
    ¬ (Takes replicas x port ∧ Takes replicas y port)

/-- A message that tells what is really wrong: a run passes the greatest port, or a port is taken
under two names. -/
inductive Tells (ports : Keyed String PortEntry) (replicas : Nat) : String → Prop
  | pastMax {x : String × PortEntry} (mem : x ∈ ports.toList)
      (past : maxPort.toInt < lastPort replicas x) :
      Tells ports replicas
        (s!"node_ports[{Text.quoted x.1}] needs ports {firstPort x}-{lastPort replicas x} "
          ++ s!"for {replicas} replica(s), past {maxPort.toInt}")
  | overlap {x y : String × PortEntry} {port : Int} (memX : x ∈ ports.toList)
      (memY : y ∈ ports.toList) (differ : x.1 ≠ y.1) (takenX : Takes replicas x port)
      (takenY : Takes replicas y port) :
      Tells ports replicas
        (s!"node_ports[{Text.quoted x.1}] and node_ports[{Text.quoted y.1}] "
          ++ s!"overlap at port {port} with {replicas} replica(s)")

/-- What fits gives no reason for a message. -/
theorem Tells.not_fit {message : String} (h : Tells ports replicas message) :
    ¬ Fit ports replicas := by
  intro fit
  cases h with
  | pastMax mem past => exact Int.not_lt.mpr (fit.within _ mem) past
  | overlap memX memY differ takenX takenY =>
    exact fit.apart _ memX _ memY differ _ ⟨takenX, takenY⟩

/-- Whatever is found to be wrong is told as it is. -/
theorem tells_of_fault? (some_ : 0 < replicas) (small : replicas ≤ Int32.maxValue.toInt)
    (counts : Counts ports replicas) {fault : Fault} (h : fault? ports replicas = some fault) :
    Tells ports replicas fault.message := by
  have last : ∀ x ∈ ports.toList, (of replicas x.1 x.2).last.toInt = lastPort replicas x :=
    fun x mem => of_last some_ x.1 (counts x.2 (List.mem_map_of_mem mem)) small
  simp only [fault?] at h
  split at h
  · next run found =>
    obtain rfl := Option.some.inj h
    have past : maxPort < run.last := by simpa using List.find?_some found
    obtain ⟨x, mem, rfl⟩ := mem_all.mp (List.mem_of_find?_eq_some found)
    rw [Int32.lt_iff_toInt_lt, last x mem] at past
    have told := Tells.pastMax mem past
    rwa [← last x mem] at told
  · obtain ⟨a, b, neighbours, meet, rfl⟩ := exists_of_overlap? h
    have ordered := (all_sorted ports replicas).sublist neighbours.sublist
    have named := (all_pairwise_name ports replicas).sublist neighbours.sublist
    rw [List.pairwise_pair] at ordered named
    have memA : a ∈ all ports replicas := neighbours.subset (by simp)
    have memB : b ∈ all ports replicas := neighbours.subset (by simp)
    obtain ⟨x, memX, rfl⟩ := mem_all.mp memA
    obtain ⟨y, memY, rfl⟩ := mem_all.mp memB
    rw [Int32.le_iff_toInt_le] at ordered meet
    rw [last x memX] at meet
    have takenY : Takes replicas y (firstPort y) := ⟨Int.le_refl _, by
      unfold lastPort
      omega⟩
    exact .overlap memX memY named ⟨ordered, meet⟩ takenY

/-- Nothing is found to be wrong exactly if all runs fit. -/
theorem fault?_eq_none_iff (some_ : 0 < replicas) (small : replicas ≤ Int32.maxValue.toInt)
    (counts : Counts ports replicas) : fault? ports replicas = none ↔ Fit ports replicas := by
  constructor
  · intro sound
    refine ⟨fun x mem => ?_, fun x memX y memY differ port both => ?_⟩
    · have last := Int32.le_iff_toInt_le.mp (last_le_of_fault? sound mem)
      rwa [of_last some_ x.1 (counts x.2 (List.mem_map_of_mem mem)) small] at last
    · obtain ⟨⟨fromX, toX⟩, fromY, toY⟩ := both
      rcases apart_of_fault? some_ small counts sound memX memY with rfl | apart
      · exact differ rfl
      · unfold Apart at apart
        unfold lastPort firstPort at *
        omega
  · intro fit
    cases found : fault? ports replicas with
    | none => rfl
    | some fault => exact absurd fit (tells_of_fault? some_ small counts found).not_fit

/-! ## The list of mappings -/

/-- In a list that is made of equally long parts, the place of a part and that within it tell the
place of an element. -/
theorem getElem?_flatMap_zipIdx {α β : Type} {f : α × Nat → List β} {length : Nat}
    (equal : ∀ a, (f a).length = length) (as : List α) (start i : Nat) {j : Nat} (h : j < length) :
    ((as.zipIdx start).flatMap f)[i * length + j]? =
      as[i]?.bind fun a => (f (a, start + i))[j]? := by
  induction as generalizing start i with
  | nil => rfl
  | cons a as ih =>
    rw [List.zipIdx_cons, List.flatMap_cons]
    cases i with
    | zero =>
      rw [Nat.zero_mul, Nat.zero_add, List.getElem?_append_left (by rw [equal]; exact h)]
      rfl
    | succ i =>
      have later : (i + 1) * length + j - length = i * length + j := by
        rw [Nat.succ_mul]
        omega
      have beyond : length ≤ (i + 1) * length + j := by
        rw [Nat.succ_mul]
        omega
      rw [List.getElem?_append_right (by rwa [equal]), equal, later, ih, List.getElem?_cons_succ,
        Nat.add_right_comm, Nat.add_assoc]

theorem length_flatMap_zipIdx {α β : Type} {f : α × Nat → List β} {length : Nat}
    (equal : ∀ a, (f a).length = length) (as : List α) :
    (as.zipIdx.flatMap f).length = as.length * length := by
  simp [List.length_flatMap, equal, List.map_const']

section Given

variable {paths : List String} {ms : List PortMapping} {fault : Fault}

/-- Nothing but a fault of the runs stands against mappings for replicas that can be counted. -/
theorem exists_mappings_iff (small : paths.length ≤ Int32.maxValue.toInt) :
    (∃ ms, mappings ports paths = .ok ms) ↔
      paths = [] ∨ fault? ports paths.length = none := by
  unfold mappings
  rw [if_neg (Int.not_lt.mpr small)]
  cases paths with
  | nil => exact iff_of_true ⟨_, rfl⟩ (.inl rfl)
  | cons path paths =>
    cases fault? ports (path :: paths).length with
    | none => exact iff_of_true ⟨_, rfl⟩ (.inr rfl)
    | some fault => exact iff_of_false nofun nofun

theorem fault?_of_mappings (small : paths.length ≤ Int32.maxValue.toInt)
    (h : mappings ports paths = .error fault) :
    paths ≠ [] ∧ fault? ports paths.length = some fault := by
  unfold mappings at h
  rw [if_neg (Int.not_lt.mpr small)] at h
  cases paths with
  | nil => cases h
  | cons path paths =>
    cases found : fault? ports (path :: paths).length with
    | none =>
      rw [List.isEmpty_cons, if_neg Bool.false_ne_true, found] at h
      cases h
    | some other =>
      rw [List.isEmpty_cons, if_neg Bool.false_ne_true, found] at h
      cases h
      exact ⟨List.cons_ne_nil _ _, rfl⟩

/-- No sum of a starting port and a number of replicas, or of those before one, overflows. -/
structure Exact (replicas : Nat) (x : String × PortEntry) : Prop where
  offset : ∀ i ≤ replicas, (x.2.startingPort + Int32.ofNat i).toInt = firstPort x + i
  last : 0 < replicas →
    (x.2.startingPort + Int32.ofNat replicas - 1).toInt = lastPort replicas x

theorem exact_of_counts (small : replicas ≤ Int32.maxValue.toInt) (counts : Counts ports replicas)
    (mem : x ∈ ports.toList) : Exact replicas x := by
  have most := counts x.2 (List.mem_map_of_mem mem)
  exact ⟨fun i below => toInt_add_ofNat (by omega) (by omega), fun some_ =>
    of_last some_ x.1 most small⟩

/-- Mappings that list, for one replica after the other, each named port in the order of the names,
with the port that is the replica's own. -/
structure Enumerates (ports : Keyed String PortEntry) (paths : List String)
    (ms : List PortMapping) : Prop where
  length : ms.length = paths.length * ports.toList.length
  place : ∀ {i j path x}, paths[i]? = some path → ports.toList[j]? = some x →
    ∃ m, ms[i * ports.toList.length + j]? = some m ∧ m.port.toInt = firstPort x + i ∧
      m.instancePath = path ∧ m.instancePort = x.2.nodePort
  distinct : ms.Pairwise fun a b => a.port ≠ b.port
  inRange : ∀ m ∈ ms, 1 ≤ m.port.toInt ∧ m.port.toInt ≤ maxPort.toInt

theorem Accepts.enumerates (accepted : Accepts ports paths ms)
    (positive : ∀ x ∈ ports.toList, 1 ≤ firstPort x) : Enumerates ports paths ms := by
  obtain ⟨rfl, -⟩ := mappings_eq accepted.given
  have equal : ∀ a : String × Nat,
      (mappingsOf ports a.1 a.2).length = ports.toList.length := fun a => by
    rw [mappingsOf, Keyed.values, List.length_map, List.length_map, Keyed.toList]
  refine ⟨length_flatMap_zipIdx equal paths, fun {i j path x} at_ known => ?_,
    mappings_pairwise accepted, fun m => mappings_inRange accepted positive⟩
  obtain ⟨below, -⟩ := List.getElem?_eq_some_iff.mp at_
  obtain ⟨within, -⟩ := List.getElem?_eq_some_iff.mp known
  refine ⟨⟨x.2.startingPort + Int32.ofNat i, path, x.2.nodePort⟩, ?_,
    accepted.toInt_port (List.mem_of_getElem? known) below, rfl, rfl⟩
  rw [getElem?_flatMap_zipIdx equal paths 0 i within, at_, Option.bind_some, mappingsOf,
    Keyed.values, List.getElem?_map, List.getElem?_map, Nat.zero_add]
  exact congrArg _ (congrArg _ known)

end Given

/-- Mappings of ports in range, for no more replicas than signed numbers can count from there, are
given exactly if all runs fit. Then they enumerate the replicas and the named ports; otherwise the
message tells which runs do not fit. No sum overflows. -/
theorem mappings_enumerate {ports : Keyed String PortEntry} {paths : List String}
    (inRange : ∀ x ∈ ports.toList, 1 ≤ firstPort x ∧ firstPort x ≤ maxPort.toInt)
    (few : (paths.length : Int) ≤ Int32.maxValue.toInt - maxPort.toInt) :
    ((∃ ms, mappings ports paths = .ok ms) ↔ paths = [] ∨ Fit ports paths.length) ∧
      (∀ ms, mappings ports paths = .ok ms → Enumerates ports paths ms) ∧
      (∀ fault, mappings ports paths = .error fault →
        Tells ports paths.length fault.message) ∧
      ∀ x ∈ ports.toList, Exact paths.length x := by
  have positive : 0 ≤ maxPort.toInt := by decide
  have small : (paths.length : Int) ≤ Int32.maxValue.toInt := by omega
  have counts : Counts ports paths.length := by
    intro e mem
    obtain ⟨x, memX, rfl⟩ := List.mem_map.mp mem
    have most := (inRange x memX).2
    unfold firstPort at most
    omega
  refine ⟨?_, fun ms given => ?_, fun fault refused => ?_, fun x mem => ?_⟩
  · rw [exists_mappings_iff small]
    by_cases none_ : paths = []
    · exact iff_of_true (.inl none_) (.inl none_)
    · rw [fault?_eq_none_iff (List.length_pos_iff.mpr none_) small counts]
  · exact Accepts.enumerates ⟨counts, given⟩ fun x mem => (inRange x mem).1
  · obtain ⟨some_, found⟩ := fault?_of_mappings small refused
    exact tells_of_fault? (List.length_pos_iff.mpr some_) small counts found
  · exact exact_of_counts small counts mem

end ReplicaPorts.PortRun

namespace ReplicaPorts.PortMapping

open Compute

/-! ## Differences -/

variable {these those : List PortMapping}

theorem mem_without {m : PortMapping} : m ∈ without these those ↔ m ∈ these ∧ m ∉ those := by
  simp [without]

theorem without_eq_nil (h : ∀ m ∈ these, m ∈ those) : without these those = [] := by
  refine List.eq_nil_iff_forall_not_mem.mpr fun m mem => ?_
  obtain ⟨here, notThere⟩ := mem_without.mp mem
  exact notThere (h m here)

theorem without_append (apart : ∀ m ∈ these, m ∉ those) :
    without (those ++ these) those = these := by
  have gone : those.filter (· ∉ those) = [] := without_eq_nil fun _ mem => mem
  have left : these.filter (· ∉ those) = these :=
    List.filter_eq_self.mpr fun m mem => decide_eq_true (apart m mem)
  rw [without, List.filter_append, gone, left, List.nil_append]

end ReplicaPorts.PortMapping

namespace ReplicaPorts.Small

/-- Two named ports, of which the one that starts first has room for two replicas. -/
def neighbours : Keyed String PortEntry :=
  .ofList [("app", ⟨30000, 8080, 40000⟩), ("admin", ⟨30100, 9090, 40002⟩)]

theorem fit_neighbours : PortRun.Fit neighbours 2 := by
  have far : ∀ x ∈ neighbours.toList, ∀ y ∈ neighbours.toList, x.1 ≠ y.1 →
      PortRun.firstPort x + 2 ≤ PortRun.firstPort y ∨
        PortRun.firstPort y + 2 ≤ PortRun.firstPort x := by decide +kernel
  refine ⟨by decide +kernel, fun x memX y memY differ port ⟨⟨fromX, toX⟩, fromY, toY⟩ => ?_⟩
  have apart := far x memX y memY differ
  unfold PortRun.lastPort at toX toY
  omega

/-- Two replicas get their mappings. With a third one the runs meet, and the message says so. -/
theorem small_mappings_enumerate :
    (∃ ms, PortRun.mappings neighbours ["a", "b"] = .ok ms ∧
      PortRun.Enumerates neighbours ["a", "b"] ms) ∧
      ∃ fault, PortRun.mappings neighbours ["a", "b", "c"] = .error fault ∧
        PortRun.Tells neighbours 3 fault.message := by
  have inRange : ∀ x ∈ neighbours.toList,
      1 ≤ PortRun.firstPort x ∧ PortRun.firstPort x ≤ PortRun.maxPort.toInt := by decide +kernel
  obtain ⟨given, enumerated, -⟩ :=
    @PortRun.mappings_enumerate neighbours ["a", "b"] inRange (by decide)
  obtain ⟨refused, -, told, -⟩ :=
    @PortRun.mappings_enumerate neighbours ["a", "b", "c"] inRange (by decide)
  constructor
  · obtain ⟨ms, result⟩ := given.mpr (.inr fit_neighbours)
    exact ⟨ms, result, enumerated ms result⟩
  · have meet : ¬ PortRun.Fit neighbours 3 := fun fit =>
      fit.apart ("app", ⟨30000, 8080, 40000⟩) (by decide +kernel)
        ("admin", ⟨30100, 9090, 40002⟩) (by decide +kernel) (by decide) 40002 (by decide +kernel)
    cases result : PortRun.mappings neighbours ["a", "b", "c"] with
    | ok ms => exact absurd (refused.mp ⟨ms, result⟩) (not_or.mpr ⟨List.cons_ne_nil _ _, meet⟩)
    | error fault => exact ⟨fault, rfl, told fault result⟩

end ReplicaPorts.Small
