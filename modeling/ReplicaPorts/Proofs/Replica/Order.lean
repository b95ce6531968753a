import Mathlib.Data.List.Forall2
import Mathlib.Data.List.Perm.Basic
import ReplicaPorts.Proofs.Text.Cut
import ReplicaPorts.Proofs.Text.Decimal
import ReplicaPorts.Replica.Order

/-!
# Replicas in order

What a pod shows decides where its replica stands: its ordinal, which its label or its name spells
(`Ranks`), and its name (`Precedes`). Of pods with different names one always precedes the other and
never both, so the replicas of such pods can be put in order in one way only (`InOrder.unique`).
The replicas of a list are in order (`ofPods_inOrder`). They do not depend on how the pods are
listed, then (`InOrder.perm`), and pods that come behind all others add their replicas at the end
(`InOrder.append`).
-/

set_option autoImplicit false

namespace ReplicaPorts.Replica

open Cluster Std

variable {p q : Pod} {n : Nat}

/-! ## Ordinals -/

/-- A text that spells a number of 32 bits. -/
def SpellsOrdinal (cs : List Char) (n : Nat) : Prop := Text.Spells cs n ∧ n ≤ 4294967295

/-- The index label of a pod spells an ordinal. -/
def Labelled (p : Pod) (n : Nat) : Prop :=
  ∃ value, p.metadata.label? indexLabel = some value ∧ SpellsOrdinal value.toList n

/-- What follows the last dash in the name of a pod spells an ordinal. -/
def Numbered (p : Pod) (n : Nat) : Prop :=
  ∃ name before after, p.metadata.name = some name ∧ name.toList = before ++ '-' :: after ∧
    '-' ∉ after ∧ SpellsOrdinal after n

/-- The ordinal that a pod counts with: that of its label, or else that of its name, or else the
greatest one. -/
inductive Ranks (p : Pod) : Nat → Prop
  | label {n : Nat} : Labelled p n → Ranks p n
  | name {n : Nat} : (∀ m, ¬ Labelled p m) → Numbered p n → Ranks p n
  | last : (∀ m, ¬ Labelled p m) → (∀ m, ¬ Numbered p m) → Ranks p 4294967295

theorem ordinalIn?_eq_some_iff {cs : List Char} : ordinalIn? cs = some n ↔ SpellsOrdinal cs n := by
  rw [SpellsOrdinal, ← show Text.maxWord32 = 4294967295 from rfl, ← Text.readBounded_eq_ok_iff,
    ordinalIn?]
  cases Text.readBounded Text.maxWord32 cs <;> simp

/-- What the label gives, if it gives an ordinal. -/
def ofLabel? (p : Pod) : Option Nat :=
  (p.metadata.label? indexLabel).bind fun value => ordinalIn? value.toList

/-- What the name gives, if it gives an ordinal. -/
def ofName? (p : Pod) : Option Nat :=
  p.metadata.name.bind fun name => (Text.afterLast? '-' name.toList).bind ordinalIn?

theorem ofLabel?_eq_some_iff : ofLabel? p = some n ↔ Labelled p n := by
  simp only [ofLabel?, Option.bind_eq_some_iff, ordinalIn?_eq_some_iff, Labelled]

theorem ofName?_eq_some_iff : ofName? p = some n ↔ Numbered p n := by
  simp only [ofName?, Option.bind_eq_some_iff, ordinalIn?_eq_some_iff,
    Text.afterLast?_eq_some_iff, Numbered]
  constructor
  · rintro ⟨name, named, after, ⟨before, parts, free⟩, spells⟩
    exact ⟨name, before, after, named, parts, free, spells⟩
  · rintro ⟨name, before, after, named, parts, free, spells⟩
    exact ⟨name, named, after, ⟨before, parts, free⟩, spells⟩

theorem ofLabel?_eq_none_iff : ofLabel? p = none ↔ ∀ m, ¬ Labelled p m := by
  simp only [Option.eq_none_iff_forall_ne_some, ne_eq, ofLabel?_eq_some_iff]

theorem ofName?_eq_none_iff : ofName? p = none ↔ ∀ m, ¬ Numbered p m := by
  simp only [Option.eq_none_iff_forall_ne_some, ne_eq, ofName?_eq_some_iff]

theorem orderKey_fst (p : Pod) :
    (orderKey p).1 = ((ofLabel? p).or (ofName? p)).getD 4294967295 := by
  show (ordinal? p).getD Text.maxWord32 = _
  unfold ordinal? ofLabel? ofName?
  split
  · next labelled =>
    rw [labelled]
    rfl
  · next unlabelled =>
    rw [unlabelled]
    rfl

/-- The ordinal in the order key is the one that the pod counts with, and no other is. -/
theorem ranks_iff : Ranks p n ↔ (orderKey p).1 = n := by
  rw [orderKey_fst]
  constructor
  · rintro (labelled | ⟨unlabelled, numbered⟩ | ⟨unlabelled, unnumbered⟩)
    · rw [ofLabel?_eq_some_iff.mpr labelled]
      rfl
    · rw [ofLabel?_eq_none_iff.mpr unlabelled, ofName?_eq_some_iff.mpr numbered]
      rfl
    · rw [ofLabel?_eq_none_iff.mpr unlabelled, ofName?_eq_none_iff.mpr unnumbered]
      rfl
  · rintro rfl
    cases label : ofLabel? p with
    | some n => exact .label (ofLabel?_eq_some_iff.mp label)
    | none =>
      have unlabelled := ofLabel?_eq_none_iff.mp label
      cases name : ofName? p with
      | some n => exact .name unlabelled (ofName?_eq_some_iff.mp name)
      | none => exact .last unlabelled (ofName?_eq_none_iff.mp name)

/-! ## The order -/

/-- A pod has a lower ordinal than another, or the same one and a lesser name. -/
def Precedes (p q : Pod) : Prop :=
  ∃ i j, Ranks p i ∧ Ranks q j ∧ (i < j ∨ i = j ∧ p.metadata.name < q.metadata.name)

/-- How pods are compared: by their ordinals, then by their names. -/
def order : Pod → Pod → Ordering :=
  compareLex (compareOn fun p => (orderKey p).1) (compareOn fun p => p.metadata.name)

instance : TransCmp order :=
  inferInstanceAs (TransCmp (compareLex (compareOn fun p => (orderKey p).1)
    (compareOn fun p => p.metadata.name)))

theorem compare_name_eq_lt (a b : Option String) : compare a b = .lt ↔ a < b := by
  cases a with
  | none => cases b <;> simp [compare]
  | some a =>
    cases b with
    | none => simp [compare]
    | some b => exact compareOfLessAndEq_eq_lt

theorem nameLe_eq (a b : Option String) : nameLe a b = (compare a b).isLE := by
  cases a with
  | none => cases b <;> rfl
  | some a =>
    cases b with
    | none => rfl
    | some b =>
      rw [Bool.eq_iff_iff, Ordering.isLE_iff_ne_gt, OrientedCmp.gt_iff_lt, compare_name_eq_lt]
      show decide (a ≤ b) = true ↔ ¬ b < a
      rw [decide_eq_true_iff, String.not_lt]

theorem le_eq (p q : Pod) : le p q = (order p q).isLE := by
  have lex : order p q = (compare (orderKey p).1 (orderKey q).1).then
      (compare p.metadata.name q.metadata.name) := rfl
  show ((orderKey p).1 < (orderKey q).1 || ((orderKey p).1 == (orderKey q).1 &&
    nameLe p.metadata.name q.metadata.name)) = _
  rw [lex, nameLe_eq]
  rcases Nat.lt_trichotomy (orderKey p).1 (orderKey q).1 with less | same | more
  · simp [Nat.compare_eq_lt.mpr less, less]
  · simp [same]
  · simp [Nat.compare_eq_gt.mpr more, Nat.lt_asymm more, Nat.ne_of_gt more]

theorem precedes_iff : Precedes p q ↔ order p q = .lt := by
  have lex : order p q = (compare (orderKey p).1 (orderKey q).1).then
      (compare p.metadata.name q.metadata.name) := rfl
  rw [lex, Ordering.then_eq_lt, Nat.compare_eq_lt, Nat.compare_eq_eq, compare_name_eq_lt]
  simp only [Precedes, ranks_iff]
  constructor
  · rintro ⟨i, j, rfl, rfl, before⟩
    exact before
  · exact fun before => ⟨_, _, rfl, rfl, before⟩

theorem Precedes.asymm (h : Precedes p q) : ¬ Precedes q p := by
  have swap : order q p = (order p q).swap := OrientedCmp.eq_swap
  rw [precedes_iff] at h ⊢
  rw [swap, h]
  nofun

/-- Of two pods with different names that are in order the first precedes the second. -/
theorem precedes_of_le (h : le p q = true) (differ : p.metadata.name ≠ q.metadata.name) :
    Precedes p q := by
  rw [le_eq, Ordering.isLE_iff_eq_lt_or_eq_eq] at h
  refine precedes_iff.mpr (h.resolve_right fun same => differ ?_)
  have names : compare p.metadata.name q.metadata.name = .eq := (Ordering.then_eq_eq.mp same).2
  exact LawfulEqCmp.eq_of_compare names

/-- What is sorted by a comparison is in its order. -/
theorem pairwise_mergeSort_isLE {α : Type} (cmp : α → α → Ordering) [TransCmp cmp] (xs : List α) :
    (xs.mergeSort fun a b => (cmp a b).isLE).Pairwise fun a b => (cmp a b).isLE = true := by
  refine List.pairwise_mergeSort (fun _ _ _ => TransCmp.isLE_trans) (fun a b => ?_) xs
  have swap : cmp b a = (cmp a b).swap := OrientedCmp.eq_swap
  rw [swap]
  cases cmp a b <;> rfl

/-! ## Replicas in order -/

/-- A pod was put on a node. -/
def Scheduled (p : Pod) : Prop := ∃ node, p.nodeName = some node ∧ node ≠ ""

/-- The replica that a pod is: its name, or none, and the node that it was put on. -/
structure IsReplica (p : Pod) (r : Replica) : Prop where
  pod : r.pod = p.metadata.name.getD ""
  node : p.nodeName = some r.node
  filled : r.node ≠ ""

theorem ofPod?_eq_some_iff {r : Replica} : ofPod? p = some r ↔ IsReplica p r := by
  obtain ⟨pod, node⟩ := r
  simp only [ofPod?, Option.map_eq_some_iff, Option.filter_eq_some_iff, decide_eq_true_iff,
    Replica.mk.injEq]
  constructor
  · rintro ⟨node, ⟨placed, filled⟩, rfl, rfl⟩
    exact ⟨rfl, placed, filled⟩
  · rintro ⟨rfl, placed, filled⟩
    exact ⟨node, ⟨placed, filled⟩, rfl, rfl⟩

theorem scheduled_iff : Scheduled p ↔ ∃ r, ofPod? p = some r := by
  simp only [ofPod?_eq_some_iff]
  constructor
  · rintro ⟨node, placed, filled⟩
    exact ⟨⟨_, node⟩, rfl, placed, filled⟩
  · rintro ⟨r, h⟩
    exact ⟨r.node, h.node, h.filled⟩

instance (p : Pod) : Decidable (Scheduled p) :=
  decidable_of_iff ((ofPod? p).isSome = true)
    (Option.isSome_iff_exists.trans scheduled_iff.symm)

/-- Replicas that are the pods of a list that were put on nodes, each once, and in order. -/
def InOrder (pods : List Pod) (replicas : List Replica) : Prop :=
  ∃ placed : List Pod, placed.Perm (pods.filter (Scheduled ·)) ∧ placed.Pairwise Precedes ∧
    List.Forall₂ IsReplica placed replicas

variable {pods pods' : List Pod} {replicas replicas' : List Replica}

theorem filterMap_of_isReplica (h : List.Forall₂ IsReplica pods replicas) :
    pods.filterMap ofPod? = replicas := by
  induction h with
  | nil => rfl
  | cons here _ ih => rw [List.filterMap_cons_some (ofPod?_eq_some_iff.mpr here), ih]

theorem isReplica_filterMap (h : ∀ p ∈ pods, Scheduled p) :
    List.Forall₂ IsReplica pods (pods.filterMap ofPod?) := by
  induction pods with
  | nil => exact .nil
  | cons p pods ih =>
    obtain ⟨here, rest⟩ := List.forall_mem_cons.mp h
    obtain ⟨r, here⟩ := scheduled_iff.mp here
    rw [List.filterMap_cons_some here]
    exact .cons (ofPod?_eq_some_iff.mp here) (ih rest)

/-- There is one way to put replicas in order. -/
theorem InOrder.unique (h : InOrder pods replicas) (h' : InOrder pods replicas') :
    replicas = replicas' := by
  obtain ⟨placed, all, ordered, shown⟩ := h
  obtain ⟨placed', all', ordered', shown'⟩ := h'
  have same : placed = placed' :=
    (all.trans all'.symm).eq_of_pairwise (fun _ _ _ _ before after => absurd after before.asymm)
      ordered ordered'
  rw [← filterMap_of_isReplica shown, ← filterMap_of_isReplica shown', same]

/-- The order of a list does not matter to that of its replicas. -/
theorem InOrder.perm (h : InOrder pods replicas) (same : pods.Perm pods') :
    InOrder pods' replicas := by
  obtain ⟨placed, all, ordered, shown⟩ := h
  exact ⟨placed, all.trans (same.filter _), ordered, shown⟩

/-- Pods that come after all others add their replicas at the end. -/
theorem InOrder.append (h : InOrder pods replicas) (h' : InOrder pods' replicas')
    (later : ∀ p ∈ pods, Scheduled p → ∀ q ∈ pods', Scheduled q → Precedes p q) :
    InOrder (pods ++ pods') (replicas ++ replicas') := by
  obtain ⟨placed, all, ordered, shown⟩ := h
  obtain ⟨placed', all', ordered', shown'⟩ := h'
  refine ⟨placed ++ placed', ?_, List.pairwise_append.mpr ⟨ordered, ordered', ?_⟩, ?_⟩
  · rw [List.filter_append]
    exact all.append all'
  · intro p mem q mem'
    obtain ⟨here, scheduled⟩ := List.mem_filter.mp (all.subset mem)
    obtain ⟨here', scheduled'⟩ := List.mem_filter.mp (all'.subset mem')
    exact later p here (of_decide_eq_true scheduled) q here' (of_decide_eq_true scheduled')
  · exact List.rel_append shown shown'

/-- Pods with names that are pairwise distinct. -/
def Distinct (pods : List Pod) : Prop := (pods.map (·.metadata.name)).Nodup

instance (pods : List Pod) : Decidable (Distinct pods) := inferInstanceAs (Decidable (List.Nodup _))

theorem ofPods_inOrder (distinct : Distinct pods) : InOrder pods (ofPods pods) := by
  have sorted : (pods.mergeSort le).Pairwise Precedes := by
    have named : (pods.mergeSort le).Pairwise fun p q => p.metadata.name ≠ q.metadata.name :=
      List.pairwise_map.mp (((List.mergeSort_perm pods le).map _).nodup_iff.mpr distinct)
    have ordered : (pods.mergeSort le).Pairwise fun p q => le p q = true := by
      have compared : le = fun p q => (order p q).isLE := funext fun p => funext (le_eq p)
      rw [compared]
      exact pairwise_mergeSort_isLE order pods
    exact (ordered.and named).imp fun h => precedes_of_le h.1 h.2
  refine ⟨(pods.mergeSort le).filter (Scheduled ·), (List.mergeSort_perm pods le).filter _,
    sorted.sublist List.filter_sublist, ?_⟩
  have whole : ofPods pods = ((pods.mergeSort le).filter (Scheduled ·)).filterMap ofPod? := by
    rw [List.filterMap_filter]
    refine List.filterMap_congr fun p _ => ?_
    cases shown : ofPod? p with
    | none => simp
    | some r => simp [scheduled_iff.mpr ⟨r, shown⟩]
  rw [whole]
  exact isReplica_filterMap fun p mem => of_decide_eq_true (List.mem_filter.mp mem).2

end ReplicaPorts.Replica
