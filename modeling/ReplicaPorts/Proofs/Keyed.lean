import Mathlib.Algebra.GroupWithZero.Nat
import Mathlib.Data.List.Induction
import Mathlib.Data.List.Nodup
import ReplicaPorts.Keyed

/-!
# The keys of collections

The keys of a collection ascend, so none comes twice, and the keys of a collection that is made from
pairs are those of the pairs. A collection that is made from what it lists is itself
(`ofList_toList`). A value that is put in a collection of numbers changes their sum by what it
differs from the value before (`sum_values_insert`).
-/

set_option autoImplicit false

namespace ReplicaPorts.Keyed

open Std

variable {κ α : Type} [Ord κ]

/-- A collection in which a key has its own value again is itself. -/
theorem insert_eq_self_iff [TransOrd κ] [LawfulEqOrd κ] {m : Keyed κ α} {k : κ} {v : α} :
    m.insert k v = m ↔ m.get? k = some v := by
  constructor
  · intro same
    rw [← same, get?_insert_self]
  · intro found
    refine ext_get? fun k' => ?_
    by_cases here : k' = k
    · rw [here, get?_insert_self, found]
    · exact get?_insert_ne m v here

theorem keys_ascending (m : Keyed κ α) : m.keys.Pairwise fun a b => compare a b = .lt :=
  List.pairwise_map.mpr m.ascending

theorem nodup_keys [ReflOrd κ] (m : Keyed κ α) : m.keys.Nodup := by
  refine m.keys_ascending.imp fun {a b} before same => ?_
  have self : compare b b = .eq := ReflCmp.compare_self
  rw [same, self] at before
  cases before

theorem nodup_toList [ReflOrd κ] (m : Keyed κ α) : m.toList.Nodup :=
  List.Nodup.of_map _ m.nodup_keys

theorem mem_keys_iff [TransOrd κ] [LawfulEqOrd κ] {m : Keyed κ α} {k : κ} :
    k ∈ m.keys ↔ ∃ v, m.get? k = some v := by
  unfold keys
  constructor
  · intro mem
    obtain ⟨⟨k', v⟩, entry, rfl⟩ := List.mem_map.mp mem
    exact ⟨v, get?_eq_some_iff.mpr entry⟩
  · intro known
    obtain ⟨v, found⟩ := known
    exact List.mem_map.mpr ⟨(k, v), get?_eq_some_iff.mp found, rfl⟩

/-- The keys of a collection are those of the pairs that it is made from. -/
theorem mem_keys_ofList [TransOrd κ] [LawfulEqOrd κ] {pairs : List (κ × α)} {k : κ} :
    k ∈ (ofList pairs).keys ↔ k ∈ pairs.map (·.1) := by
  induction pairs using List.reverseRecOn with
  | nil => rfl
  | append_singleton pairs pair ih =>
    obtain ⟨k', v⟩ := pair
    rw [mem_keys_iff] at ih ⊢
    rw [ofList_snoc, List.map_append, List.mem_append, ← ih]
    by_cases same : k = k'
    · subst same
      simp
    · simp [get?_insert_ne _ v same, same]

/-- A pair whose key comes after all others is put at the end. -/
theorem insertEntry_of_last [OrientedOrd κ] {k : κ} {v : α} {es : List (κ × α)}
    (last : ∀ e ∈ es, compare e.1 k = .lt) : insertEntry k v es = es ++ [(k, v)] := by
  induction es with
  | nil => rfl
  | cons e es ih =>
    obtain ⟨before, rest⟩ := List.forall_mem_cons.mp last
    rw [insertEntry, OrientedCmp.gt_of_lt before]
    exact congrArg (e :: ·) (ih rest)

theorem entries_foldl_insert [TransOrd κ] (m : Keyed κ α) {es : List (κ × α)}
    (ascending : (m.entries ++ es).Pairwise fun a b => compare a.1 b.1 = .lt) :
    (es.foldl (fun m e => m.insert e.1 e.2) m).entries = m.entries ++ es := by
  induction es generalizing m with
  | nil => exact (List.append_nil _).symm
  | cons e es ih =>
    have last : ∀ a ∈ m.entries, compare a.1 e.1 = .lt := fun a mem =>
      (List.pairwise_append.mp ascending).2.2 a mem e List.mem_cons_self
    have inserted : (m.insert e.1 e.2).entries = m.entries ++ [e] := insertEntry_of_last last
    rw [List.append_cons, ← inserted] at ascending ⊢
    exact ih _ ascending

/-- A collection is made from what it lists. -/
theorem ofList_toList [TransOrd κ] (m : Keyed κ α) : ofList m.toList = m := by
  have entries : (ofList m.toList).entries = m.entries := entries_foldl_insert ∅ m.ascending
  cases made : ofList m.toList
  rw [made] at entries
  cases entries
  rfl

/-! ## Sums -/

theorem sum_insertEntry [TransOrd κ] {k : κ} {v : Nat} {es : List (κ × Nat)}
    (ascending : es.Pairwise fun a b => compare a.1 b.1 = .lt) :
    ((insertEntry k v es).map Prod.snd).sum +
        ((es.find? fun e => compare k e.1 == .eq).map Prod.snd).getD 0 =
      (es.map Prod.snd).sum + v := by
  induction es with
  | nil => simp [insertEntry]
  | cons e es ih =>
    obtain ⟨above, rest⟩ := List.pairwise_cons.mp ascending
    unfold insertEntry
    cases order : compare k e.1 with
    | lt =>
      -- all other keys come after this one, so the key is new
      have new : es.find? (fun e => compare k e.1 == .eq) = none := by
        refine List.find?_eq_none.mpr ?_
        intro e' mem
        simp [TransCmp.lt_trans order (above e' mem)]
      simp only [List.find?_cons, order, new, List.map_cons, List.sum_cons, Option.map_none,
        Option.getD_none, Ordering.lt_beq_eq]
      omega
    | eq =>
      simp only [List.find?_cons, order, BEq.rfl, List.map_cons, List.sum_cons, Option.map_some,
        Option.getD_some]
      omega
    | gt =>
      have inserted := ih rest
      simp only [List.find?_cons, order, List.map_cons, List.sum_cons, Ordering.gt_beq_eq]
      omega

/-- A value in a collection of numbers takes the place of the one before in the sum of all. -/
theorem sum_values_insert [TransOrd κ] (m : Keyed κ Nat) (k : κ) (v : Nat) :
    (m.insert k v).values.sum + (m.get? k).getD 0 = m.values.sum + v :=
  sum_insertEntry m.ascending

end ReplicaPorts.Keyed
