/-!
# Keyed collections

A finite collection of values under keys, held as one list in ascending key order without
repetition. The order belongs to the type: `entries` is what a reader sees when it lists the
collection, and two collections that answer every `get?` alike are equal (`ext_get?`).

`get?_insert`, `get?_erase` and `ofList_snoc` say what each operation does to the view `get?`;
nothing outside this module needs to look at the list.
-/

set_option autoImplicit false

namespace ReplicaPorts

open Std

/-- Values under keys, in ascending key order, each key once. -/
structure Keyed (κ α : Type) [Ord κ] where
  entries : List (κ × α)
  ascending : entries.Pairwise (fun a b => compare a.1 b.1 = .lt)

namespace Keyed

variable {κ α β : Type} [Ord κ]

instance [DecidableEq κ] [DecidableEq α] : DecidableEq (Keyed κ α) := fun a b =>
  decidable_of_iff (a.entries = b.entries)
    ⟨fun h => by cases a; cases b; cases h; rfl, fun h => h ▸ rfl⟩

def empty : Keyed κ α := ⟨[], .nil⟩

instance : EmptyCollection (Keyed κ α) := ⟨empty⟩

instance : Inhabited (Keyed κ α) := ⟨empty⟩

/-- The value under a key, if there is one. -/
def get? (m : Keyed κ α) (k : κ) : Option α :=
  (m.entries.find? fun e => compare k e.1 == .eq).map (·.2)

def contains (m : Keyed κ α) (k : κ) : Bool := (m.get? k).isSome

def isEmpty (m : Keyed κ α) : Bool := m.entries.isEmpty

def toList (m : Keyed κ α) : List (κ × α) := m.entries

def keys (m : Keyed κ α) : List κ := m.entries.map (·.1)

def values (m : Keyed κ α) : List α := m.entries.map (·.2)

/-- Puts a pair where its key belongs, in place of one with the same key. -/
def insertEntry (k : κ) (v : α) : List (κ × α) → List (κ × α)
  | [] => [(k, v)]
  | e :: es =>
    match compare k e.1 with
    | .lt => (k, v) :: e :: es
    | .eq => (k, v) :: es
    | .gt => e :: insertEntry k v es

theorem mem_insertEntry {k : κ} {v : α} {e : κ × α} {es : List (κ × α)}
    (h : e ∈ insertEntry k v es) : e = (k, v) ∨ e ∈ es := by
  induction es with
  | nil => simpa [insertEntry] using h
  | cons a es ih => grind [insertEntry]

theorem ascending_insertEntry [TransOrd κ] {k : κ} {v : α} {es : List (κ × α)}
    (h : es.Pairwise (fun a b => compare a.1 b.1 = .lt)) :
    (insertEntry k v es).Pairwise (fun a b => compare a.1 b.1 = .lt) := by
  induction es with
  | nil => simp [insertEntry]
  | cons a es ih =>
    obtain ⟨head, tail⟩ := List.pairwise_cons.1 h
    unfold insertEntry
    split
    · next hlt =>
      exact List.pairwise_cons.2 ⟨fun b hb => by
        rcases List.mem_cons.1 hb with rfl | hb
        · exact hlt
        · exact TransCmp.lt_trans hlt (head b hb), h⟩
    · next heq =>
      exact List.pairwise_cons.2
        ⟨fun b hb => TransCmp.lt_of_eq_of_lt heq (head b hb), tail⟩
    · next hgt =>
      refine List.pairwise_cons.2 ⟨fun b hb => ?_, ih tail⟩
      rcases mem_insertEntry hb with rfl | hb
      · exact OrientedCmp.lt_of_gt hgt
      · exact head b hb

/-- Puts a value under a key, in place of the value it had. -/
def insert [TransOrd κ] (m : Keyed κ α) (k : κ) (v : α) : Keyed κ α :=
  ⟨insertEntry k v m.entries, ascending_insertEntry m.ascending⟩

def erase (m : Keyed κ α) (k : κ) : Keyed κ α :=
  ⟨m.entries.filter fun e => compare k e.1 != .eq, m.ascending.filter _⟩

def mapValues (f : α → β) (m : Keyed κ α) : Keyed κ β :=
  ⟨m.entries.map fun e => (e.1, f e.2), by
    simpa [List.pairwise_map] using m.ascending⟩

/-- The collection of a list of pairs; of two pairs with one key the later counts. -/
def ofList [TransOrd κ] (pairs : List (κ × α)) : Keyed κ α :=
  pairs.foldl (fun m e => m.insert e.1 e.2) ∅

/-! ## The view `get?` -/

@[simp] theorem get?_empty (k : κ) : (∅ : Keyed κ α).get? k = none := rfl

theorem find?_insertEntry [TransOrd κ] [LawfulEqOrd κ] (k k' : κ) (v : α) (es : List (κ × α)) :
    (insertEntry k v es).find? (fun e => compare k' e.1 == .eq)
      = if compare k' k = .eq then some (k, v)
        else es.find? (fun e => compare k' e.1 == .eq) := by
  induction es with
  | nil => by_cases h : compare k' k = .eq <;> simp [insertEntry, h]
  | cons a es ih =>
    unfold insertEntry
    split
    · by_cases h : compare k' k = .eq <;> simp [h]
    · next heq =>
      have : k = a.1 := LawfulEqCmp.eq_of_compare heq
      by_cases h : compare k' k = .eq
      · simp [h]
      · have h' : (compare k' a.1 == Ordering.eq) = false := by simpa [← this] using h
        simp [h, h']
    · next hgt =>
      by_cases h : compare k' k = .eq
      · have hk : k' = k := LawfulEqCmp.eq_of_compare h
        subst hk
        have h' : (compare k' a.1 == Ordering.eq) = false := by simp [hgt]
        simp [h', ih]
      · by_cases h' : compare k' a.1 = .eq <;> simp [h', h, ih]

theorem get?_insert [TransOrd κ] [LawfulEqOrd κ] (m : Keyed κ α) (k k' : κ) (v : α) :
    (m.insert k v).get? k' = if compare k' k = .eq then some v else m.get? k' := by
  simp only [get?, insert, find?_insertEntry]
  split <;> rfl

@[simp] theorem get?_insert_self [TransOrd κ] [LawfulEqOrd κ] (m : Keyed κ α) (k : κ) (v : α) :
    (m.insert k v).get? k = some v := by
  simp [get?_insert]

theorem get?_insert_ne [TransOrd κ] [LawfulEqOrd κ] (m : Keyed κ α) {k k' : κ} (v : α)
    (h : k' ≠ k) : (m.insert k v).get? k' = m.get? k' := by
  rw [get?_insert, if_neg fun e => h (LawfulEqCmp.eq_of_compare e)]

theorem get?_erase [TransOrd κ] [LawfulEqOrd κ] (m : Keyed κ α) (k k' : κ) :
    (m.erase k).get? k' = if compare k' k = .eq then none else m.get? k' := by
  simp only [get?, erase]
  generalize m.entries = es
  induction es with
  | nil => simp
  | cons a es ih =>
    by_cases h : compare k a.1 = .eq
    · have hk : k = a.1 := LawfulEqCmp.eq_of_compare h
      by_cases h' : compare k' k = .eq <;> simp_all
    · by_cases h' : compare k' a.1 = .eq
      · have hk : k' = a.1 := LawfulEqCmp.eq_of_compare h'
        have hne : compare k' k ≠ .eq := fun e => h (by
          rw [← hk, LawfulEqCmp.eq_of_compare e]; exact ReflCmp.compare_self)
        simp [h, h', hne]
      · simpa [h, h'] using ih

@[simp] theorem get?_erase_self [TransOrd κ] [LawfulEqOrd κ] (m : Keyed κ α) (k : κ) :
    (m.erase k).get? k = none := by
  simp [get?_erase]

theorem get?_erase_ne [TransOrd κ] [LawfulEqOrd κ] (m : Keyed κ α) {k k' : κ} (h : k' ≠ k) :
    (m.erase k).get? k' = m.get? k' := by
  rw [get?_erase, if_neg fun e => h (LawfulEqCmp.eq_of_compare e)]

theorem ofList_snoc [TransOrd κ] (pairs : List (κ × α)) (k : κ) (v : α) :
    ofList (pairs ++ [(k, v)]) = (ofList pairs).insert k v := by
  simp [ofList]

theorem get?_eq_some_iff [TransOrd κ] [LawfulEqOrd κ] {m : Keyed κ α} {k : κ} {v : α} :
    m.get? k = some v ↔ (k, v) ∈ m.entries := by
  obtain ⟨es, asc⟩ := m
  simp only [get?]
  induction es with
  | nil => simp
  | cons a es ih =>
    obtain ⟨head, tail⟩ := List.pairwise_cons.1 asc
    by_cases h : compare k a.1 = .eq
    · have hk : k = a.1 := LawfulEqCmp.eq_of_compare h
      have hout : (k, v) ∉ es := fun hm => by
        have := head _ hm
        simp [hk] at this
      obtain ⟨a₁, a₂⟩ := a
      simp only at hk
      subst hk
      simp [eq_comm, hout]
    · have hne : (k, v) ≠ a := fun e => h (by rw [← e]; exact ReflCmp.compare_self)
      simpa [List.find?_cons, h, hne] using ih tail

/-- Two ascending lists with the same members are one list. -/
theorem eq_of_mem_iff [TransOrd κ] {xs ys : List (κ × α)}
    (hx : xs.Pairwise (fun a b => compare a.1 b.1 = .lt))
    (hy : ys.Pairwise (fun a b => compare a.1 b.1 = .lt))
    (h : ∀ e, e ∈ xs ↔ e ∈ ys) : xs = ys := by
  induction xs generalizing ys with
  | nil =>
    cases ys with
    | nil => rfl
    | cons b ys => exact absurd ((h b).2 List.mem_cons_self) List.not_mem_nil
  | cons a xs ih =>
    cases ys with
    | nil => exact absurd ((h a).1 List.mem_cons_self) List.not_mem_nil
    | cons b ys =>
      obtain ⟨ha, hx⟩ := List.pairwise_cons.1 hx
      obtain ⟨hb, hys⟩ := List.pairwise_cons.1 hy
      have hab : a = b := by
        rcases List.mem_cons.1 ((h a).1 List.mem_cons_self) with e | hm
        · exact e
        · rcases List.mem_cons.1 ((h b).2 List.mem_cons_self) with e | hm'
          · exact e.symm
          · exact absurd (ha b hm') (by rw [OrientedCmp.gt_of_lt (hb a hm)]; decide)
      subst hab
      congr 1
      refine ih hx hys fun e => ⟨fun he => ?_, fun he => ?_⟩
      · rcases List.mem_cons.1 ((h e).1 (List.mem_cons_of_mem _ he)) with rfl | hm
        · exact absurd (ha e he) (by simp)
        · exact hm
      · rcases List.mem_cons.1 ((h e).2 (List.mem_cons_of_mem _ he)) with rfl | hm
        · exact absurd (hb e he) (by simp)
        · exact hm

/-- A collection is determined by what it answers. -/
theorem ext_get? [TransOrd κ] [LawfulEqOrd κ] {m n : Keyed κ α}
    (h : ∀ k, m.get? k = n.get? k) : m = n := by
  have : m.entries = n.entries := eq_of_mem_iff m.ascending n.ascending fun ⟨k, v⟩ => by
    rw [← get?_eq_some_iff, ← get?_eq_some_iff, h]
  cases m; cases n; cases this; rfl

end Keyed

end ReplicaPorts
