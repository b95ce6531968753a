import ReplicaPorts.Compute.Scope
import ReplicaPorts.Proofs.Keyed
import ReplicaPorts.Proofs.Text.Blank
import ReplicaPorts.Proofs.Text.Cut

/-!
# Annotations in words

An annotation text is a row of segments with commas between them. A segment holds an entry if an
equals sign stands in it: the first one divides the key from the value, and blank characters around
either do not count (`Holds`). Taking them away from the whole segment first changes nothing
(`entryPair?_trim`), so a segment is read as what it holds.

Of the segments with one key the last one counts (`HoldsLast`); this is the invariant of the walk
over the segments (`get?_of_addAnnotations`). A collection that is laid out as text (`LaysOut`), in
any order and with blank characters and blank segments wherever one likes, is read back.
-/

set_option autoImplicit false

namespace ReplicaPorts.Compute.Annotation

open Text (Blank trim segments)

variable {s : List Char} {k v : String} {segs : List (List Char)}

/-! ## What a segment holds -/

/-- A segment holds an entry: its key stands before the first equals sign and its value behind it,
both without the blank characters around them. -/
def Holds (s : List Char) (key value : String) : Prop :=
  ∃ front back, s = front ++ '=' :: back ∧ '=' ∉ front ∧ key.toList = trim front ∧
    value.toList = trim back

/-- A segment is an entry if something that is not blank stands before its first equals sign. -/
def IsEntry (s : List Char) : Prop :=
  ∃ front back, s = front ++ '=' :: back ∧ '=' ∉ front ∧ ¬ Blank front

theorem Holds.unique {k' v' : String} (h : Holds s k v) (h' : Holds s k' v') : k = k' ∧ v = v' := by
  obtain ⟨front, back, whole, free, key, value⟩ := h
  obtain ⟨front', back', whole', free', key', value'⟩ := h'
  have cut := Text.cut?_eq_some_iff.mpr ⟨whole, free⟩
  rw [Text.cut?_eq_some_iff.mpr ⟨whole', free'⟩, Option.some.injEq, Prod.mk.injEq] at cut
  obtain ⟨rfl, rfl⟩ := cut
  exact ⟨String.toList_inj.mp (key.trans key'.symm), String.toList_inj.mp (value.trans value'.symm)⟩

theorem not_holds_of_blank (blank : Blank s) : ¬ Holds s k v := by
  rintro ⟨front, back, rfl, -⟩
  have sign : Text.isBlank '=' = true := blank '=' (by simp)
  exact absurd sign (by decide)

theorem isEntry_iff : IsEntry s ↔ ∃ k v, k ≠ "" ∧ Holds s k v := by
  constructor
  · rintro ⟨front, back, whole, free, filled⟩
    refine ⟨.ofList (trim front), .ofList (trim back), ?_, front, back, whole, free,
      String.toList_ofList, String.toList_ofList⟩
    intro empty
    have left := congrArg String.toList empty
    rw [String.toList_ofList] at left
    exact filled (Text.trim_eq_nil_iff.mp left)
  · rintro ⟨k, v, filled, front, back, whole, free, key, -⟩
    refine ⟨front, back, whole, free, ?_⟩
    intro blank
    rw [Text.trim_eq_nil_iff.mpr blank] at key
    exact filled (String.toList_eq_nil_iff.mp key)

theorem entryPair?_eq_some_iff : entryPair? s = some (k, v) ↔ Holds s k v ∧ k ≠ "" := by
  constructor
  · intro h
    unfold entryPair? at h
    split at h
    · next front back cut =>
      obtain ⟨whole, free⟩ := Text.cut?_eq_some_iff.mp cut
      split at h
      · cases h
      · next filled =>
        cases h
        refine ⟨⟨front, back, whole, free, String.toList_ofList, String.toList_ofList⟩, ?_⟩
        intro empty
        exact filled (String.toList_ofList.symm.trans (congrArg String.toList empty))
    · cases h
  · rintro ⟨⟨front, back, whole, free, key, value⟩, filled⟩
    have some_ : trim front ≠ [] := by
      rw [← key]
      exact fun empty => filled (String.toList_eq_nil_iff.mp empty)
    rw [entryPair?, Text.cut?_eq_some_iff.mpr ⟨whole, free⟩]
    show (if trim front = [] then none else _) = _
    rw [if_neg some_, ← key, ← value, String.ofList_toList, String.ofList_toList]

theorem entryPair?_eq_none_iff : entryPair? s = none ↔ ¬ IsEntry s := by
  rw [isEntry_iff]
  constructor
  · rintro none_ ⟨k, v, filled, held⟩
    rw [entryPair?_eq_some_iff.mpr ⟨held, filled⟩] at none_
    cases none_
  · intro none_
    cases pair : entryPair? s with
    | none => rfl
    | some e =>
      obtain ⟨held, filled⟩ := entryPair?_eq_some_iff.mp pair
      exact absurd ⟨e.1, e.2, filled, held⟩ none_

/-- Blank characters around a segment do not change what is read in it. -/
theorem entryPair?_trim (s : List Char) : entryPair? (trim s) = entryPair? s := by
  obtain ⟨front, back, before, behind, whole⟩ := Text.exists_pad s
  have sign : Text.isBlank '=' = false := by decide
  have free : ∀ {cs : List Char}, Blank cs → '=' ∉ cs := by
    intro cs blank mem
    rw [blank '=' mem] at sign
    cases sign
  unfold entryPair?
  cases cut : Text.cut? '=' (trim s) with
  | none =>
    have none_ : '=' ∉ s := by
      rw [whole]
      simp [free before, free behind, Text.cut?_eq_none_iff.mp cut]
    rw [Text.cut?_eq_none_iff.mpr none_]
  | some parts =>
    obtain ⟨a, b⟩ := parts
    obtain ⟨inner, free'⟩ := Text.cut?_eq_some_iff.mp cut
    have outer : s = (front ++ a) ++ '=' :: (b ++ back) := by
      rw [whole, inner]
      simp
    have key : trim (front ++ a) = trim a := by
      have unpadded : Blank [] := nofun
      have padded := Text.trim_pad before a unpadded
      rwa [List.append_nil] at padded
    rw [Text.cut?_eq_some_iff.mpr ⟨outer, by simp [free before, free']⟩]
    simp only [key, Text.trim_pad_end behind]

/-! ## The walk over the segments -/

theorem addAnnotations_cons (m : Keyed String String) (s : List Char) (segs : List (List Char)) :
    addAnnotations m (s :: segs) =
      if Blank s then addAnnotations m segs
      else match entryPair? s with
        | some (k, v) => addAnnotations (m.insert k v) segs
        | none => .error ⟨.ofList (trim s)⟩ := by
  by_cases blank : Blank s
  · rw [if_pos blank]
    exact if_pos (Text.trim_eq_nil_iff.mpr blank)
  · rw [if_neg blank]
    refine (if_neg (mt Text.trim_eq_nil_iff.mp blank)).trans ?_
    exact congrArg (fun pair : Option (String × String) =>
      match pair with
      | some (k, v) => addAnnotations (m.insert k v) segs
      | none => .error ⟨.ofList (trim s)⟩) (entryPair?_trim s)

/-- The walk comes to its end exactly if every segment is an entry or blank. -/
theorem exists_addAnnotations_iff (m : Keyed String String) :
    (∃ m', addAnnotations m segs = .ok m') ↔ ∀ s ∈ segs, ¬ Blank s → IsEntry s := by
  induction segs generalizing m with
  | nil => exact iff_of_true ⟨m, rfl⟩ nofun
  | cons s segs ih =>
    rw [addAnnotations_cons, List.forall_mem_cons]
    by_cases blank : Blank s
    · rw [if_pos blank, ih]
      simp [blank]
    · rw [if_neg blank]
      cases pair : entryPair? s with
      | none =>
        have bad := entryPair?_eq_none_iff.mp pair
        simp [blank, bad]
      | some e =>
        obtain ⟨held, filled⟩ := entryPair?_eq_some_iff.mp pair
        have good : IsEntry s := isEntry_iff.mpr ⟨e.1, e.2, filled, held⟩
        simp [ih, good]

/-- What the last of some segments with a key holds for it. -/
def HoldsLast (segs : List (List Char)) (k v : String) : Prop :=
  ∃ earlier s later, segs = earlier ++ s :: later ∧ Holds s k v ∧
    ∀ t ∈ later, ∀ w, ¬ Holds t k w

theorem holdsLast_nil : ¬ HoldsLast [] k v := by
  rintro ⟨earlier, s, later, whole, -⟩
  simp at whole

theorem holdsLast_cons :
    HoldsLast (s :: segs) k v ↔
      HoldsLast segs k v ∨ Holds s k v ∧ ∀ t ∈ segs, ∀ w, ¬ Holds t k w := by
  constructor
  · rintro ⟨earlier, s', later, whole, held, last⟩
    cases earlier with
    | nil =>
      cases whole
      exact .inr ⟨held, last⟩
    | cons e earlier =>
      cases whole
      exact .inl ⟨earlier, s', later, rfl, held, last⟩
  · rintro (⟨earlier, s', later, rfl, held, last⟩ | ⟨held, last⟩)
    · exact ⟨s :: earlier, s', later, rfl, held, last⟩
    · exact ⟨[], s, segs, rfl, held, last⟩

/-- Of the segments with a key one is the last. -/
theorem exists_holdsLast (mem : s ∈ segs) (held : Holds s k v) : ∃ w, HoldsLast segs k w := by
  induction segs generalizing s v with
  | nil => cases mem
  | cons t segs ih =>
    by_cases later : ∃ s ∈ segs, ∃ w, Holds s k w
    · obtain ⟨s, mem, w, held⟩ := later
      obtain ⟨w, last⟩ := ih mem held
      exact ⟨w, holdsLast_cons.mpr (.inl last)⟩
    · obtain rfl | mem := List.mem_cons.mp mem
      · exact ⟨v, holdsLast_cons.mpr (.inr ⟨held, fun s mem w held =>
          later ⟨s, mem, w, held⟩⟩)⟩
      · exact absurd ⟨s, mem, v, held⟩ later

/-- What the walk finds for a key is what the last segment with the key holds, or what was known
before if no segment has it. -/
theorem get?_of_addAnnotations {m m' : Keyed String String} (h : addAnnotations m segs = .ok m')
    (k v : String) :
    m'.get? k = some v ↔
      HoldsLast segs k v ∨ m.get? k = some v ∧ ∀ s ∈ segs, ∀ w, ¬ Holds s k w := by
  induction segs generalizing m with
  | nil =>
    cases h
    simp [holdsLast_nil]
  | cons s segs ih =>
    rw [addAnnotations_cons] at h
    rw [holdsLast_cons, List.forall_mem_cons]
    by_cases blank : Blank s
    · rw [if_pos blank] at h
      rw [ih h]
      simp [not_holds_of_blank blank]
    · rw [if_neg blank] at h
      cases pair : entryPair? s with
      | none =>
        rw [pair] at h
        cases h
      | some e =>
        obtain ⟨key, value⟩ := e
        obtain ⟨held, -⟩ := entryPair?_eq_some_iff.mp pair
        rw [pair] at h
        rw [ih h]
        by_cases here : k = key
        · subst here
          have only : Holds s k v ↔ value = v :=
            ⟨fun held' => (held.unique held').2, fun same => same ▸ held⟩
          have some_ : ¬ ∀ w, ¬ Holds s k w := fun none_ => none_ value held
          simp [only, some_]
        · have other : ∀ w, ¬ Holds s k w := fun w held' => here (held'.unique held).1
          simp [Keyed.get?_insert_ne _ _ here, other]

/-! ## Collections as texts -/

/-- Segments in which entries are laid out one after the other, with blank characters around keys
and values, and with blank segments anywhere. -/
inductive LaysOut : List (List Char) → List (String × String) → Prop
  | nil : LaysOut [] []
  | blank {s segs entries} (blank : Blank s) (rest : LaysOut segs entries) :
      LaysOut (s :: segs) entries
  | entry {k v segs entries} {before behind before' behind' : List Char}
      (key : Blank before ∧ Blank behind) (value : Blank before' ∧ Blank behind')
      (rest : LaysOut segs entries) :
      LaysOut ((before ++ k.toList ++ behind ++ '=' :: (before' ++ v.toList ++ behind')) :: segs)
        ((k, v) :: entries)

/-- What may be laid out: a key that is not empty, without blank characters around it, a comma or an
equals sign, and a value without blank characters around it or a comma. -/
structure Printable (e : String × String) : Prop where
  filled : e.1 ≠ ""
  key : Text.trimmed e.1 = e.1 ∧ ',' ∉ e.1.toList ∧ '=' ∉ e.1.toList
  value : Text.trimmed e.2 = e.2 ∧ ',' ∉ e.2.toList

/-- A text in which the entries of a collection are laid out in some order. -/
def Shows (raw : String) (m : Keyed String String) : Prop :=
  ∃ segs entries, raw.toList = [','].intercalate segs ∧ LaysOut segs entries ∧
    entries.Perm m.toList

theorem not_mem_of_blank {c : Char} (filled : Text.isBlank c = false) {cs : List Char}
    (blank : Blank cs) : c ∉ cs := by
  intro mem
  rw [blank c mem] at filled
  cases filled

theorem trim_toList {t : String} (trimmed : Text.trimmed t = t) : trim t.toList = t.toList := by
  rw [← String.toList_inj, Text.trimmed, String.toList_ofList] at trimmed
  exact trimmed

variable {entries : List (String × String)}

/-- A laid out entry is held by its segment. -/
theorem Printable.holds {before behind before' behind' : List Char} (h : Printable (k, v))
    (key : Blank before ∧ Blank behind) (value : Blank before' ∧ Blank behind') :
    Holds (before ++ k.toList ++ behind ++ '=' :: (before' ++ v.toList ++ behind')) k v := by
  have sign : Text.isBlank '=' = false := by decide
  refine ⟨_, _, rfl, ?_, ?_, ?_⟩
  · simp [not_mem_of_blank sign key.1, not_mem_of_blank sign key.2, h.key.2.2]
  · rw [Text.trim_pad key.1 _ key.2, trim_toList h.key.1]
  · rw [Text.trim_pad value.1 _ value.2, trim_toList h.value.1]

/-- No segment of a layout holds a comma. -/
theorem LaysOut.commaless (h : LaysOut segs entries) (printable : ∀ e ∈ entries, Printable e) :
    ∀ s ∈ segs, ',' ∉ s := by
  have comma : Text.isBlank ',' = false := by decide
  induction h with
  | nil => exact nofun
  | blank blank rest ih =>
    exact List.forall_mem_cons.mpr ⟨not_mem_of_blank comma blank, ih printable⟩
  | entry key value rest ih =>
    obtain ⟨first, others⟩ := List.forall_mem_cons.mp printable
    refine List.forall_mem_cons.mpr ⟨?_, ih others⟩
    simp [not_mem_of_blank comma key.1, not_mem_of_blank comma key.2,
      not_mem_of_blank comma value.1, not_mem_of_blank comma value.2, first.key.2.1,
      first.value.2]

/-- Every segment of a layout is an entry or blank. -/
theorem LaysOut.isEntry (h : LaysOut segs entries) (printable : ∀ e ∈ entries, Printable e) :
    ∀ s ∈ segs, ¬ Blank s → IsEntry s := by
  induction h with
  | nil => exact nofun
  | blank blank rest ih =>
    exact List.forall_mem_cons.mpr ⟨fun filled => absurd blank filled, ih printable⟩
  | @entry k v segs entries a b c d key value rest ih =>
    obtain ⟨first, others⟩ := List.forall_mem_cons.mp printable
    exact List.forall_mem_cons.mpr
      ⟨fun _ => isEntry_iff.mpr ⟨k, v, first.filled, first.holds key value⟩, ih others⟩

/-- The segments of a layout hold the entries that are laid out. -/
theorem LaysOut.holds_iff (h : LaysOut segs entries) (printable : ∀ e ∈ entries, Printable e) :
    (∃ s ∈ segs, Holds s k v) ↔ (k, v) ∈ entries := by
  induction h with
  | nil => simp
  | blank blank rest ih => simp [← ih printable, not_holds_of_blank blank]
  | @entry key' value' segs entries a b c d key value rest ih =>
    obtain ⟨first, others⟩ := List.forall_mem_cons.mp printable
    have own := first.holds key value
    have only : Holds (a ++ key'.toList ++ b ++ '=' :: (c ++ value'.toList ++ d)) k v ↔
        (k, v) = (key', value') := by
      constructor
      · intro held
        obtain ⟨rfl, rfl⟩ := held.unique own
        rfl
      · intro same
        cases same
        exact own
    rw [List.mem_cons, ← ih others, ← only]
    simp

theorem HoldsLast.exists (h : HoldsLast segs k v) : ∃ s ∈ segs, Holds s k v := by
  obtain ⟨earlier, s, later, rfl, held, -⟩ := h
  exact ⟨s, by simp, held⟩

/-- A collection that is laid out is read back. -/
theorem addAnnotations_of_laysOut {m : Keyed String String} (h : LaysOut segs entries)
    (order : entries.Perm m.toList) (printable : ∀ e ∈ m.toList, Printable e) :
    addAnnotations ∅ segs = .ok m := by
  have printable' : ∀ e ∈ entries, Printable e := fun e mem => printable e (order.mem_iff.mp mem)
  obtain ⟨m', read⟩ := (exists_addAnnotations_iff ∅).mpr (h.isEntry printable')
  have known : ∀ k v, (k, v) ∈ entries ↔ m.get? k = some v := by
    intro k v
    rw [order.mem_iff, Keyed.get?_eq_some_iff]
    rfl
  have same : m' = m := by
    refine Keyed.ext_get? fun k => Option.ext fun v => ?_
    rw [get?_of_addAnnotations read, Keyed.get?_empty]
    simp only [reduceCtorEq, false_and, or_false]
    rw [← known]
    constructor
    · intro last
      exact (h.holds_iff printable').mp last.exists
    · intro mem
      obtain ⟨s, mem', held⟩ := (h.holds_iff printable').mpr mem
      obtain ⟨w, last⟩ := exists_holdsLast mem' held
      -- the key has one value only, so the last segment with it says the same
      have there := (known k w).mp ((h.holds_iff printable').mp last.exists)
      rw [(known k v).mp mem, Option.some.injEq] at there
      exact there ▸ last
  rw [read, same]

/-- A text that shows a collection has the segments of a layout. -/
theorem exists_layout {raw : String} {m : Keyed String String} (h : Shows raw m)
    (printable : ∀ e ∈ m.toList, Printable e) :
    ∃ entries, LaysOut (segments ',' raw.toList) entries ∧ entries.Perm m.toList := by
  obtain ⟨segs, entries, whole, layout, order⟩ := h
  have printable' : ∀ e ∈ entries, Printable e := fun e mem => printable e (order.mem_iff.mp mem)
  refine ⟨entries, ?_, order⟩
  cases segs with
  | nil =>
    cases layout
    rw [whole]
    exact .blank nofun .nil
  | cons s segs =>
    rw [whole, Text.segments_of_intercalate (layout.commaless printable')]
    exact layout

/-- A text is read as annotations exactly if each of its segments is an entry or blank. What is then
found for a key is what the last segment with that key holds for it. Whatever collection can be laid
out as text is read back from every text that shows it. -/
theorem annotations_by_grammar (raw : String) :
    ((∃ m, annotations raw = .ok m) ↔
      ∀ s ∈ segments ',' raw.toList, ¬ Blank s → IsEntry s) ∧
    (∀ m, annotations raw = .ok m →
      ∀ k v, m.get? k = some v ↔ HoldsLast (segments ',' raw.toList) k v) ∧
    ∀ m, (∀ e ∈ m.toList, Printable e) → Shows raw m → annotations raw = .ok m := by
  refine ⟨exists_addAnnotations_iff ∅, ?_, ?_⟩
  · intro m read k v
    rw [get?_of_addAnnotations read, Keyed.get?_empty]
    simp
  · intro m printable shows_
    obtain ⟨entries, layout, order⟩ := exists_layout shows_ printable
    exact addAnnotations_of_laysOut layout order printable

end ReplicaPorts.Compute.Annotation

namespace ReplicaPorts.Small

open Compute

/-- Two annotations. -/
def marks : Keyed String String := Keyed.ofList [("team", "db"), ("env", "a=b")]

/-- The two in another order, with blank characters and blank segments around them. -/
def marksText : String := " , team= db,env\t=a=b ,,"

theorem toList_marks : marks.toList = [("env", "a=b"), ("team", "db")] := by decide +kernel

theorem shows_marksText : Annotation.Shows marksText marks := by
  have segs : marksText.toList = [','].intercalate
      [[' '], [' '] ++ "team".toList ++ [] ++ '=' :: ([' '] ++ "db".toList ++ []),
        [] ++ "env".toList ++ ['\t'] ++ '=' :: ([] ++ "a=b".toList ++ [' ']), [], []] := by
    decide +kernel
  refine ⟨_, [("team", "db"), ("env", "a=b")], segs, ?_, ?_⟩
  · exact .blank (by decide) (.entry (by decide) (by decide) (.entry (by decide) (by decide)
      (.blank nofun (.blank nofun .nil))))
  · rw [toList_marks]
    exact .swap ..

theorem small_annotations_by_grammar :
    Annotation.Shows marksText marks ∧ annotations marksText = .ok marks ∧
      Annotation.HoldsLast (Text.segments ',' marksText.toList) "env" "a=b" := by
  have printable : ∀ e ∈ marks.toList, Annotation.Printable e := by
    rw [toList_marks]
    refine List.forall_mem_cons.mpr ⟨?_, List.forall_mem_cons.mpr ⟨?_, nofun⟩⟩
    · exact ⟨by decide, by decide +kernel, by decide +kernel⟩
    · exact ⟨by decide, by decide +kernel, by decide +kernel⟩
  obtain ⟨-, found, reads⟩ := Annotation.annotations_by_grammar marksText
  have read := reads marks printable shows_marksText
  exact ⟨shows_marksText, read, (found marks read "env" "a=b").mp (by decide +kernel)⟩

end ReplicaPorts.Small
