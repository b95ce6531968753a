import Mathlib.Data.List.TakeWhile
import ReplicaPorts.Text.Blank

/-!
# Blank characters around texts

Trimming takes away the blank characters around a text, however many they are (`trim_pad`), and
nothing else: what is left is the text without them (`exists_pad`), and blank characters are all
there was exactly if nothing is left (`trim_eq_nil_iff`). So two texts trim to the same exactly if
they differ only in the blank characters around them (`repads_iff`).
-/

set_option autoImplicit false

namespace ReplicaPorts.Text

variable {cs front back : List Char}

/-- A text of blank characters, or of none. -/
def Blank (cs : List Char) : Prop := ∀ c ∈ cs, isBlank c = true

instance (cs : List Char) : Decidable (Blank cs) := List.decidableBAll _ cs

theorem blank_append : Blank (front ++ back) ↔ Blank front ∧ Blank back :=
  List.forall_mem_append

theorem blank_reverse : Blank cs.reverse ↔ Blank cs := by simp [Blank]

theorem allBlank_eq_true_iff {s : String} : allBlank s = true ↔ Blank s.toList := List.all_eq_true

theorem trimStart_pad (blank : Blank front) (cs : List Char) :
    trimStart (front ++ cs) = trimStart cs :=
  List.dropWhile_append_of_pos blank

theorem trimEnd_pad (blank : Blank back) (cs : List Char) :
    trimEnd (cs ++ back) = trimEnd cs := by
  unfold trimEnd
  rw [List.reverse_append, List.dropWhile_append_of_pos (blank_reverse.mpr blank)]

/-- Blank characters at the end stay there while those at the start are taken away. -/
theorem trim_pad_end (blank : Blank back) (cs : List Char) : trim (cs ++ back) = trim cs := by
  unfold trim
  by_cases all : Blank cs
  · have none_ : trimStart cs = [] := List.dropWhile_eq_nil_iff.mpr all
    have none_' : trimStart (cs ++ back) = [] :=
      List.dropWhile_eq_nil_iff.mpr (blank_append.mpr ⟨all, blank⟩)
    rw [none_, none_']
  · have kept : trimStart (cs ++ back) = trimStart cs ++ back := by
      unfold trimStart
      rw [List.dropWhile_append, if_neg]
      simpa [List.dropWhile_eq_nil_iff, Blank] using all
    rw [kept, trimEnd_pad blank]

/-- Blank characters around a text do not matter. -/
theorem trim_pad (before : Blank front) (cs : List Char) (behind : Blank back) :
    trim (front ++ cs ++ back) = trim cs := by
  rw [trim_pad_end behind, trim, trimStart_pad before]
  rfl

/-- What is trimmed is the text with blank characters around it. -/
theorem exists_pad (cs : List Char) :
    ∃ front back, Blank front ∧ Blank back ∧ cs = front ++ trim cs ++ back := by
  have start : cs = cs.takeWhile isBlank ++ trimStart cs := List.takeWhile_append_dropWhile.symm
  have blank : ∀ cs : List Char, Blank (cs.takeWhile isBlank) := fun _ _ mem =>
    List.mem_takeWhile_imp mem
  refine ⟨cs.takeWhile isBlank, ((trimStart cs).reverse.takeWhile isBlank).reverse, blank cs,
    blank_reverse.mpr (blank _), ?_⟩
  have behind : trimStart cs =
      trim cs ++ ((trimStart cs).reverse.takeWhile isBlank).reverse := by
    rw [trim, trimEnd, ← List.reverse_append, List.takeWhile_append_dropWhile,
      List.reverse_reverse]
  rw [List.append_assoc, ← behind]
  exact start

/-- Nothing is left of a text exactly if it is blank. -/
theorem trim_eq_nil_iff : trim cs = [] ↔ Blank cs := by
  constructor
  · intro empty
    obtain ⟨front, back, before, behind, whole⟩ := exists_pad cs
    rw [whole, empty, List.append_nil]
    exact blank_append.mpr ⟨before, behind⟩
  · intro blank
    have none_ : trimStart cs = [] := List.dropWhile_eq_nil_iff.mpr blank
    rw [trim, none_]
    rfl

/-- Two texts that differ only in the blank characters around them. -/
def Repads (cs cs' : List Char) : Prop :=
  ∃ core front back front' back', (Blank front ∧ Blank back ∧ cs = front ++ core ++ back) ∧
    Blank front' ∧ Blank back' ∧ cs' = front' ++ core ++ back'

theorem repads_iff {cs' : List Char} : Repads cs cs' ↔ trim cs = trim cs' := by
  constructor
  · rintro ⟨core, front, back, front', back', ⟨before, behind, rfl⟩, before', behind', rfl⟩
    rw [trim_pad before core behind, trim_pad before' core behind']
  · intro same
    obtain ⟨front, back, before, behind, whole⟩ := exists_pad cs
    obtain ⟨front', back', before', behind', whole'⟩ := exists_pad cs'
    rw [← same] at whole'
    exact ⟨trim cs, front, back, front', back', ⟨before, behind, whole⟩, before', behind', whole'⟩

end ReplicaPorts.Text
