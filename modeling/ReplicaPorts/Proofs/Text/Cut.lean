import Mathlib.Data.List.TakeWhile
import ReplicaPorts.Text.Cut

/-!
# Texts and their parts

A text is its segments with separators between them, and no segment holds a separator
(`segments_intercalate`, `not_mem_of_mem_segments`); texts without a separator are the segments of
the text that they make up (`segments_of_intercalate`). What is cut off at the first or behind the
last separator is told by the separators alone (`cut?_eq_some_iff`, `afterLast?_eq_some_iff`).

From the first place of a word on stands the longest end of a text that starts with the word
(`longest_of_from?`), and in front of it the word does not occur (`exists_front_of_from?`). A word
of which no end is a start cannot come about where two texts meet, so it first starts where it was
put (`from?_append`).
-/

set_option autoImplicit false

namespace ReplicaPorts.Text

variable {sep : Char}

/-! ## Segments -/

theorem segments_ne_nil (cs : List Char) : segments sep cs ≠ [] := by
  cases cs with
  | nil => simp [segments]
  | cons c cs =>
    unfold segments
    split
    · simp
    · split <;> simp

/-- A text is its segments with the separator between them. -/
theorem segments_intercalate (sep : Char) (cs : List Char) :
    [sep].intercalate (segments sep cs) = cs := by
  induction cs with
  | nil => rfl
  | cons c cs ih =>
    unfold segments
    cases parts : segments sep cs with
    | nil => exact absurd parts (segments_ne_nil cs)
    | cons part parts' =>
      rw [parts] at ih
      split
      · next same => rw [same, List.intercalate_cons_cons, ih]; rfl
      · -- the character goes to the front of the first segment
        cases parts' with
        | nil => simpa using ih
        | cons next parts' =>
          rw [List.intercalate_cons_cons] at ih ⊢
          simpa using ih

/-- No segment holds the separator. -/
theorem not_mem_of_mem_segments {cs part : List Char} (mem : part ∈ segments sep cs) :
    sep ∉ part := by
  induction cs generalizing part with
  | nil =>
    obtain rfl := List.mem_singleton.mp mem
    exact List.not_mem_nil
  | cons c cs ih =>
    unfold segments at mem
    split at mem
    · rcases List.mem_cons.mp mem with rfl | mem
      · exact List.not_mem_nil
      · exact ih mem
    · next other =>
      split at mem
      · next none_ => exact absurd none_ (segments_ne_nil cs)
      · next first parts split_ =>
        rw [split_] at ih
        rcases List.mem_cons.mp mem with rfl | mem
        · intro here
          rcases List.mem_cons.mp here with same | there
          · exact other same.symm
          · exact ih List.mem_cons_self there
        · exact ih (List.mem_cons_of_mem _ mem)

/-- The segments of two texts with a separator between them are those of both. -/
theorem segments_append (sep : Char) (before after : List Char) :
    segments sep (before ++ sep :: after) = segments sep before ++ segments sep after := by
  induction before with
  | nil => simp [segments]
  | cons c cs ih =>
    by_cases same : c = sep
    · simp [segments, same, ih]
    · cases parts : segments sep cs with
      | nil => exact absurd parts (segments_ne_nil cs)
      | cons part parts' =>
        rw [parts] at ih
        simp [segments, same, parts, ih]

/-- A text without the separator is one segment. -/
theorem segments_of_not_mem {cs : List Char} (h : sep ∉ cs) : segments sep cs = [cs] := by
  induction cs with
  | nil => rfl
  | cons c cs ih =>
    rw [List.mem_cons, not_or] at h
    simp [segments, Ne.symm h.1, ih h.2]

/-- Texts without the separator are the segments of the text that they make up. -/
theorem segments_of_intercalate {part : List Char} {parts : List (List Char)}
    (free : ∀ p ∈ part :: parts, sep ∉ p) :
    segments sep ([sep].intercalate (part :: parts)) = part :: parts := by
  induction parts generalizing part with
  | nil =>
    rw [List.intercalate_singleton]
    exact segments_of_not_mem (free part List.mem_cons_self)
  | cons next parts ih =>
    obtain ⟨first, rest⟩ := List.forall_mem_cons.mp free
    rw [List.intercalate_cons_cons, List.append_assoc, List.singleton_append, segments_append,
      segments_of_not_mem first, ih rest, List.singleton_append]

/-- What holds of the separator and in every segment holds in the whole text. -/
theorem forall_mem_of_segments {p : Char → Prop} (separates : p sep) {cs : List Char}
    (h : ∀ part ∈ segments sep cs, ∀ c ∈ part, p c) : ∀ c ∈ cs, p c := by
  induction cs with
  | nil => simp
  | cons c cs ih =>
    by_cases same : c = sep
    · simp only [segments, same, if_true, List.forall_mem_cons] at h
      exact List.forall_mem_cons.mpr ⟨same ▸ separates, ih h.2⟩
    · cases parts : segments sep cs with
      | nil => exact absurd parts (segments_ne_nil cs)
      | cons part parts' =>
        rw [parts] at ih
        simp only [segments, same, if_false, parts, List.forall_mem_cons] at h
        exact List.forall_mem_cons.mpr ⟨h.1.1, ih (List.forall_mem_cons.mpr ⟨h.1.2, h.2⟩)⟩

/-! ## The first and the last separator -/

/-- What follows the first separator is an end of the text. -/
theorem suffix_of_cut? {cs before after : List Char} (h : cut? sep cs = some (before, after)) :
    after <:+ cs := by
  induction cs generalizing before with
  | nil => cases h
  | cons c cs ih =>
    by_cases same : c = sep
    · simp only [cut?, same, if_true, Option.some.injEq, Prod.mk.injEq] at h
      obtain ⟨rfl, rfl⟩ := h
      exact List.suffix_cons c cs
    · simp only [cut?, same, if_false, Option.map_eq_some_iff, Prod.exists] at h
      obtain ⟨a, b, found, ends⟩ := h
      cases ends
      exact (ih found).trans (List.suffix_cons c cs)

/-- Text behind the first separator stays behind it. -/
theorem cut?_append {cs before after : List Char} (h : cut? sep cs = some (before, after))
    (rest : List Char) : cut? sep (cs ++ rest) = some (before, after ++ rest) := by
  induction cs generalizing before with
  | nil => cases h
  | cons c cs ih =>
    by_cases same : c = sep
    · simp only [cut?, same, if_true, Option.some.injEq, Prod.mk.injEq] at h
      obtain ⟨rfl, rfl⟩ := h
      simp [cut?, same]
    · simp only [cut?, same, if_false, Option.map_eq_some_iff, Prod.exists] at h
      obtain ⟨a, b, found, ends⟩ := h
      cases ends
      simp [cut?, same, ih found]

/-- Text without a separator stands before the first one. -/
theorem cut?_of_not_mem {before : List Char} (h : sep ∉ before) (after : List Char) :
    cut? sep (before ++ sep :: after) = some (before, after) := by
  induction before with
  | nil => simp [cut?]
  | cons c cs ih =>
    rw [List.mem_cons, not_or] at h
    simp [cut?, Ne.symm h.1, ih h.2]

/-- A text is cut at the first separator in it. -/
theorem cut?_eq_some_iff {cs before after : List Char} :
    cut? sep cs = some (before, after) ↔ cs = before ++ sep :: after ∧ sep ∉ before := by
  constructor
  · intro h
    induction cs generalizing before with
    | nil => cases h
    | cons c cs ih =>
      by_cases same : c = sep
      · simp only [cut?, same, if_true, Option.some.injEq, Prod.mk.injEq] at h
        obtain ⟨rfl, rfl⟩ := h
        exact ⟨congrArg (· :: cs) same, List.not_mem_nil⟩
      · simp only [cut?, same, if_false, Option.map_eq_some_iff, Prod.exists] at h
        obtain ⟨a, b, found, ends⟩ := h
        cases ends
        obtain ⟨rfl, free⟩ := ih found
        exact ⟨rfl, by simp [free, Ne.symm same]⟩
  · rintro ⟨rfl, free⟩
    exact cut?_of_not_mem free after

theorem cut?_eq_none_iff {cs : List Char} : cut? sep cs = none ↔ sep ∉ cs := by
  induction cs with
  | nil => simp [cut?]
  | cons c cs ih =>
    by_cases same : c = sep
    · simp [cut?, same]
    · simp [cut?, same, Ne.symm same, ih]
theorem afterLast_append {before after : List Char} (h : sep ∉ after) :
    afterLast sep (before ++ sep :: after) = after := by
  have free : ∀ c ∈ after.reverse, (decide (c ≠ sep)) = true := by
    intro c mem
    have mem := List.mem_reverse.mp mem
    exact decide_eq_true fun same => h (same ▸ mem)
  rw [afterLast, List.reverse_append, List.reverse_cons, List.append_assoc,
    List.takeWhile_append_of_pos free]
  simp

/-- What follows the last separator is free of separators. -/
theorem afterLast?_eq_some_iff {cs after : List Char} :
    afterLast? sep cs = some after ↔ ∃ before, cs = before ++ sep :: after ∧ sep ∉ after := by
  constructor
  · intro h
    unfold afterLast? at h
    split at h
    · next mem =>
      obtain ⟨tail, head, parts, free⟩ := List.eq_append_cons_of_mem (List.mem_reverse.mpr mem)
      have whole : cs = head.reverse ++ sep :: tail.reverse := by
        rw [← List.reverse_reverse cs, parts]
        simp
      have free : sep ∉ tail.reverse := fun mem => free (List.mem_reverse.mp mem)
      obtain rfl : tail.reverse = after := by
        have last : afterLast sep cs = tail.reverse := by rw [whole, afterLast_append free]
        exact last.symm.trans (Option.some.inj h)
      exact ⟨head.reverse, whole, free⟩
    · cases h
  · rintro ⟨before, rfl, free⟩
    rw [afterLast?, if_pos (by simp)]
    exact congrArg some (afterLast_append free)

/-! ## Words -/

variable {word cs front rest : List Char}

/-- A word is taken off the front of a text that starts with it, and of no other. -/
theorem after?_eq_some_iff : after? word cs = some rest ↔ cs = word ++ rest := by
  induction word generalizing cs with
  | nil => exact Option.some_inj
  | cons w ws ih =>
    cases cs with
    | nil => simp [after?]
    | cons c cs =>
      by_cases same : w = c
      · simp [after?, same, ih]
      · simp [after?, same, Ne.symm same]

theorem from?_of_starts (starts : word <+: cs) : from? word cs = some cs := by
  cases cs with
  | nil =>
    obtain rfl := List.prefix_nil.mp starts
    rfl
  | cons c cs => rw [from?, if_pos (List.isPrefixOf_iff_prefix.mpr starts)]

theorem from?_cons {c : Char} (later : ¬ word <+: c :: cs) :
    from? word (c :: cs) = from? word cs := by
  rw [from?, if_neg fun starts => later (List.isPrefixOf_iff_prefix.mp starts)]

/-- There is no first place exactly where the word does not occur. -/
theorem from?_eq_none_iff : from? word cs = none ↔ ¬ word <:+: cs := by
  induction cs with
  | nil => simp [from?]
  | cons c cs ih =>
    rw [List.infix_cons_iff, not_or]
    by_cases starts : word <+: c :: cs
    · simp [from?_of_starts starts, starts]
    · rw [from?_cons starts, ih]
      exact ⟨fun later => ⟨starts, later⟩, And.right⟩

/-- From the first place of a word on stands the longest end of a text that starts with it: any
other is an end of that one. -/
theorem longest_of_from? (h : from? word cs = some rest) :
    rest <:+ cs ∧ word <+: rest ∧ ∀ other, other <:+ cs → word <+: other → other <:+ rest := by
  induction cs with
  | nil =>
    rw [from?, Option.ite_none_right_eq_some] at h
    obtain ⟨rfl, same⟩ := h
    cases same
    exact ⟨List.suffix_rfl, List.prefix_rfl, fun _ ends _ => ends⟩
  | cons c cs ih =>
    by_cases starts : word <+: c :: cs
    · rw [from?_of_starts starts, Option.some.injEq] at h
      subst h
      exact ⟨List.suffix_rfl, starts, fun _ ends _ => ends⟩
    · rw [from?_cons starts] at h
      obtain ⟨ends, here, longest⟩ := ih h
      refine ⟨ends.trans (List.suffix_cons c cs), here, fun other ends_ starts_ => ?_⟩
      obtain rfl | within := List.suffix_cons_iff.mp ends_
      · exact absurd starts_ starts
      · exact longest other within starts_

/-- In front of the first place of a word, the word does not occur. -/
theorem exists_front_of_from? (filled : word ≠ []) (h : from? word cs = some rest) :
    ∃ front, cs = front ++ rest ∧ ¬ word <:+: front := by
  obtain ⟨⟨front, rfl⟩, -, longest⟩ := longest_of_from? h
  refine ⟨front, rfl, ?_⟩
  rintro ⟨before, after, rfl⟩
  -- from an earlier place on there would be a longer end
  have ends : word ++ (after ++ rest) <:+ before ++ word ++ after ++ rest := ⟨before, by simp⟩
  have short := (longest _ ends (List.prefix_append _ _)).length_le
  have := List.length_pos_iff.mpr filled
  simp only [List.length_append] at short
  omega

/-- A word of which no end is a start first starts where it was put, if it does not occur in front
of that place. -/
theorem from?_append (bare : ∀ n, 0 < n → n < word.length → ¬ word.drop n <+: word)
    (absent : ¬ word <:+: front) (starts : word <+: rest) :
    from? word (front ++ rest) = some rest := by
  induction front with
  | nil => exact from?_of_starts starts
  | cons c front ih =>
    rw [List.infix_cons_iff, not_or] at absent
    rw [List.cons_append, from?_cons, ih absent.2]
    intro here
    obtain inside | ⟨tail, rfl⟩ :=
      List.prefix_or_prefix_of_prefix here (List.prefix_append (c :: front) rest)
    · exact absent.1 inside
    · -- the word would start in front and go on behind, so an end of it would be a start of it
      have behind : tail <+: rest := (List.prefix_append_right_inj (c :: front)).mp here
      have start : tail <+: c :: front ++ tail :=
        List.prefix_of_prefix_length_le behind starts (List.suffix_append _ _).length_le
      have filled : tail ≠ [] := by
        rintro rfl
        exact absent.1 (by simp)
      refine bare (c :: front).length (by simp) ?_ (by rwa [List.drop_left])
      have := List.length_pos_iff.mpr filled
      rw [List.length_append]
      omega

end ReplicaPorts.Text
