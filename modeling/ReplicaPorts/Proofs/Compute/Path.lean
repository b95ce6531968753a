import Mathlib.Data.List.Forall2
import ReplicaPorts.Compute.Path
import ReplicaPorts.Proofs.Text.Cut

/-!
# Paths of a form

A text has the form of a network or of a subnetwork exactly if it is the path of one
(`hasForm_networkForm_iff`, `hasForm_subnetworkForm_iff`), with parts that are not empty and hold no
slash. A value that holds a path is cut to it and to nothing else (`relative_eq_iff`), so what was
put in front of a path is cut off again (`relative_append`), of a path nothing is
(`relative_of_starts`), and of what is cut nothing more (`relative_relative`).
-/

set_option autoImplicit false

namespace ReplicaPorts

namespace Compute.Path

/-- A part of a path between two slashes, not empty. -/
structure Part (s : String) : Prop where
  nonempty : s ≠ ""
  slashless : '/' ∉ s.toList

/-- The path of a network. -/
def IsNetwork (path : String) : Prop :=
  ∃ project name, Part project ∧ Part name ∧ path = network project name

/-- The path of a subnetwork. -/
def IsSubnetwork (path : String) : Prop :=
  ∃ project region name, Part project ∧ Part region ∧ Part name ∧
    path = subnetwork project region name

/-- The path of a machine. -/
def IsMachine (path : String) : Prop :=
  ∃ project zone name, Part project ∧ Part zone ∧ Part name ∧ path = machine project zone name

theorem part_of_segment {cs : List Char} (part : List Char) (mem : part ∈ Text.segments '/' cs)
    (nonempty : part ≠ []) : Part (String.ofList part) where
  nonempty := by
    intro same
    exact nonempty (by simpa using congrArg String.toList same)
  slashless := by
    rw [String.toList_ofList]
    exact Text.not_mem_of_mem_segments mem

/-- The segments of a text that has a form. -/
theorem forall_admits_of_hasForm {form : List Segment} {value : String}
    (h : hasForm form value = true) :
    List.Forall₂ (fun part asked => Segment.admits part asked = true)
      (Text.segments '/' value.toList) form := by
  obtain ⟨length, all⟩ := Bool.and_eq_true_iff.mp h
  refine List.forall₂_iff_zip.mpr ⟨beq_iff_eq.mp length, fun {part asked} mem => ?_⟩
  exact List.all_eq_true.mp all (part, asked) mem

theorem eq_of_admits_word {part : List Char} {text : String}
    (h : Segment.admits part (.word text) = true) : part = text.toList :=
  beq_iff_eq.mp h

theorem ne_nil_of_admits_name {part : List Char} (h : Segment.admits part .name = true) :
    part ≠ [] := by
  intro empty
  subst empty
  cases h

/-- A text with the form of a network is the path of one. -/
theorem isNetwork_of_hasForm {value : String} (h : hasForm networkForm value = true) :
    IsNetwork value := by
  have whole := Text.segments_intercalate '/' value.toList
  have proper : ∀ part ∈ Text.segments '/' value.toList, part ≠ [] → Part (.ofList part) :=
    part_of_segment
  have parts := forall_admits_of_hasForm h
  generalize Text.segments '/' value.toList = segments at whole proper parts
  obtain _ | @⟨_, _, _, _, projects, _ | @⟨project, _, _, _, given, _ |
    @⟨_, _, _, _, global, _ | @⟨_, _, _, _, networks, _ | @⟨name, _, _, _, named, rest⟩⟩⟩⟩⟩ := parts
  cases rest
  obtain rfl := eq_of_admits_word projects
  obtain rfl := eq_of_admits_word global
  obtain rfl := eq_of_admits_word networks
  refine ⟨.ofList project, .ofList name, proper _ (by simp) (ne_nil_of_admits_name given),
    proper _ (by simp) (ne_nil_of_admits_name named), String.toList_inj.mp ?_⟩
  rw [← whole]
  simp [network, show ∀ s : String, toString s = s from fun _ => rfl]

/-- A text with the form of a subnetwork is the path of one. -/
theorem isSubnetwork_of_hasForm {value : String} (h : hasForm subnetworkForm value = true) :
    IsSubnetwork value := by
  have whole := Text.segments_intercalate '/' value.toList
  have proper : ∀ part ∈ Text.segments '/' value.toList, part ≠ [] → Part (.ofList part) :=
    part_of_segment
  have parts := forall_admits_of_hasForm h
  generalize Text.segments '/' value.toList = segments at whole proper parts
  obtain _ | @⟨_, _, _, _, projects, _ | @⟨project, _, _, _, given, _ |
    @⟨_, _, _, _, regions, _ | @⟨region, _, _, _, placed, _ |
    @⟨_, _, _, _, subnetworks, _ | @⟨name, _, _, _, named, rest⟩⟩⟩⟩⟩⟩ := parts
  cases rest
  obtain rfl := eq_of_admits_word projects
  obtain rfl := eq_of_admits_word regions
  obtain rfl := eq_of_admits_word subnetworks
  refine ⟨.ofList project, .ofList region, .ofList name,
    proper _ (by simp) (ne_nil_of_admits_name given),
    proper _ (by simp) (ne_nil_of_admits_name placed),
    proper _ (by simp) (ne_nil_of_admits_name named), String.toList_inj.mp ?_⟩
  rw [← whole]
  simp [subnetwork, show ∀ s : String, toString s = s from fun _ => rfl]

/-- A text has the form of a network exactly if it is the path of one. -/
theorem hasForm_networkForm_iff {value : String} :
    hasForm networkForm value = true ↔ IsNetwork value := by
  refine ⟨isNetwork_of_hasForm, ?_⟩
  rintro ⟨project, name, given, named, rfl⟩
  have spelled : (network project name).toList = ['/'].intercalate
      ["projects".toList, project.toList, "global".toList, "networks".toList, name.toList] := by
    simp [network, show ∀ s : String, toString s = s from fun _ => rfl]
  have free : ∀ part ∈ ["projects".toList, project.toList, "global".toList, "networks".toList,
      name.toList], '/' ∉ part := by
    simp [given.slashless, named.slashless]
  rw [hasForm, spelled, Text.segments_of_intercalate free]
  simp [networkForm, Segment.admits, given.nonempty, named.nonempty]

/-- A text has the form of a subnetwork exactly if it is the path of one. -/
theorem hasForm_subnetworkForm_iff {value : String} :
    hasForm subnetworkForm value = true ↔ IsSubnetwork value := by
  refine ⟨isSubnetwork_of_hasForm, ?_⟩
  rintro ⟨project, region, name, given, placed, named, rfl⟩
  have spelled : (subnetwork project region name).toList = ['/'].intercalate
      ["projects".toList, project.toList, "regions".toList, region.toList, "subnetworks".toList,
        name.toList] := by
    simp [subnetwork, show ∀ s : String, toString s = s from fun _ => rfl]
  have free : ∀ part ∈ ["projects".toList, project.toList, "regions".toList, region.toList,
      "subnetworks".toList, name.toList], '/' ∉ part := by
    simp [given.slashless, placed.slashless, named.slashless]
  rw [hasForm, spelled, Text.segments_of_intercalate free]
  simp [subnetworkForm, Segment.admits, given.nonempty, placed.nonempty, named.nonempty]

/-! ## Paths in values -/

/-- What a value is cut to: from the first place on where a path starts in it, it is cut to the
longest of its ends that starts like one; a value in which no path starts stays whole. -/
inductive CutsTo (value : String) : String → Prop
  | path {path : List Char} (ends : path <:+ value.toList) (starts : root <+: path)
      (longest : ∀ other, other <:+ value.toList → root <+: other → other <:+ path) :
      CutsTo value (.ofList path)
  | whole (pathless : ¬ root <:+: value.toList) : CutsTo value value

/-- A value is cut to one text only. -/
theorem CutsTo.unique {value path path' : String} (h : CutsTo value path)
    (h' : CutsTo value path') : path = path' := by
  cases h with
  | path ends starts longest =>
    cases h' with
    | path ends' starts' longest' =>
      have within := longest' _ ends starts
      have around := longest _ ends' starts'
      exact congrArg String.ofList (within.eq_of_length_le around.length_le)
    | whole pathless => exact absurd (starts.isInfix.trans ends.isInfix) pathless
  | whole pathless =>
    cases h' with
    | path ends starts => exact absurd (starts.isInfix.trans ends.isInfix) pathless
    | whole => rfl

theorem relative_cutsTo (value : String) : CutsTo value (relative value) := by
  unfold relative
  split
  · next path cut =>
    obtain ⟨ends, starts, longest⟩ := Text.longest_of_from? cut
    exact .path ends starts longest
  · next none_ => exact .whole (Text.from?_eq_none_iff.mp none_)

theorem relative_eq_iff {value path : String} : relative value = path ↔ CutsTo value path :=
  ⟨fun same => same ▸ relative_cutsTo value, (relative_cutsTo value).unique⟩

/-- No end of the first segment of a path is a start of it. -/
theorem bare_root : ∀ n, 0 < n → n < root.length → ¬ root.drop n <+: root := by
  have each : ∀ n < root.length, 0 < n → ¬ root.drop n <+: root := by decide
  exact fun n filled short => each n short filled

/-- What was put in front of a path is cut off, unless a path starts in it. -/
theorem relative_append {front path : String} (pathless : ¬ root <:+: front.toList)
    (starts : root <+: path.toList) : relative (front ++ path) = path := by
  rw [relative, String.toList_append, Text.from?_append bare_root pathless starts]
  exact String.ofList_toList

/-- Nothing is cut off a path. -/
theorem relative_of_starts {path : String} (starts : root <+: path.toList) :
    relative path = path := by
  rw [relative, Text.from?_of_starts starts]
  exact String.ofList_toList

/-- A value in which no path starts stays whole. -/
theorem relative_of_pathless {value : String} (pathless : ¬ root <:+: value.toList) :
    relative value = value :=
  relative_eq_iff.mpr (.whole pathless)

theorem occursIn_iff {value : String} : occursIn value = true ↔ root <:+: value.toList := by
  rw [occursIn, Option.isSome_iff_ne_none, Ne, Text.from?_eq_none_iff, not_not]

/-- A value in which a path starts is the path to which it is cut, with a text in front in which no
path starts. -/
theorem exists_front {value : String} (occurs : root <:+: value.toList) :
    ∃ front, value = front ++ relative value ∧ ¬ root <:+: front.toList ∧
      root <+: (relative value).toList := by
  cases cut : Text.from? root value.toList with
  | none => exact absurd occurs (Text.from?_eq_none_iff.mp cut)
  | some path =>
    obtain ⟨front, whole, pathless⟩ := Text.exists_front_of_from? (by decide) cut
    have same : relative value = .ofList path := by rw [relative, cut]
    rw [same, String.toList_ofList]
    refine ⟨.ofList front, String.toList_inj.mp ?_, ?_, (Text.longest_of_from? cut).2.1⟩
    · rw [whole, String.toList_append, String.toList_ofList, String.toList_ofList]
    · rwa [String.toList_ofList]

/-- Cutting twice is cutting once. -/
theorem relative_relative (value : String) : relative (relative value) = relative value := by
  by_cases occurs : root <:+: value.toList
  · obtain ⟨front, -, -, starts⟩ := exists_front occurs
    exact relative_of_starts starts
  · rw [relative_of_pathless occurs, relative_of_pathless occurs]

theorem IsMachine.starts {path : String} (h : IsMachine path) : root <+: path.toList := by
  obtain ⟨project, zone, name, -, -, -, rfl⟩ := h
  simp only [machine, toString, String.toList_append, List.append_assoc]
  exact List.prefix_append _ _

end Compute.Path

end ReplicaPorts
