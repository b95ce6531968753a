import ReplicaPorts.Compute.Scope
import ReplicaPorts.Proofs.Compute.Path

/-!
# What a scope holds

What a scope holds for a network or a subnetwork is told by the value given for it alone: the path
at the end of the value, or the path of the resource with the value for its name (`StandsFor`). So a
scope holds paths, however they are given, and a scope of the paths that a scope holds has the same
paths (`paths_by_projection`). Its endpoint ends in no slash.
-/

set_option autoImplicit false

namespace ReplicaPorts

theorem Text.getLast?_dropTrailing (c : Char) (s : String) :
    (Text.dropTrailing c s).toList.getLast? ≠ some c := by
  intro last
  rw [Text.dropTrailing, String.toList_ofList, List.getLast?_reverse] at last
  have left := List.head?_dropWhile_not (fun d => decide (d = c)) s.toList.reverse
  rw [last] at left
  simp at left

namespace Compute

theorem Path.starts_network (project name : String) :
    Path.root <+: (Path.network project name).toList := by
  simp only [Path.network, toString, String.toList_append, List.append_assoc]
  exact List.prefix_append _ _

theorem Path.starts_subnetwork (project region name : String) :
    Path.root <+: (Path.subnetwork project region name).toList := by
  simp only [Path.subnetwork, toString, String.toList_append, List.append_assoc]
  exact List.prefix_append _ _

namespace Scope

/-! ## The endpoint -/

theorem getLast?_defaultEndpoint : defaultEndpoint.toList.getLast? ≠ some '/' := by decide +kernel

/-- A scope at an endpoint differs from the scope only in where it is, which ends in no slash. -/
theorem atEndpoint_eq (s : Scope) (endpoint : Option String)
    (plain : s.endpoint.toList.getLast? ≠ some '/') :
    ∃ e, s.atEndpoint endpoint = { s with endpoint := e } ∧ e.toList.getLast? ≠ some '/' := by
  cases endpoint with
  | none => exact ⟨s.endpoint, rfl, plain⟩
  | some e => exact ⟨Text.dropTrailing '/' e, rfl, Text.getLast?_dropTrailing '/' e⟩

/-! ## The network and the subnetwork -/

/-- The path that a value stands for, if `named` is the path of the resource of that name. -/
inductive StandsFor (value named : String) : String → Prop
  /-- The value is the path behind a text in which no path starts, such as the front of a URL. -/
  | path {front path : String} (whole : value = front ++ path)
      (pathless : ¬ Path.root <:+: front.toList) (starts : Path.root <+: path.toList) :
      StandsFor value named path
  /-- The value is a name, in which no path starts. -/
  | name (pathless : ¬ Path.root <:+: value.toList) : StandsFor value named named

section

variable {value named path : String}

theorem StandsFor.starts (paths : Path.root <+: named.toList) (h : StandsFor value named path) :
    Path.root <+: path.toList := by
  cases h with
  | path _ _ starts => exact starts
  | name _ => exact paths

/-- A path stands for itself: with nothing in front of it. -/
theorem standsFor_self (starts : Path.root <+: path.toList) : StandsFor path named path :=
  .path String.empty_append.symm (by decide) starts

/-- A value is cut to its path, or taken for a name, as what it stands for says. -/
theorem ite_relative_eq_iff :
    (if Path.occursIn value then Path.relative value else named) = path ↔
      StandsFor value named path := by
  constructor
  · rintro rfl
    split
    · next occurs =>
      obtain ⟨front, whole, pathless, starts⟩ := Path.exists_front (Path.occursIn_iff.mp occurs)
      exact .path whole pathless starts
    · next absent => exact .name (mt Path.occursIn_iff.mpr absent)
  · intro stands
    cases stands with
    | @path front _ whole pathless starts =>
      have occurs : Path.root <:+: value.toList := by
        rw [whole, String.toList_append]
        exact starts.isInfix.trans (List.suffix_append _ _).isInfix
      rw [if_pos (Path.occursIn_iff.mpr occurs), whole, Path.relative_append pathless starts]
    | name pathless => exact if_neg (mt Path.occursIn_iff.mp pathless)

end

theorem networkPath_eq_iff {project network path : String} :
    networkPath project network = path ↔ StandsFor network (Path.network project network) path :=
  ite_relative_eq_iff

theorem subnetworkPath_eq_iff {project region subnetwork path : String} :
    subnetworkPath project region subnetwork = path ↔
      StandsFor subnetwork (Path.subnetwork project region subnetwork) path :=
  ite_relative_eq_iff

theorem starts_networkPath (project network : String) :
    Path.root <+: (networkPath project network).toList :=
  (networkPath_eq_iff.mp rfl).starts (Path.starts_network project network)

theorem starts_subnetworkPath (project region subnetwork : String) :
    Path.root <+: (subnetworkPath project region subnetwork).toList :=
  (subnetworkPath_eq_iff.mp rfl).starts (Path.starts_subnetwork project region subnetwork)

/-- A scope holds what the values given for its network and its subnetwork stand for: a path behind
a text in which no path starts stands for that path, and any other value is a name, which ends the
path in the project and the region. Both are paths, and a scope of them at any place holds them as
they are. A value is cut to the longest of its ends that is a path, or stays whole where there is
none, and is not cut further. -/
theorem paths_by_projection (project region network subnetwork : String) :
    let s := of project region network subnetwork
    (∀ path, s.network = path ↔
      StandsFor network s!"projects/{project}/global/networks/{network}" path) ∧
    (∀ path, s.subnetwork = path ↔
      StandsFor subnetwork s!"projects/{project}/regions/{region}/subnetworks/{subnetwork}" path) ∧
    (Path.root <+: s.network.toList ∧ Path.root <+: s.subnetwork.toList) ∧
    (∀ project' region',
      of project' region' s.network s.subnetwork = { s with place := ⟨project', region'⟩ }) ∧
    ∀ value, (∀ path, Path.relative value = path ↔ Path.CutsTo value path) ∧
      Path.relative (Path.relative value) = Path.relative value := by
  intro s
  have network_ := starts_networkPath project network
  have subnetwork_ := starts_subnetworkPath project region subnetwork
  refine ⟨fun path => networkPath_eq_iff, fun path => subnetworkPath_eq_iff,
    ⟨network_, subnetwork_⟩, fun project' region' => ?_, fun value =>
    ⟨fun path => Path.relative_eq_iff, Path.relative_relative value⟩⟩
  have keeps : networkPath project' s.network = s.network :=
    networkPath_eq_iff.mpr (standsFor_self network_)
  have keeps' : subnetworkPath project' region' s.subnetwork = s.subnetwork :=
    subnetworkPath_eq_iff.mpr (standsFor_self subnetwork_)
  rw [of, keeps, keeps']
  rfl

end Scope

end Compute

end ReplicaPorts

namespace ReplicaPorts.Small

open Compute

/-- A URL in which the first segment of a path is begun twice before a path starts, and another
path starts further on. -/
def networkUrl : String := "https://h/projects-v1/projectprojects/host/projects/net"

/-- A URL is cut to the path at its end and a name is placed. Both stay as they are at another
place. -/
theorem small_paths_by_projection :
    (Scope.of "lab" "north" networkUrl "sub").network = "projects/host/projects/net" ∧
    (Scope.of "lab" "north" networkUrl "sub").subnetwork =
      "projects/lab/regions/north/subnetworks/sub" ∧
    Scope.of "p" "r" "projects/host/projects/net" "projects/lab/regions/north/subnetworks/sub" =
      { Scope.of "lab" "north" networkUrl "sub" with place := ⟨"p", "r"⟩ } ∧
    Path.relative (Path.relative networkUrl) = Path.relative networkUrl := by
  obtain ⟨network, subnetwork, -, keeps, cut⟩ :=
    Scope.paths_by_projection "lab" "north" networkUrl "sub"
  have whole : networkUrl = "https://h/projects-v1/project" ++ "projects/host/projects/net" := by
    decide
  have cutOff := (network _).mpr (.path whole (by decide +kernel) (by decide +kernel))
  have placed := (subnetwork _).mpr (.name (by decide +kernel))
  refine ⟨cutOff, placed, ?_, (cut networkUrl).2⟩
  have again := keeps "p" "r"
  rw [cutOff, placed] at again
  exact again

end ReplicaPorts.Small
