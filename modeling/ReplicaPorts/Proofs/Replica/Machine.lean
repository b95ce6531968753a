import ReplicaPorts.Pass.Nodes
import ReplicaPorts.Proofs.Compute.Path
import ReplicaPorts.Proofs.Text.Decimal

/-!
# The machines that nodes tell

A node tells its machine by a provider ID: a scheme, `://`, and the project, the zone and the name
of the machine with slashes between them (`IsIdOf`). The signs behind a scheme cannot stand in it,
so its end is told by the first of them (`afterScheme?_eq_some_iff`), and parts without slashes are
told by the path that they make up (`Machine.Proper.path_injective`). `machineOf_by_grammar` says
what is read of a value, what two values tell of their machines, and what is reported of any other
value.
-/

set_option autoImplicit false

namespace ReplicaPorts

open Compute Compute.Path

namespace Replica

/-! ## Schemes -/

def IsSmallLetter (c : Char) : Prop := 'a' ≤ c ∧ c ≤ 'z'

instance (c : Char) : Decidable (IsSmallLetter c) := inferInstanceAs (Decidable (_ ∧ _))

/-- A character of a scheme: a small letter, a digit, or one of three signs. -/
def IsSchemeChar (c : Char) : Prop := IsSmallLetter c ∨ Text.IsDigit c ∨ c ∈ ['+', '.', '-']

instance (c : Char) : Decidable (IsSchemeChar c) := inferInstanceAs (Decidable (_ ∨ _ ∨ _))

/-- A scheme: a small letter with characters of schemes behind it. -/
inductive IsScheme : List Char → Prop
  | letter {c : Char} {cs : List Char} (first : IsSmallLetter c) (more : ∀ d ∈ cs, IsSchemeChar d) :
      IsScheme (c :: cs)

-- what is looked at is the characters of the list, and not all characters that there are
instance : (cs : List Char) → Decidable (IsScheme cs)
  | [] => isFalse nofun
  | c :: cs =>
    have : Decidable (∀ d ∈ cs, IsSchemeChar d) := List.decidableBAll _ cs
    decidable_of_iff (IsSmallLetter c ∧ ∀ d ∈ cs, IsSchemeChar d)
      ⟨fun h => .letter h.1 h.2, fun | .letter first more => ⟨first, more⟩⟩

theorem isLower_iff {c : Char} : c.isLower = true ↔ IsSmallLetter c := by
  have limits : c.isLower = (decide ('a' ≤ c) && decide (c ≤ 'z')) := rfl
  rw [limits, Bool.and_eq_true, decide_eq_true_iff, decide_eq_true_iff]
  exact Iff.rfl

theorem inScheme_iff {c : Char} : inScheme c = true ↔ IsSchemeChar c := by
  have digit : c.isDigit = true ↔ Text.IsDigit c := by
    rw [Char.isDigit, Bool.and_eq_true, decide_eq_true_iff, decide_eq_true_iff]
    exact Iff.rfl
  simp [inScheme, IsSchemeChar, isLower_iff, digit, or_assoc]

theorem IsScheme.all {cs : List Char} (h : IsScheme cs) : ∀ c ∈ cs, inScheme c = true := by
  obtain ⟨first, more⟩ := h
  exact List.forall_mem_cons.mpr
    ⟨inScheme_iff.mpr (.inl first), fun d mem => inScheme_iff.mpr (more d mem)⟩

theorem isScheme_takeWhile {c : Char} (first : c.isLower = true) (cs : List Char) :
    IsScheme ((c :: cs).takeWhile inScheme) := by
  rw [List.takeWhile_cons_of_pos (inScheme_iff.mpr (.inl (isLower_iff.mp first)))]
  exact .letter (isLower_iff.mp first) fun d mem => inScheme_iff.mp (List.mem_takeWhile_imp mem)

/-- No sign of `://` is a character of a scheme before it, so the scheme ends where they start. -/
theorem afterScheme?_eq_some_iff {cs rest : List Char} :
    afterScheme? cs = some rest ↔
      ∃ scheme, IsScheme scheme ∧ cs = scheme ++ ([':', '/', '/'] ++ rest) := by
  constructor
  · intro h
    unfold afterScheme? at h
    split at h
    · cases h
    · next c cs =>
      obtain ⟨first, behind⟩ := Option.ite_none_right_eq_some.mp h
      refine ⟨_, isScheme_takeWhile first cs, ?_⟩
      rw [← Text.after?_eq_some_iff.mp behind, List.takeWhile_append_dropWhile]
  · rintro ⟨scheme, isScheme, rfl⟩
    have ends : (scheme ++ ([':', '/', '/'] ++ rest)).dropWhile inScheme =
        [':', '/', '/'] ++ rest := by
      rw [List.dropWhile_append_of_pos isScheme.all]
      exact List.dropWhile_cons_of_neg (by decide)
    obtain ⟨first, more⟩ := isScheme
    rw [List.cons_append] at ends ⊢
    rw [afterScheme?, if_pos (isLower_iff.mpr first), ends]
    exact Text.after?_eq_some_iff.mpr rfl

/-! ## Provider IDs -/

/-- What a machine is known by. -/
structure Machine where
  project : String
  zone : String
  name : String

namespace Machine

def path (m : Machine) : String := Path.machine m.project m.zone m.name

/-- None of the parts is empty, and none holds a slash. -/
structure Proper (m : Machine) : Prop where
  project : Part m.project
  zone : Part m.zone
  name : Part m.name

def parts (m : Machine) : List (List Char) := [m.project.toList, m.zone.toList, m.name.toList]

variable {m m' : Machine}

theorem Proper.isMachine (h : m.Proper) : IsMachine m.path :=
  ⟨m.project, m.zone, m.name, h.project, h.zone, h.name, rfl⟩

theorem Proper.segments_parts (h : m.Proper) :
    Text.segments '/' (['/'].intercalate m.parts) = m.parts := by
  refine Text.segments_of_intercalate ?_
  simp [h.project.slashless, h.zone.slashless, h.name.slashless]

theorem Proper.segments_path (h : m.Proper) : Text.segments '/' m.path.toList =
    ["projects".toList, m.project.toList, "zones".toList, m.zone.toList, "instances".toList,
      m.name.toList] := by
  have spelled : m.path.toList = ['/'].intercalate
      ["projects".toList, m.project.toList, "zones".toList, m.zone.toList, "instances".toList,
        m.name.toList] := by
    simp [path, Path.machine, show ∀ s : String, toString s = s from fun _ => rfl]
  rw [spelled]
  refine Text.segments_of_intercalate ?_
  simp [h.project.slashless, h.zone.slashless, h.name.slashless]

/-- The path of a machine tells its parts. -/
theorem Proper.path_injective (h : m.Proper) (h' : m'.Proper) (same : m.path = m'.path) :
    m = m' := by
  have segments := h.segments_path
  rw [same, h'.segments_path] at segments
  obtain ⟨project, zone, name⟩ := m
  simp only [List.cons.injEq, String.toList_inj, true_and, and_true] at segments
  obtain ⟨rfl, rfl, rfl⟩ := segments
  rfl

end Machine

/-- A provider ID of a machine: a scheme, `://`, and the parts of the machine with slashes between
them. -/
inductive IsIdOf (m : Machine) : String → Prop
  | id {scheme : String} (schemed : IsScheme scheme.toList) (proper : m.Proper) :
      IsIdOf m (scheme ++ "://" ++ m.project ++ "/" ++ m.zone ++ "/" ++ m.name)

variable {m : Machine} {value path : String}

theorem IsIdOf.proper (h : IsIdOf m value) : m.Proper := by
  cases h
  assumption

theorem toList_id (scheme : String) (m : Machine) :
    (scheme ++ "://" ++ m.project ++ "/" ++ m.zone ++ "/" ++ m.name).toList =
      scheme.toList ++ ([':', '/', '/'] ++ ['/'].intercalate m.parts) := by
  simp [Machine.parts]

theorem isIdOf_of_machinePath? (h : machinePath? value = some path) :
    ∃ m, IsIdOf m value ∧ path = m.path := by
  unfold machinePath? at h
  split at h
  · next project zone name cut =>
    obtain ⟨rest, behind, parts⟩ := Option.map_eq_some_iff.mp cut
    obtain ⟨scheme, schemed, whole⟩ := afterScheme?_eq_some_iff.mp behind
    have proper : ∀ part ∈ Text.segments '/' rest, part ≠ [] → Part (.ofList part) :=
      part_of_segment
    rw [parts] at proper
    obtain ⟨filled, same⟩ := Option.ite_none_left_eq_some.mp h
    simp only [not_or] at filled
    obtain ⟨given, placed, named⟩ := filled
    let m : Machine := ⟨.ofList project, .ofList zone, .ofList name⟩
    have spelled : value = .ofList scheme ++ "://" ++ m.project ++ "/" ++ m.zone ++ "/" ++
        m.name := by
      rw [← String.toList_inj, toList_id, whole, ← Text.segments_intercalate '/' rest, parts]
      simp only [m, Machine.parts, String.toList_ofList]
    rw [spelled]
    exact ⟨m, .id (by rwa [String.toList_ofList]) ⟨proper project (by simp) given,
      proper zone (by simp) placed, proper name (by simp) named⟩, (Option.some.inj same).symm⟩
  · cases h

theorem IsIdOf.machinePath? (h : IsIdOf m value) : machinePath? value = some m.path := by
  obtain ⟨schemed, proper⟩ := h
  rw [Replica.machinePath?, toList_id, afterScheme?_eq_some_iff.mpr ⟨_, schemed, rfl⟩,
    Option.map_some, proper.segments_parts]
  simp [Machine.parts, Machine.path, proper.project.nonempty, proper.zone.nonempty,
    proper.name.nonempty]

/-- The provider IDs of a machine lead to its path, and nothing else does. -/
theorem machinePath?_eq_some_iff :
    machinePath? value = some path ↔ ∃ m, IsIdOf m value ∧ path = m.path := by
  refine ⟨isIdOf_of_machinePath?, ?_⟩
  rintro ⟨m, isId, rfl⟩
  exact isId.machinePath?

theorem machinePath?_eq_none_iff : machinePath? value = none ↔ ∀ m, ¬ IsIdOf m value := by
  rw [Option.eq_none_iff_forall_ne_some]
  constructor
  · exact fun none_ m isId => none_ _ isId.machinePath?
  · intro none_ path told
    obtain ⟨m, isId, -⟩ := isIdOf_of_machinePath? told
    exact none_ m isId

theorem not_isIdOf_empty : ¬ IsIdOf m "" :=
  machinePath?_eq_none_iff.mp rfl m

theorem isMachine_of_machinePath? (h : machinePath? value = some path) : IsMachine path := by
  obtain ⟨m, isId, rfl⟩ := machinePath?_eq_some_iff.mp h
  exact isId.proper.isMachine

end Replica

namespace Pass

open Replica (Machine IsIdOf machinePath?)

variable {node path value : String} {given : Option String} {m : Machine} {e : Error}

theorem machineOf_eq_ok_iff :
    machineOf node given = .ok path ↔ machinePath? (given.getD "") = some path := by
  cases told : machinePath? (given.getD "") <;> simp [machineOf, told]

theorem machineOf_eq_error_iff :
    machineOf node given = .error e ↔
      machinePath? (given.getD "") = none ∧ e = .providerId node (given.getD "") := by
  cases told : machinePath? (given.getD "") <;> simp [machineOf, told, eq_comm]

theorem machineOf_of_isIdOf (h : IsIdOf m value) : machineOf node (some value) = .ok m.path :=
  machineOf_eq_ok_iff.mpr h.machinePath?

/-- A node tells its machine by the provider IDs of it and by no other value. The provider IDs of
two machines are never read as the same path, and nothing is cut off a path that is read. A value
that is no provider ID is reported with the node, as it is, and a missing one as an empty one. -/
theorem machineOf_by_grammar :
    (∀ node value path, machineOf node (some value) = .ok path ↔
      ∃ m, IsIdOf m value ∧ path = m.path) ∧
    (∀ node node' value value' m m', IsIdOf m value → IsIdOf m' value' →
      (machineOf node (some value) = machineOf node' (some value') ↔ m = m')) ∧
    (∀ node given path, machineOf node given = .ok path → relative path = path) ∧
    ∀ node given e, machineOf node given = .error e ↔
      (∀ value ∈ given, ∀ m, ¬ IsIdOf m value) ∧ e = .providerId node (given.getD "") := by
  refine ⟨fun node value path => ?_, fun node node' value value' m m' isId isId' => ?_,
    fun node given path told => ?_, fun node given e => ?_⟩
  · exact machineOf_eq_ok_iff.trans Replica.machinePath?_eq_some_iff
  · rw [machineOf_of_isIdOf isId, machineOf_of_isIdOf isId', Except.ok.injEq]
    exact ⟨isId.proper.path_injective isId'.proper, congrArg Machine.path⟩
  · have machine := Replica.isMachine_of_machinePath? (machineOf_eq_ok_iff.mp told)
    exact relative_of_starts machine.starts
  · rw [machineOf_eq_error_iff, Replica.machinePath?_eq_none_iff]
    cases given with
    | some value => simp
    | none => simp [Replica.not_isIdOf_empty]

end Pass

end ReplicaPorts

namespace ReplicaPorts.Small

open Compute Pass Replica

/-- A machine of the small project. -/
def machine : Machine := ⟨"p", "z", "n0"⟩

theorem isIdOf_machine {scheme : String} (schemed : IsScheme scheme.toList) :
    IsIdOf machine (scheme ++ "://p/z/n0") := by
  have proper : machine.Proper := ⟨⟨by decide, by decide⟩, ⟨by decide, by decide⟩,
    ⟨by decide, by decide⟩⟩
  have parts : "://p/z/n0" =
      "://" ++ (machine.project ++ ("/" ++ (machine.zone ++ ("/" ++ machine.name)))) := by decide
  have isId := IsIdOf.id schemed proper
  simp only [String.append_assoc] at isId
  rwa [parts]

/-- Two provider IDs of one machine are read as its path. A value with an empty part is reported as
it is. -/
theorem small_machineOf_by_grammar :
    machineOf "n0" (some "gce://p/z/n0") = .ok "projects/p/zones/z/instances/n0" ∧
    machineOf "n0" (some "gce://p/z/n0") = machineOf "n1" (some "a+1.-://p/z/n0") ∧
    Path.relative "projects/p/zones/z/instances/n0" = "projects/p/zones/z/instances/n0" ∧
    machineOf "n0" (some "aws:///z/n0") = .error (.providerId "n0" "aws:///z/n0") := by
  have short : IsScheme "gce".toList := by decide
  have odd : IsScheme "a+1.-".toList := by decide
  have first : IsIdOf machine "gce://p/z/n0" := isIdOf_machine short
  have second : IsIdOf machine "a+1.-://p/z/n0" := isIdOf_machine odd
  obtain ⟨read, same, whole, refused⟩ := machineOf_by_grammar
  have told := (read "n0" _ _).mpr ⟨machine, first, rfl⟩
  refine ⟨told, (same _ _ _ _ _ _ first second).mpr rfl, whole _ _ _ told,
    (refused _ _ _).mpr ⟨?_, rfl⟩⟩
  rintro value ⟨⟩
  exact machinePath?_eq_none_iff.mp (by decide +kernel)

end ReplicaPorts.Small
