import ReplicaPorts.Compute.Simulator
import ReplicaPorts.Proofs.Compute.Path

/-!
# What is stored

The view `find?` of a store and what each change does to it: `put` is what creating a resource
leaves, `drop` what deleting one leaves. A store is determined by its view and by the endpoints of
its groups (`ext_find?`). `Paired` holds of the stores that calls lead to: the groups and the lists
of endpoints go by the same names.
-/

set_option autoImplicit false

namespace ReplicaPorts.Compute.Store

variable {s t : Store} {kind kind' : Kind} {name name' : String} {design : Design}

/-- The resource of a kind under a name. -/
def find? (s : Store) (kind : Kind) (name : String) : Option kind.Model :=
  (s.resources kind).get? name

theorem has_eq : s.has kind name = (s.find? kind name).isSome := rfl

@[simp] theorem resources_withResources_self (m : Keyed String kind.Model) :
    (s.withResources kind m).resources kind = m := by
  simp [withResources]

theorem resources_withResources_ne (m : Keyed String kind.Model) (h : kind' ≠ kind) :
    (s.withResources kind m).resources kind' = s.resources kind' := by
  simp [withResources, h]

@[simp] theorem endpoints_withResources (m : Keyed String kind.Model) :
    (s.withResources kind m).endpoints = s.endpoints := rfl

/-- What is found in a store, together with the endpoints, is all there is in it. -/
theorem ext_find? (found : ∀ kind name, s.find? kind name = t.find? kind name)
    (endpoints : ∀ group, s.endpoints.get? group = t.endpoints.get? group) : s = t := by
  obtain ⟨resources, attached⟩ := s
  obtain ⟨resources', attached'⟩ := t
  obtain rfl : resources = resources' := funext fun kind => Keyed.ext_get? (found kind)
  obtain rfl : attached = attached' := Keyed.ext_get? endpoints
  rfl

theorem find?_withResources_insert (m : kind.Model) :
    (s.withResources kind ((s.resources kind).insert name m)).find? kind name = some m := by
  simp [find?]

theorem find?_withResources_insert_ne (m : kind.Model) (h : kind' ≠ kind ∨ name' ≠ name) :
    (s.withResources kind ((s.resources kind).insert name m)).find? kind' name' =
      s.find? kind' name' := by
  unfold find?
  by_cases same : kind' = kind
  · subst same
    rw [resources_withResources_self]
    exact Keyed.get?_insert_ne _ _ (h.resolve_left fun ne => ne rfl)
  · rw [resources_withResources_ne _ same]

/-! ## Names and paths -/

/-- A path ends with the name of its resource. -/
theorem nameAt_resource (place : Location) (kind : Kind) {name : String}
    (h : '/' ∉ name.toList) : nameAt (Path.resource place kind name) = name := by
  have path : (Path.resource place kind name).toList =
      (Path.collection place kind).toList ++ '/' :: name.toList := by
    simp [Path.resource, show ∀ s : String, toString s = s from fun _ => rfl]
  rw [nameAt, path, Text.afterLast_append h, String.ofList_toList]

/-! ## Creating -/

/-- What creating a resource leaves. -/
def put (place : Location) (name : String) (design : Design) (s : Store) : Store :=
  let s' := s.withResources design.kind
    ((s.resources design.kind).insert name (modelOf place name design))
  match design with
  | .group => { s' with endpoints := s'.endpoints.insert name [] }
  | _ => s'

/-- A resource that is missing is created if what it refers to is there. -/
theorem create_eq_put {place : Location} (founded : s.dangling? design = none)
    (missing : s.find? design.kind name = none) :
    s.create place name design = (.ok (), s.put place name design) := by
  have free : s.has design.kind name = false := by rw [has_eq, missing]; rfl
  simp only [create, founded, free]
  cases design <;> rfl

/-- Creating a resource is refused and changes nothing, or it puts the resource, which was missing
and lacks nothing that it refers to. -/
theorem create_cases (s : Store) (place : Location) (name : String) (design : Design) :
    (∃ e, s.create place name design = (.error e, s)) ∨
      s.dangling? design = none ∧ s.find? design.kind name = none ∧
        s.create place name design = (.ok (), s.put place name design) := by
  cases founded : s.dangling? design with
  | some e => exact .inl ⟨e, by simp only [create, founded]⟩
  | none =>
    cases missing : s.find? design.kind name with
    | some m =>
      have taken : s.has design.kind name = true := by rw [has_eq, missing]; rfl
      refine .inl ⟨.alreadyExists s!"{design.kind.singular} {name}", ?_⟩
      simp only [create, founded, taken, if_true]
    | none => exact .inr ⟨rfl, rfl, create_eq_put founded missing⟩

@[simp] theorem find?_put_self (place : Location) :
    (s.put place name design).find? design.kind name = some (modelOf place name design) := by
  cases design <;> exact find?_withResources_insert _

theorem find?_put_ne {place : Location} (h : kind ≠ design.kind ∨ name' ≠ name) :
    (s.put place name design).find? kind name' = s.find? kind name' := by
  cases design <;> exact find?_withResources_insert_ne _ h

theorem endpoints_put {place : Location} {group : String} (h : design ≠ .group ∨ group ≠ name) :
    (s.put place name design).endpoints.get? group = s.endpoints.get? group := by
  cases design with
  | group => exact Keyed.get?_insert_ne _ _ (h.resolve_left fun ne => ne rfl)
  | _ => rfl

@[simp] theorem endpoints_put_group (place : Location) :
    (s.put place name .group).endpoints.get? name = some [] :=
  Keyed.get?_insert_self ..

/-! ## Deleting -/

/-- What deleting a resource leaves. -/
def drop (kind : Kind) (name : String) (s : Store) : Store :=
  let s' := s.withResources kind ((s.resources kind).erase name)
  if kind = .group then { s' with endpoints := s'.endpoints.erase name } else s'

theorem delete_eq_drop {place : Location} (unused : s.userOf? place kind name = none)
    (present : (s.find? kind name).isSome = true) :
    s.delete place kind name = (.ok (), s.drop kind name) := by
  have has_ : s.has kind name = true := present
  simp only [delete, unused, has_, drop]
  rfl

theorem delete_missing {place : Location} (unused : s.userOf? place kind name = none)
    (missing : s.find? kind name = none) :
    s.delete place kind name = (.error (absent kind name), s) := by
  have free : s.has kind name = false := by rw [has_eq, missing]; rfl
  simp only [delete, unused, free]
  rfl

/-- Deleting a resource is refused and changes nothing, or it drops the resource, which was there
and which nothing refers to. -/
theorem delete_cases (s : Store) (place : Location) (kind : Kind) (name : String) :
    (∃ e, s.delete place kind name = (.error e, s)) ∨
      s.userOf? place kind name = none ∧ (s.find? kind name).isSome = true ∧
        s.delete place kind name = (.ok (), s.drop kind name) := by
  cases unused : s.userOf? place kind name with
  | some user =>
    refine .inl ⟨.api 400 s!"{kind.singular} {name} is in use by {user}", ?_⟩
    simp only [delete, unused]
  | none =>
    cases found : s.find? kind name with
    | none => exact .inl ⟨_, delete_missing unused found⟩
    | some m => exact .inr ⟨rfl, rfl, delete_eq_drop unused (by rw [found]; rfl)⟩

@[simp] theorem find?_drop_self : (s.drop kind name).find? kind name = none := by
  unfold drop find?
  split <;> simp

theorem find?_drop_ne (h : kind' ≠ kind ∨ name' ≠ name) :
    (s.drop kind name).find? kind' name' = s.find? kind' name' := by
  have erased : (s.withResources kind ((s.resources kind).erase name)).find? kind' name' =
      s.find? kind' name' := by
    unfold find?
    by_cases same : kind' = kind
    · subst same
      rw [resources_withResources_self]
      exact Keyed.get?_erase_ne _ (h.resolve_left fun ne => ne rfl)
    · rw [resources_withResources_ne _ same]
  unfold drop
  split <;> exact erased

theorem endpoints_drop {group : String} (h : kind ≠ .group ∨ group ≠ name) :
    (s.drop kind name).endpoints.get? group = s.endpoints.get? group := by
  unfold drop
  split
  · next isGroup => exact Keyed.get?_erase_ne _ (h.resolve_left fun ne => ne isGroup)
  · rfl

@[simp] theorem endpoints_drop_group : (s.drop .group name).endpoints.get? name = none :=
  Keyed.get?_erase_self ..

/-! ## Groups and their endpoints -/

/-- The groups and the lists of endpoints go by the same names. -/
def Paired (s : Store) : Prop :=
  ∀ name, (s.endpoints.get? name).isSome = (s.find? .group name).isSome

theorem Paired.put {place : Location} (h : s.Paired) (design : Design) :
    (s.put place name design).Paired := by
  intro other
  by_cases new : design = .group ∧ other = name
  · obtain ⟨rfl, rfl⟩ := new
    rw [endpoints_put_group, show Kind.group = Design.group.kind from rfl, find?_put_self]
    rfl
  · have apart : design ≠ .group ∨ other ≠ name := Decidable.not_and_iff_not_or_not.mp new
    rw [endpoints_put apart, find?_put_ne, h other]
    refine apart.imp_left fun ne same => ne ?_
    cases design <;> first | rfl | cases same

theorem Paired.drop (h : s.Paired) : (s.drop kind name).Paired := by
  intro other
  by_cases gone : kind = .group ∧ other = name
  · obtain ⟨rfl, rfl⟩ := gone
    rw [endpoints_drop_group, find?_drop_self]
    rfl
  · have apart : kind ≠ .group ∨ other ≠ name := Decidable.not_and_iff_not_or_not.mp gone
    rw [endpoints_drop apart, find?_drop_ne (apart.imp_left Ne.symm), h other]

end ReplicaPorts.Compute.Store
