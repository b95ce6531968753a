import ReplicaPorts.Proofs.Pass.Chain

/-!
# Calls about the resources of some names

A call `Touches` the resources of some names if it is about one of them and what it creates refers
to another one of them. `Effect` lists all that such a call may do to a store; so it changes nothing
under other names (`Effect.elsewhere`), and keeps a store `Orderly`, in which every resource is
named by a prefix and refers to resources of this prefix only.

What such a call does is decided by what there is under its names: two orderly stores that `Agree`
on them give the same answer and agree afterwards (`Agree.perform`). That holds for deletions too,
although they look through all resources for one that refers to theirs.
-/

set_option autoImplicit false

namespace ReplicaPorts

open Compute

/-! ## Names of different prefixes -/

theorem Compute.Path.resource_injective {place : Location} {kind : Kind} {name name' : String}
    (h : Path.resource place kind name = Path.resource place kind name') : name = name' := by
  have lists := congrArg String.toList h
  simp only [Path.resource, show ∀ s : String, toString s = s from fun _ => rfl,
    String.toList_append, List.append_cancel_left_eq] at lists
  exact String.toList_inj.mp lists

theorem Names.resource_injective {p q : String} (kind : Kind)
    (h : (Names.of p).resource kind = (Names.of q).resource kind) : p = q := by
  have lists := congrArg String.toList h
  cases kind <;>
    simp only [Names.resource, Names.of, show ∀ s : String, toString s = s from fun _ => rfl,
      String.toList_append, List.append_cancel_right_eq] at lists <;>
    exact String.toList_inj.mp lists

theorem Names.service_injective {p q : String} (h : (Names.of p).service = (Names.of q).service) :
    p = q := by
  have lists := congrArg String.toList h
  simp only [Names.of, show ∀ s : String, toString s = s from fun _ => rfl,
    String.toList_append, List.append_cancel_right_eq] at lists
  exact String.toList_inj.mp lists

namespace Pass

variable {place : Location} {names : Names} {namePrefix : String} {among : String → Prop}
  {s t : Store} {c : Call}

/-! ## What a call may do -/

/-- What a design refers to is of some names. -/
def Refers (place : Location) (names : Names) : Design → Prop
  | .backend group => group = names.group
  | .rule backend _ _ => backend = names.backend
  | .attachment path _ _ => path = Path.resource place .rule names.rule
  | .firewall _ | .group => True

/-- A call is about a resource of some names. -/
inductive Touches (place : Location) (names : Names) : Call → Prop where
  | get (kind : Kind) : Touches place names (.get kind (names.resource kind))
  | create {design : Design} (refers : Refers place names design) :
      Touches place names (.create (names.resource design.kind) design)
  | updateFirewall (ports : List Int32) : Touches place names (.updateFirewall names.firewall ports)
  | delete (kind : Kind) : Touches place names (.delete kind (names.resource kind))
  | listEndpoints : Touches place names (.listEndpoints names.group)
  | attachEndpoints (ms : List PortMapping) : Touches place names (.attachEndpoints names.group ms)
  | detachEndpoints (ms : List PortMapping) : Touches place names (.detachEndpoints names.group ms)

/-- What a call about resources of some names may leave of a store. -/
inductive Effect (place : Location) (names : Names) (s : Store) : Store → Prop where
  | unchanged : Effect place names s s
  | put {design : Design} (refers : Refers place names design) :
      Effect place names s (s.put place (names.resource design.kind) design)
  | drop (kind : Kind) : Effect place names s (s.drop kind (names.resource kind))
  | repaired (f : Firewall) : Effect place names s
      (s.withResources .firewall ((s.resources .firewall).insert names.firewall f))
  | attached (ms : List PortMapping) : Effect place names s
      { s with endpoints := s.endpoints.insert names.group ms }

theorem effect_create {design : Design} (refers : Refers place names design) :
    Effect place names s (s.create place (names.resource design.kind) design).2 := by
  obtain ⟨e, refused⟩ | ⟨-, -, created⟩ := s.create_cases place (names.resource design.kind) design
  · rw [refused]
    exact .unchanged
  · rw [created]
    exact .put refers

theorem effect_delete (kind : Kind) :
    Effect place names s (s.delete place kind (names.resource kind)).2 := by
  obtain ⟨e, refused⟩ | ⟨-, -, deleted⟩ := s.delete_cases place kind (names.resource kind)
  · rw [refused]
    exact .unchanged
  · rw [deleted]
    exact .drop kind

theorem effect_perform (h : Touches place names c) (s : Store) :
    Effect place names s (s.perform place c).2 := by
  cases h with
  | get kind => exact .unchanged
  | listEndpoints => exact .unchanged
  | create refers => exact effect_create refers
  | delete kind => exact effect_delete kind
  | updateFirewall ports =>
    simp only [Store.perform]
    split
    · exact .repaired _
    · exact .unchanged
  | attachEndpoints ms =>
    simp only [Store.perform]
    split
    · exact .attached _
    · exact .unchanged
  | detachEndpoints ms =>
    simp only [Store.perform]
    split
    · exact .attached _
    · exact .unchanged

/-- Under other names two stores hold the same. -/
structure Elsewhere (names : Names) (s t : Store) : Prop where
  found : ∀ kind name, name ≠ names.resource kind → s.find? kind name = t.find? kind name
  endpoints : ∀ group, group ≠ names.group → s.endpoints.get? group = t.endpoints.get? group

/-- Nothing is done under other names. -/
theorem Effect.elsewhere (h : Effect place names s t) : Elsewhere names s t := by
  have either (kind kind' : Kind) {name : String} (other : name ≠ names.resource kind') :
      kind' ≠ kind ∨ name ≠ names.resource kind := by
    by_cases same : kind' = kind
    · exact .inr (same ▸ other)
    · exact .inl same
  cases h with
  | unchanged => exact ⟨fun _ _ _ => rfl, fun _ _ => rfl⟩
  | @put design refers =>
    refine ⟨fun kind name other => ?_, fun group other => ?_⟩
    · exact (Store.find?_put_ne (either design.kind kind other)).symm
    · by_cases same : design = .group
      · subst same
        exact (Store.endpoints_put (.inr other)).symm
      · exact (Store.endpoints_put (.inl same)).symm
  | drop kind =>
    refine ⟨fun kind' name other => ?_, fun group other => ?_⟩
    · exact (Store.find?_drop_ne (either kind kind' other)).symm
    · by_cases same : kind = .group
      · subst same
        exact (Store.endpoints_drop (.inr other)).symm
      · exact (Store.endpoints_drop (.inl same)).symm
  | repaired f =>
    refine ⟨fun kind name other => ?_, fun _ _ => rfl⟩
    exact (Store.find?_withResources_insert_ne _ (either .firewall kind other)).symm
  | attached ms =>
    exact ⟨fun _ _ _ => rfl, fun group other => (Keyed.get?_insert_ne _ _ other).symm⟩

/-! ## Orderly stores -/

/-- What a resource refers to is of some names. -/
def Loyal (place : Location) (names : Names) : (kind : Kind) → kind.Model → Prop
  | .backend, b => ∀ name,
    b.backends.any (·.group == Path.resource place .group name) = true → name = names.group
  | .rule, r => ∀ name,
    r.backendService = some (Path.resource place .backend name) → name = names.backend
  | .attachment, a => ∀ name,
    a.producerForwardingRule = some (Path.resource place .rule name) → name = names.rule
  | .firewall, _ | .group, _ => True

/-- Every resource is named by one of some prefixes, and refers only to resources of this prefix. -/
def Orderly (place : Location) (among : String → Prop) (s : Store) : Prop :=
  ∀ kind name m, s.find? kind name = some m → ∃ namePrefix, among namePrefix ∧
    name = (Names.of namePrefix).resource kind ∧ Loyal place (Names.of namePrefix) kind m

theorem orderly_empty : Orderly place among {} := by
  rintro _ _ _ ⟨⟩

/-- What is created refers to what its design refers to. -/
theorem loyal_modelOf {design : Design} (refers : Refers place names design) (name : String) :
    Loyal place names design.kind (Store.modelOf place name design) := by
  cases design with
  | firewall ports => exact trivial
  | group => exact trivial
  | backend group =>
    obtain rfl : group = names.group := refers
    intro target uses
    simp only [Store.modelOf, List.any_cons, List.any_nil, Bool.or_false, beq_iff_eq] at uses
    exact (Path.resource_injective uses).symm
  | rule backend address globalAccess =>
    obtain rfl : backend = names.backend := refers
    intro target uses
    exact (Path.resource_injective (Option.some.inj uses)).symm
  | attachment path consumers subnets =>
    obtain rfl : path = Path.resource place .rule names.rule := refers
    intro target uses
    exact (Path.resource_injective (Option.some.inj uses)).symm

/-- A store stays orderly. -/
theorem Orderly.effect (h : Orderly place among s) (member : among namePrefix)
    (done : Effect place (Names.of namePrefix) s t) : Orderly place among t := by
  cases done with
  | unchanged => exact h
  | drop kind => exact fun kind' name m found => h kind' name m (Store.find?_of_find?_drop found)
  | attached ms => exact h
  | @put design refers =>
    intro kind name m found
    by_cases new : kind = design.kind ∧ name = (Names.of namePrefix).resource design.kind
    · obtain ⟨rfl, rfl⟩ := new
      obtain rfl := Option.some.inj ((Store.find?_put_self place).symm.trans found)
      exact ⟨namePrefix, member, rfl, loyal_modelOf refers _⟩
    · rw [Store.find?_put_ne (Decidable.not_and_iff_not_or_not.mp new)] at found
      exact h kind name m found
  | repaired f =>
    intro kind name m found
    by_cases new : kind = .firewall ∧ name = (Names.of namePrefix).firewall
    · obtain ⟨rfl, rfl⟩ := new
      exact ⟨namePrefix, member, rfl, trivial⟩
    · rw [Store.find?_withResources_insert_ne _ (Decidable.not_and_iff_not_or_not.mp new)] at found
      exact h kind name m found

/-- In an orderly store only resources of the same names refer to each other. -/
theorem Orderly.confined (h : Orderly place among s) (namePrefix : String) :
    Confined place (Names.of namePrefix) s := by
  intro kind user uses
  cases kind with
  | firewall => exact uses.elim
  | attachment => exact uses.elim
  | group =>
    obtain ⟨b, found, uses⟩ := uses
    obtain ⟨q, -, rfl, loyal⟩ := h .backend user b found
    obtain rfl := Names.resource_injective .group (loyal _ uses)
    exact ⟨_, rfl, rfl⟩
  | backend =>
    obtain ⟨r, found, uses⟩ := uses
    obtain ⟨q, -, rfl, loyal⟩ := h .rule user r found
    obtain rfl := Names.resource_injective .backend (loyal _ uses)
    exact ⟨_, rfl, rfl⟩
  | rule =>
    obtain ⟨a, found, uses⟩ := uses
    obtain ⟨q, -, rfl, loyal⟩ := h .attachment user a found
    obtain rfl := Names.resource_injective .rule (loyal _ uses)
    exact ⟨_, rfl, rfl⟩

/-! ## What decides a call -/

/-- Two stores hold the same under some names. -/
structure Agree (names : Names) (s t : Store) : Prop where
  found : ∀ kind, s.find? kind (names.resource kind) = t.find? kind (names.resource kind)
  endpoints : s.endpoints.get? names.group = t.endpoints.get? names.group

theorem find?_values {α : Type} {m : Keyed String α} {chosen : α → Bool} {k : String}
    (only : ∀ key a, m.get? key = some a → chosen a = true → key = k) :
    m.values.find? chosen = (m.get? k).filter chosen := by
  cases found : m.values.find? chosen with
  | some a =>
    obtain ⟨⟨key, _⟩, entry, rfl⟩ := List.mem_map.mp (List.mem_of_find?_eq_some found)
    have at_ := Keyed.get?_eq_some_iff.mpr entry
    have has := List.find?_some found
    obtain rfl := only key _ at_ has
    rw [at_, Option.filter_some, if_pos has]
  | none =>
    refine (Option.filter_eq_none_iff.mpr fun a at_ => ?_).symm
    have mem : a ∈ m.values := List.mem_map.mpr ⟨(k, a), Keyed.get?_eq_some_iff.mp at_, rfl⟩
    exact List.find?_eq_none.mp found a mem

/-- The resource of some names that refers to the resource of a kind, if it does. -/
def soleUser? (place : Location) (names : Names) (s : Store) : Kind → Option String
  | .group => ((s.find? .backend names.backend).filter fun b =>
      b.backends.any (·.group == Path.resource place .group names.group)).map (·.name)
  | .backend => ((s.find? .rule names.rule).filter fun r =>
      r.backendService == some (Path.resource place .backend names.backend)).map (·.name)
  | .rule => ((s.find? .attachment names.attachment).filter fun a =>
      a.producerForwardingRule == some (Path.resource place .rule names.rule)).map (·.name)
  | .firewall | .attachment => none

/-- Where only resources of the same names refer to each other, no other needs to be looked at. -/
theorem userOf?_eq (confined : Confined place names s) (kind : Kind) :
    s.userOf? place kind (names.resource kind) = soleUser? place names s kind := by
  cases kind with
  | firewall => rfl
  | attachment => rfl
  | group =>
    refine congrArg (Option.map _) (find?_values fun user b found uses => ?_)
    obtain ⟨k, isUser, rfl⟩ := confined .group user ⟨b, found, uses⟩
    obtain rfl := Option.some.inj isUser
    rfl
  | backend =>
    refine congrArg (Option.map _) (find?_values fun user r found uses => ?_)
    obtain ⟨k, isUser, rfl⟩ := confined .backend user ⟨r, found, beq_iff_eq.mp uses⟩
    obtain rfl := Option.some.inj isUser
    rfl
  | rule =>
    refine congrArg (Option.map _) (find?_values fun user a found uses => ?_)
    obtain ⟨k, isUser, rfl⟩ := confined .rule user ⟨a, found, beq_iff_eq.mp uses⟩
    obtain rfl := Option.some.inj isUser
    rfl

theorem Agree.soleUser? (h : Agree names s t) (kind : Kind) :
    soleUser? place names s kind = soleUser? place names t kind := by
  have backend : s.find? .backend names.backend = t.find? .backend names.backend := h.found .backend
  have rule : s.find? .rule names.rule = t.find? .rule names.rule := h.found .rule
  have attachment : s.find? .attachment names.attachment = t.find? .attachment names.attachment :=
    h.found .attachment
  cases kind <;> simp only [Pass.soleUser?, backend, rule, attachment]

theorem Agree.dangling? (h : Agree names s t) (slashless : '/' ∉ names.rule.toList)
    {design : Design} (refers : Refers place names design) :
    s.dangling? design = t.dangling? design := by
  have has (kind : Kind) : s.has kind (names.resource kind) = t.has kind (names.resource kind) := by
    rw [Store.has_eq, Store.has_eq, h.found kind]
  cases design with
  | firewall ports => rfl
  | group => rfl
  | backend group =>
    obtain rfl : group = names.group := refers
    simp only [Store.dangling?, show s.has .group names.group = _ from has .group]
    rfl
  | rule backend address globalAccess =>
    obtain rfl : backend = names.backend := refers
    simp only [Store.dangling?, show s.has .backend names.backend = _ from has .backend]
    rfl
  | attachment path consumers subnets =>
    obtain rfl : path = Path.resource place .rule names.rule := refers
    simp only [Store.dangling?, Store.nameAt_resource place .rule slashless,
      show s.has .rule names.rule = _ from has .rule]
    rfl

theorem Agree.put (h : Agree names s t) (design : Design) :
    Agree names (s.put place (names.resource design.kind) design)
      (t.put place (names.resource design.kind) design) where
  found kind := by
    by_cases new : kind = design.kind
    · subst new
      rw [Store.find?_put_self, Store.find?_put_self]
    · rw [Store.find?_put_ne (.inl new), Store.find?_put_ne (.inl new), h.found kind]
  endpoints := by
    by_cases new : design = .group
    · subst new
      exact (Store.endpoints_put_group place).trans (Store.endpoints_put_group place).symm
    · rw [Store.endpoints_put (.inl new), Store.endpoints_put (.inl new), h.endpoints]

theorem Agree.drop (h : Agree names s t) (kind : Kind) :
    Agree names (s.drop kind (names.resource kind)) (t.drop kind (names.resource kind)) where
  found kind' := by
    by_cases gone : kind' = kind
    · subst gone
      rw [Store.find?_drop_self, Store.find?_drop_self]
    · rw [Store.find?_drop_ne (.inl gone), Store.find?_drop_ne (.inl gone), h.found kind']
  endpoints := by
    by_cases gone : kind = .group
    · subst gone
      exact Store.endpoints_drop_group.trans Store.endpoints_drop_group.symm
    · rw [Store.endpoints_drop (.inl gone), Store.endpoints_drop (.inl gone), h.endpoints]

theorem Agree.repaired (h : Agree names s t) (f : Firewall) :
    Agree names
      (s.withResources .firewall ((s.resources .firewall).insert names.firewall f))
      (t.withResources .firewall ((t.resources .firewall).insert names.firewall f)) where
  found kind := by
    have stored (s : Store) : (s.withResources .firewall
        ((s.resources .firewall).insert names.firewall f)).find? .firewall names.firewall =
          some f :=
      Store.find?_withResources_insert _
    by_cases new : kind = .firewall
    · subst new
      exact (stored s).trans (stored t).symm
    · rw [Store.find?_withResources_insert_ne _ (.inl new),
        Store.find?_withResources_insert_ne _ (.inl new), h.found kind]
  endpoints := h.endpoints

theorem Agree.attached (h : Agree names s t) (ms : List PortMapping) :
    Agree names { s with endpoints := s.endpoints.insert names.group ms }
      { t with endpoints := t.endpoints.insert names.group ms } where
  found := h.found
  endpoints := (Keyed.get?_insert_self ..).trans (Keyed.get?_insert_self ..).symm

theorem Agree.create (h : Agree names s t) (slashless : '/' ∉ names.rule.toList)
    {design : Design} (refers : Refers place names design) :
    (s.create place (names.resource design.kind) design).1 =
        (t.create place (names.resource design.kind) design).1 ∧
      Agree names (s.create place (names.resource design.kind) design).2
        (t.create place (names.resource design.kind) design).2 := by
  have founded := h.dangling? slashless refers
  have found := h.found design.kind
  cases dangles : t.dangling? design with
  | some e =>
    rw [dangles] at founded
    simp only [Store.create, founded, dangles]
    exact ⟨trivial, h⟩
  | none =>
    rw [dangles] at founded
    cases missing : t.find? design.kind (names.resource design.kind) with
    | some m =>
      rw [missing] at found
      have taken : s.has design.kind (names.resource design.kind) = true := by
        rw [Store.has_eq, found]; rfl
      have taken' : t.has design.kind (names.resource design.kind) = true := by
        rw [Store.has_eq, missing]; rfl
      simp only [Store.create, founded, dangles, taken, taken', if_true]
      exact ⟨trivial, h⟩
    | none =>
      rw [missing] at found
      rw [Store.create_eq_put founded found, Store.create_eq_put dangles missing]
      exact ⟨rfl, h.put design⟩

theorem Agree.delete (h : Agree names s t) (confined : Confined place names s)
    (confined' : Confined place names t) (kind : Kind) :
    (s.delete place kind (names.resource kind)).1 = (t.delete place kind (names.resource kind)).1 ∧
      Agree names (s.delete place kind (names.resource kind)).2
        (t.delete place kind (names.resource kind)).2 := by
  have users : s.userOf? place kind (names.resource kind) =
      t.userOf? place kind (names.resource kind) := by
    rw [userOf?_eq confined, userOf?_eq confined', h.soleUser?]
  have found := h.found kind
  cases used : t.userOf? place kind (names.resource kind) with
  | some user =>
    rw [used] at users
    simp only [Store.delete, users, used]
    exact ⟨trivial, h⟩
  | none =>
    rw [used] at users
    cases there : t.find? kind (names.resource kind) with
    | none =>
      rw [there] at found
      rw [Store.delete_missing users found, Store.delete_missing used there]
      exact ⟨rfl, h⟩
    | some m =>
      rw [there] at found
      rw [Store.delete_eq_drop users (by rw [found]; rfl),
        Store.delete_eq_drop used (by rw [there]; rfl)]
      exact ⟨rfl, h.drop kind⟩

/-- Stores that agree under some names answer a call about them alike, and agree afterwards. -/
theorem Agree.perform (h : Agree names s t) (slashless : '/' ∉ names.rule.toList)
    (confined : Confined place names s) (confined' : Confined place names t)
    (touches : Touches place names c) :
    (s.perform place c).1 = (t.perform place c).1 ∧
      Agree names (s.perform place c).2 (t.perform place c).2 := by
  have endpoints := h.endpoints
  cases touches with
  | create refers => exact h.create slashless refers
  | delete kind => exact h.delete confined confined' kind
  | get kind =>
    have found : (s.resources kind).get? (names.resource kind) =
        (t.resources kind).get? (names.resource kind) := h.found kind
    simp only [Store.perform, found]
    exact ⟨trivial, h⟩
  | listEndpoints =>
    simp only [Store.perform, endpoints]
    exact ⟨trivial, h⟩
  | updateFirewall ports =>
    have found : (s.resources .firewall).get? names.firewall =
        (t.resources .firewall).get? names.firewall := h.found .firewall
    simp only [Store.perform, found]
    split
    · exact ⟨rfl, h.repaired _⟩
    · exact ⟨rfl, h⟩
  | attachEndpoints ms =>
    simp only [Store.perform, endpoints]
    split
    · exact ⟨rfl, h.attached _⟩
    · exact ⟨rfl, h⟩
  | detachEndpoints ms =>
    simp only [Store.perform, endpoints]
    split
    · exact ⟨rfl, h.attached _⟩
    · exact ⟨rfl, h⟩

end Pass

end ReplicaPorts
