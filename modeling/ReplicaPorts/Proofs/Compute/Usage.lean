import ReplicaPorts.Proofs.Compute.Store

/-!
# What refers to what

A backend service refers to groups, a forwarding rule to a backend service, an attachment to a rule.
A resource that nothing refers to may be deleted (`userOf?_eq_none`, `not_uses_of_userOf?`), and
dropping resources makes nothing refer to more than before (`Uses.of_drop`).
-/

set_option autoImplicit false

namespace ReplicaPorts.Compute

/-- The kind of the resources that refer to those of a kind. -/
def Kind.user? : Kind → Option Kind
  | .group => some .backend
  | .backend => some .rule
  | .rule => some .attachment
  | .firewall | .attachment => none

namespace Store

variable {s : Store} {place : Location} {kind kind' : Kind} {name name' user : String}

/-- A resource refers to the resource of a kind and a name. The kind of the one that refers is
`Kind.user?`. -/
def Uses (s : Store) (place : Location) (kind : Kind) (name user : String) : Prop :=
  match kind with
  | .group => ∃ b, s.find? .backend user = some b ∧
      b.backends.any (·.group == Path.resource place .group name) = true
  | .backend => ∃ r, s.find? .rule user = some r ∧
      r.backendService = some (Path.resource place .backend name)
  | .rule => ∃ a, s.find? .attachment user = some a ∧
      a.producerForwardingRule = some (Path.resource place .rule name)
  | .firewall | .attachment => False

theorem Uses.exists_find? (h : s.Uses place kind name user) :
    ∃ k, kind.user? = some k ∧ (s.find? k user).isSome = true := by
  cases kind with
  | firewall => exact h.elim
  | attachment => exact h.elim
  | group =>
    obtain ⟨b, found, -⟩ := h
    exact ⟨_, rfl, by rw [found]; rfl⟩
  | backend =>
    obtain ⟨r, found, -⟩ := h
    exact ⟨_, rfl, by rw [found]; rfl⟩
  | rule =>
    obtain ⟨a, found, -⟩ := h
    exact ⟨_, rfl, by rw [found]; rfl⟩

private theorem find?_values_eq_none {α : Type} {m : Keyed String α} {chosen : α → Bool}
    (h : ∀ key a, m.get? key = some a → chosen a = false) : m.values.find? chosen = none := by
  refine List.find?_eq_none.mpr fun a mem => ?_
  obtain ⟨⟨key, a⟩, entry, rfl⟩ := List.mem_map.mp mem
  rw [h key a (Keyed.get?_eq_some_iff.mpr entry)]
  decide

/-- A resource that nothing refers to has no user. -/
theorem userOf?_eq_none (h : ∀ user, ¬ s.Uses place kind name user) :
    s.userOf? place kind name = none := by
  cases kind with
  | firewall => rfl
  | attachment => rfl
  | group =>
    refine Option.map_eq_none_iff.mpr (find?_values_eq_none fun user b found => ?_)
    exact Bool.eq_false_iff.mpr fun uses => h user ⟨b, found, uses⟩
  | backend =>
    refine Option.map_eq_none_iff.mpr (find?_values_eq_none fun user r found => ?_)
    exact beq_eq_false_iff_ne.mpr fun uses => h user ⟨r, found, uses⟩
  | rule =>
    refine Option.map_eq_none_iff.mpr (find?_values_eq_none fun user a found => ?_)
    exact beq_eq_false_iff_ne.mpr fun uses => h user ⟨a, found, uses⟩

/-- Nothing refers to a resource without a user. -/
theorem not_uses_of_userOf? (unused : s.userOf? place kind name = none) (user : String) :
    ¬ s.Uses place kind name user := by
  have mem {k : Kind} {m : k.Model} (found : s.find? k user = some m) :
      m ∈ (s.resources k).values :=
    List.mem_map.mpr ⟨(user, m), Keyed.get?_eq_some_iff.mp found, rfl⟩
  intro uses
  cases kind with
  | firewall => exact uses
  | attachment => exact uses
  | group =>
    obtain ⟨b, found, refers⟩ := uses
    exact List.find?_eq_none.mp (Option.map_eq_none_iff.mp unused) b (mem found) refers
  | backend =>
    obtain ⟨r, found, refers⟩ := uses
    exact List.find?_eq_none.mp (Option.map_eq_none_iff.mp unused) r (mem found)
      (beq_iff_eq.mpr refers)
  | rule =>
    obtain ⟨a, found, refers⟩ := uses
    exact List.find?_eq_none.mp (Option.map_eq_none_iff.mp unused) a (mem found)
      (beq_iff_eq.mpr refers)

theorem find?_of_find?_drop {m : kind'.Model}
    (h : (s.drop kind name).find? kind' name' = some m) : s.find? kind' name' = some m := by
  by_cases gone : kind' = kind ∧ name' = name
  · obtain ⟨rfl, rfl⟩ := gone
    rw [find?_drop_self] at h
    cases h
  · rwa [find?_drop_ne (Decidable.not_and_iff_not_or_not.mp gone)] at h

/-- Dropping a resource makes nothing refer to more than before. -/
theorem Uses.of_drop (h : (s.drop kind name).Uses place kind' name' user) :
    s.Uses place kind' name' user := by
  cases kind' with
  | firewall => exact h
  | attachment => exact h
  | group =>
    obtain ⟨b, found, uses⟩ := h
    exact ⟨b, find?_of_find?_drop found, uses⟩
  | backend =>
    obtain ⟨r, found, uses⟩ := h
    exact ⟨r, find?_of_find?_drop found, uses⟩
  | rule =>
    obtain ⟨a, found, uses⟩ := h
    exact ⟨a, find?_of_find?_drop found, uses⟩

/-- Where a resource is missing, dropping it changes nothing. -/
theorem drop_of_missing (paired : s.Paired) (missing : s.find? kind name = none) :
    s.drop kind name = s := by
  refine ext_find? (fun kind' name' => ?_) fun group => ?_
  · by_cases gone : kind' = kind ∧ name' = name
    · obtain ⟨rfl, rfl⟩ := gone
      rw [find?_drop_self, missing]
    · exact find?_drop_ne (Decidable.not_and_iff_not_or_not.mp gone)
  · by_cases gone : kind = .group ∧ group = name
    · obtain ⟨rfl, rfl⟩ := gone
      have alone := paired group
      rw [missing] at alone
      rw [endpoints_drop_group, Option.isSome_eq_false_iff.mp alone |> Option.isNone_iff_eq_none.mp]
    · exact endpoints_drop (Decidable.not_and_iff_not_or_not.mp gone)

end Store

end ReplicaPorts.Compute
