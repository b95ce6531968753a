import ReplicaPorts.Proofs.Compute.Reachable
import ReplicaPorts.Proofs.Compute.Usage

/-!
# Coherent stores

A store is `Coherent` if the groups and the lists of endpoints go by the same names, every resource
bears the name that it is stored under, whatever a resource refers to is there, and no two endpoints
of a group share a port.

A reference is written as a path. It is looked up by a name when it is made, for a rule by the last
segment of its path, and looked for as a path when something is deleted. Both mean the same resource
only if the paths that are given for rules are those of rules whose names have no slash (`Proper`).
Then whatever is done with a simulator keeps its store coherent (`Coherent.perform`,
`acts_keep_coherent`).
-/

set_option autoImplicit false

namespace ReplicaPorts.Compute

/-! ## What a resource refers to -/

/-- What a resource refers to: the kind of each resource, with its path if there is one. -/
def references : (kind : Kind) → kind.Model → List (Kind × Option String)
  | .backend, b => b.backends.map fun g => (.group, some g.group)
  | .rule, r => [(.backend, r.backendService)]
  | .attachment, a => [(.rule, a.producerForwardingRule)]
  | .firewall, _ | .group, _ => []

namespace Store

variable {s : Store} {place : Location} {kind kind' : Kind} {name name' : String} {design : Design}

/-- What a reference means is there: it is the path of a resource that is stored. -/
def Holds (place : Location) (s : Store) (reference : Kind × Option String) : Prop :=
  ∃ name, reference.2 = some (Path.resource place reference.1 name) ∧
    (s.find? reference.1 name).isSome = true

/-- A resource that refers to the path of another one uses it. -/
theorem uses_of_references {m : kind.Model} (found : s.find? kind name = some m)
    (refers : (kind', some (Path.resource place kind' name')) ∈ references kind m) :
    s.Uses place kind' name' name := by
  cases kind with
  | firewall => exact (List.not_mem_nil refers).elim
  | group => exact (List.not_mem_nil refers).elim
  | backend =>
    obtain ⟨g, mem, same⟩ := List.mem_map.mp refers
    obtain ⟨rfl, path⟩ := Prod.mk.inj same
    exact ⟨m, found, List.any_eq_true.mpr ⟨g, mem, beq_iff_eq.mpr (Option.some.inj path)⟩⟩
  | rule =>
    obtain ⟨rfl, path⟩ := Prod.mk.inj (List.mem_singleton.mp refers)
    exact ⟨m, found, path.symm⟩
  | attachment =>
    obtain ⟨rfl, path⟩ := Prod.mk.inj (List.mem_singleton.mp refers)
    exact ⟨m, found, path.symm⟩

/-- What is stored later holds what was held before. -/
theorem Holds.mono {t : Store} {reference : Kind × Option String} (h : s.Holds place reference)
    (kept : ∀ name, (s.find? reference.1 name).isSome = true →
      (t.find? reference.1 name).isSome = true) : t.Holds place reference := by
  obtain ⟨name, path, present⟩ := h
  exact ⟨name, path, kept name present⟩

/-! ## Coherence -/

/-- A store in which everything fits together. -/
structure Coherent (place : Location) (s : Store) : Prop where
  paired : s.Paired
  named : ∀ {kind name m}, s.find? kind name = some m → kind.nameOf m = name
  holds : ∀ {kind name m}, s.find? kind name = some m →
    ∀ reference ∈ references kind m, s.Holds place reference
  apart : ∀ {group ms}, s.endpoints.get? group = some ms → ms.Pairwise fun a b => a.port ≠ b.port

/-- The paths that a design gives lead to resources whose names have no slash. -/
def ProperPaths (place : Location) : Design → Prop
  | .attachment path _ _ => ∃ name, '/' ∉ name.toList ∧ path = Path.resource place .rule name
  | _ => True

theorem coherent_empty : Coherent place {} where
  paired _ := rfl
  named found := by cases found
  holds found := by cases found
  apart found := by cases found

theorem nameOf_modelOf (name : String) (design : Design) :
    design.kind.nameOf (modelOf place name design) = name := by
  cases design <;> rfl

/-- What a new resource refers to is there, or it is not created. -/
theorem holds_modelOf (proper : ProperPaths place design) (founded : s.dangling? design = none)
    (name : String) :
    ∀ reference ∈ references design.kind (modelOf place name design), s.Holds place reference := by
  have present {kind : Kind} {target : String} {e : Error}
      (known : (if s.has kind target then none else some e) = none) :
      (s.find? kind target).isSome = true := by
    rw [← has_eq]
    by_contra missing
    rw [if_neg missing] at known
    cases known
  cases design with
  | firewall ports => exact fun _ mem => (List.not_mem_nil mem).elim
  | group => exact fun _ mem => (List.not_mem_nil mem).elim
  | backend group => exact List.forall_mem_singleton.mpr ⟨group, rfl, present founded⟩
  | rule backend address globalAccess =>
    exact List.forall_mem_singleton.mpr ⟨backend, rfl, present founded⟩
  | attachment path consumers subnets =>
    obtain ⟨target, slashless, rfl⟩ := proper
    simp only [dangling?, nameAt_resource place .rule slashless] at founded
    exact List.forall_mem_singleton.mpr ⟨target, rfl, present founded⟩

/-! ## Steps -/

/-- Storing a resource under its name, with all that it refers to, keeps a store coherent. -/
theorem Coherent.stored {t : Store} {m : kind.Model} (h : s.Coherent place) (paired : t.Paired)
    (new : t.find? kind name = some m) (named : kind.nameOf m = name)
    (holds : ∀ reference ∈ references kind m, s.Holds place reference)
    (others : ∀ kind' name', kind' ≠ kind ∨ name' ≠ name →
      t.find? kind' name' = s.find? kind' name')
    (apart : ∀ {group ms}, t.endpoints.get? group = some ms →
      ms.Pairwise fun a b => a.port ≠ b.port) : t.Coherent place := by
  have kept : ∀ kind' name', (s.find? kind' name').isSome = true →
      (t.find? kind' name').isSome = true := by
    intro kind' name' present
    by_cases same : kind' = kind ∧ name' = name
    · obtain ⟨rfl, rfl⟩ := same
      rw [new]
      rfl
    · rwa [others kind' name' (Decidable.not_and_iff_not_or_not.mp same)]
  refine ⟨paired, fun {kind' name' m'} found => ?_, fun {kind' name' m'} found => ?_, apart⟩
  · by_cases same : kind' = kind ∧ name' = name
    · obtain ⟨rfl, rfl⟩ := same
      cases new.symm.trans found
      exact named
    · rw [others kind' name' (Decidable.not_and_iff_not_or_not.mp same)] at found
      exact h.named found
  · intro reference mem
    by_cases same : kind' = kind ∧ name' = name
    · obtain ⟨rfl, rfl⟩ := same
      cases new.symm.trans found
      exact (holds reference mem).mono (kept reference.1)
    · rw [others kind' name' (Decidable.not_and_iff_not_or_not.mp same)] at found
      exact (h.holds found reference mem).mono (kept reference.1)

/-- Other endpoints in the place of those of a group do not matter if they do not share a port. -/
theorem Coherent.relisted (h : s.Coherent place) {group : String} {old new : List PortMapping}
    (present : s.endpoints.get? group = some old)
    (apart : new.Pairwise fun a b => a.port ≠ b.port) :
    ({ s with endpoints := s.endpoints.insert group new } : Store).Coherent place := by
  refine ⟨h.paired.endpoints_insert present new, h.named, h.holds, fun {other ms} found => ?_⟩
  by_cases same : other = group
  · subst same
    rw [Keyed.get?_insert_self] at found
    cases found
    exact apart
  · rw [Keyed.get?_insert_ne _ _ same] at found
    exact h.apart found

/-- A firewall refers to nothing. -/
theorem Coherent.firewall (h : s.Coherent place) {f : Firewall} (named : f.name = name) :
    (s.withResources .firewall ((s.resources .firewall).insert name f)).Coherent place := by
  let t := s.withResources .firewall ((s.resources .firewall).insert name f)
  have new : t.find? .firewall name = some f := find?_withResources_insert _
  exact h.stored (h.paired.withResources (by decide) _) new named
    (fun _ mem => (List.not_mem_nil mem).elim) (fun _ _ => find?_withResources_insert_ne _) h.apart

theorem Coherent.putGroup (h : s.Coherent place) (name : String) {ms : List PortMapping}
    (apart : ms.Pairwise fun a b => a.port ≠ b.port) : (s.putGroup name ms).Coherent place := by
  have new : (s.putGroup name ms).find? .group name =
      some { name, endpointType := some portMappingType } := find?_withResources_insert _
  refine h.stored (h.paired.putGroup name ms) new rfl (fun _ mem => (List.not_mem_nil mem).elim)
    (fun _ _ => find?_withResources_insert_ne _) fun {group ms'} found => ?_
  by_cases same : group = name
  · subst same
    rw [Store.putGroup, Keyed.get?_insert_self] at found
    cases found
    exact apart
  · rw [Store.putGroup, Keyed.get?_insert_ne _ _ same] at found
    exact h.apart found

theorem Coherent.create (h : s.Coherent place) (name : String)
    (proper : ProperPaths place design) : (s.create place name design).2.Coherent place := by
  obtain ⟨e, refused⟩ | ⟨founded, -, created⟩ := s.create_cases place name design
  · rwa [refused]
  · rw [created]
    refine h.stored (h.paired.put design) (find?_put_self place) (nameOf_modelOf name design)
      (holds_modelOf proper founded name) (fun _ _ => find?_put_ne) fun {group ms} found => ?_
    by_cases new : design = .group ∧ group = name
    · obtain ⟨rfl, rfl⟩ := new
      rw [endpoints_put_group] at found
      cases found
      exact .nil
    · rw [endpoints_put (Decidable.not_and_iff_not_or_not.mp new)] at found
      exact h.apart found

/-- What nothing refers to may go. -/
theorem Coherent.drop (h : s.Coherent place) (unused : s.userOf? place kind name = none) :
    (s.drop kind name).Coherent place where
  paired := h.paired.drop
  named found := h.named (find?_of_find?_drop found)
  holds {kind' name' m} found := by
    rintro ⟨k, written⟩ mem
    have before := find?_of_find?_drop found
    obtain ⟨target, path, present⟩ := h.holds before _ mem
    change written = some (Path.resource place k target) at path
    subst path
    refine ⟨target, rfl, ?_⟩
    rwa [find?_drop_ne]
    by_contra gone
    rw [not_or, not_not, not_not] at gone
    obtain ⟨rfl, rfl⟩ := gone
    exact not_uses_of_userOf? unused name' (uses_of_references before mem)
  apart {group ms} found := by
    by_cases gone : kind = .group ∧ group = name
    · obtain ⟨rfl, rfl⟩ := gone
      rw [endpoints_drop_group] at found
      cases found
    · rw [endpoints_drop (Decidable.not_and_iff_not_or_not.mp gone)] at found
      exact h.apart found

theorem Coherent.delete (h : s.Coherent place) (kind : Kind) (name : String) :
    (s.delete place kind name).2.Coherent place := by
  obtain ⟨e, refused⟩ | ⟨unused, -, deleted⟩ := s.delete_cases place kind name
  · rwa [refused]
  · rw [deleted]
    exact h.drop unused

/-- Attached mappings do not share a port, also where attaching ends early. -/
theorem pairwise_attachAll {attached : List PortMapping} (ms : List PortMapping)
    (apart : attached.Pairwise fun a b => a.port ≠ b.port) :
    (attachAll attached ms).2.Pairwise fun a b => a.port ≠ b.port := by
  induction ms generalizing attached with
  | nil => exact apart
  | cons m ms ih =>
    unfold attachAll
    split
    · exact ih apart
    · split
      · exact apart
      · next free =>
        refine ih (List.pairwise_append.mpr ⟨apart, List.pairwise_singleton _ _, ?_⟩)
        intro a mem b single same
        cases List.mem_singleton.mp single
        exact free (List.any_eq_true.mpr ⟨a, mem, beq_iff_eq.mpr same⟩)

theorem Coherent.perform (h : s.Coherent place) {c : Call}
    (proper : ∀ name design, c = .create name design → ProperPaths place design) :
    (s.perform place c).2.Coherent place := by
  cases c with
  | get kind name => exact h
  | listEndpoints group => exact h
  | create name design => exact h.create name (proper name design rfl)
  | delete kind name => exact h.delete kind name
  | updateFirewall name ports =>
    simp only [Store.perform]
    split
    · next f found =>
      have stored : s.find? .firewall name = some f := found
      have named : f.name = name := h.named stored
      exact h.firewall named
    · exact h
  | attachEndpoints group mappings =>
    simp only [Store.perform]
    split
    · next present => exact h.relisted present (pairwise_attachAll mappings (h.apart present))
    · exact h
  | detachEndpoints group mappings =>
    simp only [Store.perform]
    split
    · next present => exact h.relisted present ((h.apart present).filter _)
    · exact h

end Store

/-! ## Runs -/

namespace Simulator

/-- What can be done with a simulator. -/
inductive Act where
  | call (c : Call)
  | putFirewall (f : Firewall)
  | putGroup (name : String) (mappings : List PortMapping)
  | inject (method : String) (status : Nat)
  | heal
  | forgetCalls

namespace Act

def apply (s : Simulator) : Act → Simulator
  | call c => (s.answer c).2
  | putFirewall f => { s with store := s.store.putFirewall f }
  | putGroup name mappings => { s with store := s.store.putGroup name mappings }
  | inject method status => s.inject method status
  | heal => s.heal
  | forgetCalls => s.forgetCalls

/-- What is done gives only paths of rules whose names have no slash, and puts in only endpoints
that do not share a port. -/
def Proper (place : Location) : Act → Prop
  | call (.create _ design) => Store.ProperPaths place design
  | putGroup _ mappings => mappings.Pairwise fun a b => a.port ≠ b.port
  | _ => True

variable {s : Simulator} {act : Act}

@[simp] theorem place_apply (s : Simulator) (act : Act) : (act.apply s).place = s.place := by
  cases act with
  | call c => exact answer_place c s
  | _ => rfl

/-- Whatever is done properly keeps the store coherent, also where a call fails. -/
theorem coherent_apply (h : s.store.Coherent s.place) (proper : act.Proper s.place) :
    (act.apply s).store.Coherent s.place := by
  cases act with
  | putFirewall f => exact h.firewall rfl
  | putGroup name mappings => exact h.putGroup name proper
  | inject | heal | forgetCalls => exact h
  | call c =>
    rw [apply]
    refine answer_keeps h (h.perform fun name design same => ?_)
    subst same
    exact proper

/-- Whatever is done one after the other, from a simulator with nothing in it, leaves a coherent
store. -/
theorem acts_keep_coherent (place : Location) {acts : List Act}
    (proper : ∀ act ∈ acts, act.Proper place) :
    (acts.foldl apply { place }).store.Coherent place := by
  have kept : ∀ s : Simulator, s.place = place → s.store.Coherent place →
      (acts.foldl apply s).store.Coherent place := by
    induction acts with
    | nil => exact fun s _ h => h
    | cons act acts ih =>
      obtain ⟨first, later⟩ := List.forall_mem_cons.mp proper
      rintro s rfl h
      exact ih later (act.apply s) (place_apply s act) (coherent_apply h first)
  exact kept _ rfl Store.coherent_empty

end Act

end Simulator

end ReplicaPorts.Compute

namespace ReplicaPorts.Small

open Compute Compute.Simulator

/-- A place. -/
def somewhere : Location := ⟨"p", "r"⟩

/-- A chain of resources is created and endpoints are attached, of which the last takes a port that
is taken; then everything is deleted that may be. -/
def chainActs : List Act :=
  [.putGroup "g" [⟨1, "a", 1⟩],
    .call (.create "b" (.backend "g")),
    .call (.create "f" (.rule "b" none false)),
    .call (.create "s" (.attachment (Path.resource somewhere .rule "f") [] [])),
    .call (.attachEndpoints "g" [⟨2, "a", 1⟩, ⟨1, "b", 1⟩]),
    .inject "delete_service_attachment" 500,
    .call (.delete .attachment "s"), .call (.delete .rule "f"), .call (.delete .group "g")]

/-- The chain stays, and everything in it fits together. -/
theorem small_acts_keep_coherent :
    (chainActs.foldl Act.apply { place := somewhere }).store.Coherent somewhere ∧
      [Kind.group, .backend, .rule, .attachment].map (fun kind =>
        (chainActs.foldl Act.apply { place := somewhere }).store.resources kind |>.keys) =
          [["g"], ["b"], ["f"], ["s"]] := by
  refine ⟨Act.acts_keep_coherent somewhere ?_, by decide +kernel⟩
  simp only [chainActs, List.forall_mem_cons, Act.Proper, Store.ProperPaths]
  exact ⟨List.pairwise_singleton _ _, trivial, trivial, ⟨"f", by decide, rfl⟩, trivial, trivial,
    trivial, trivial, trivial, fun _ mem => (List.not_mem_nil mem).elim⟩

end ReplicaPorts.Small
