import ReplicaPorts.Proofs.Pass.Adoption
import ReplicaPorts.Proofs.Pass.Leads

/-!
# Passes that leave a step alone

`Away s p` says that a pass asks nothing that belongs to a step, whoever answers. What goes along a
course without places of that step does so, and putting passes together keeps to it. Exposing
replicas leaves finalizers alone (`expose_away`).
-/

set_option autoImplicit false

namespace ReplicaPorts.Pass

open Cluster Compute

variable {α β : Type}

/-- Whatever is answered, a pass asks nothing that belongs to a step. -/
def Away (s : Step) (p : Pass α) : Prop :=
  ∀ t r, Takes p t r → ∀ ev ∈ t, stepOf? ev.op ≠ some s

theorem Away.of_keeps {s : Step} {fails : Event asks → Option Error} {course : List Place}
    {ok : List (Event asks) → α → Prop} {err : List (Event asks) → Error → Prop} {p : Pass α}
    (h : Keeps fails (fun _ => True) course ok err p)
    (away : ∀ place ∈ course, ∀ a, place.admits a → stepOf? a ≠ some s) : Away s p := by
  intro t r takes ev mem
  obtain ⟨place, at_, admits⟩ :=
    (h t r takes fun _ _ => trivial).begun.admitted ev.op (List.mem_map_of_mem mem)
  exact away place at_ ev.op admits

theorem Away.bind {s : Step} {p : Pass α} {f : α → Pass β} (hp : Away s p)
    (hf : ∀ a, Away s (f a)) : Away s (p >>= f) := by
  intro t r takes ev mem
  rcases takes_bind_iff.mp takes with ⟨e, rfl, h₁⟩ | ⟨t₁, a, t₂, rfl, h₁, h₂⟩
  · exact hp t _ h₁ ev mem
  · rcases List.mem_append.mp mem with mem | mem
    · exact hp t₁ _ h₁ ev mem
    · exact hf a t₂ r h₂ ev mem

theorem Away.during {s s' : Step} {p : Pass α} (h : Away s p) : Away s (during s' p) := by
  intro t r takes
  obtain ⟨r', -, inner⟩ := takes_during_iff.mp takes
  exact h t r' inner

theorem Away.cluster {s : Step} {c : Cluster.Call} (h : stepOf? (.cluster c) ≠ some s) :
    Away s (cluster c) := by
  intro t r takes ev mem
  obtain ⟨x, rfl, -⟩ := takes_cluster_iff.mp takes
  obtain rfl := List.mem_singleton.mp mem
  exact h

theorem Away.ofExcept {ε : Type} {s : Step} (error : ε → Error) (x : Except ε α) :
    Away s (ofExcept error x) := by
  intro t r takes
  obtain ⟨rfl, -⟩ := takes_ofExcept_iff.mp takes
  exact fun ev mem => (List.not_mem_nil mem).elim

theorem Away.forgiven {s : Step} {p : Pass Unit} (h : Away s p) :
    Away s (tryCatch p fun _ => pure ()) := by
  intro t r takes ev mem
  rw [Takes, forgiven_run, Program.path_bind_iff] at takes
  obtain ⟨t₁, r₁, t₂, rfl, inner, last⟩ := takes
  obtain ⟨rfl, -⟩ := Program.path_done_iff.mp last
  exact h t₁ r₁ inner ev (by rwa [List.append_nil] at mem)

/-- Exposing replicas leaves finalizers alone. -/
theorem expose_away (plan : Plan) (key : ObjectKey) (s : StatefulSet) (p : Payload) :
    Away .finalizer (expose plan key s p) := by
  have nothing : Away .finalizer (pure () : Pass Unit) := Away.ofExcept (ε := Error) id (.ok ())
  unfold expose
  cases p.ports.isEmpty with
  | true => exact nothing
  | false =>
    cases selector? s with
    | none => exact Away.ofExcept (ε := Error) id (.error _)
    | some selector =>
      have service := Away.of_keeps (s := .finalizer)
        (keeps_service ⟨key.space, (Names.of p.namePrefix).service⟩
          (NodeService.wanted s ⟨key.space, (Names.of p.namePrefix).service⟩ selector p))
        ((serviceCourse_liesIn _).away (by decide))
      have machines : Away .finalizer (replicaMachines plan.lookups key.space selector) := by
        refine Away.bind (Away.cluster ?_) fun pods =>
          Away.of_keeps (keeps_machinesOf plan.lookups _)
            ((lookupCourse_liesIn _ _).away (by decide))
        simp [stepOf?]
      refine service.during.bind fun _ => machines.during.bind fun _ =>
        (Away.ofExcept _ _).during.bind fun mappings => ?_
      exact Away.of_keeps (keeps_bringAll plan.place _ p mappings)
        (chainCourse_away _ _ _ (by intro kind; cases kind <;> decide) (by decide))

end ReplicaPorts.Pass
