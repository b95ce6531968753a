import ReplicaPorts.Proofs.Compute.Retirement
import ReplicaPorts.Proofs.Pass.Adoption
import ReplicaPorts.Proofs.Pass.Removal
import ReplicaPorts.Proofs.Program.Interference

/-!
# Guarded passes

What the finalizer is for: while the Compute API stores a resource of a prefix, the stored workload
that asks for the prefix carries the finalizer (`Watched`). Others may do much in between
(`Outside`), as long as they keep the annotation and its prefix and leave the finalizer on.

A pass `Guards` this when it holds at every call that the pass makes, so that the pass may be left
off anywhere; the rules below take a pass apart along the way it is put together.
-/

set_option autoImplicit false

namespace ReplicaPorts.Pass

open Cluster Compute Program
open Relation (ReflTransGen)

variable {α β : Type} {key : ObjectKey} {namePrefix : String} {w v : World}

/-! ## What is watched -/

/-- The stored workload carries the finalizer. -/
def Held (key : ObjectKey) (w : World) : Prop :=
  ∃ s, w.cluster.statefulSets.get? key = some s ∧ isFinalized s = true

/-- What others keep to: no deletion is told to fail as if there were nothing to delete, and a
stored workload is annotated with a text that, if it can be read, asks for one prefix. -/
structure Steady (key : ObjectKey) (namePrefix : String) (w : World) : Prop where
  /-- Failures of deletions tell the truth. -/
  genuine : w.compute.Genuine
  /-- The annotation stays, and so does the prefix. -/
  annotated : ∀ s, w.cluster.statefulSets.get? key = some s →
    ∃ text, payloadText? s = some text ∧
      ∀ p, Payload.decode text = .ok p → p.namePrefix = namePrefix

/-- What others may do: anything to the cluster and to the failures, except that they keep to what
is steady and do not take the finalizer off, and nothing to what the Compute API stores. -/
structure Outside (key : ObjectKey) (namePrefix : String) (w v : World) : Prop where
  /-- Resources are left to the passes. -/
  store : v.compute.store = w.compute.store
  /-- The finalizer is not taken off. -/
  held : Held key w → Held key v
  /-- What is steady stays so. -/
  steady : Steady key namePrefix v

/-- While a resource of the prefix exists, the workload is held. -/
structure Watched (key : ObjectKey) (namePrefix : String) (w : World) : Prop extends
    Steady key namePrefix w where
  /-- The workload is held, or there is no resource. -/
  held_or_gone : Held key w ∨
    ∀ kind, w.compute.store.find? kind ((Names.of namePrefix).resource kind) = none

/-! ## What answers keep -/

theorem Steady.answer (h : Steady key namePrefix w) (a : Ask) :
    Steady key namePrefix (w.answer a).2 where
  genuine := by
    cases a with
    | compute c =>
      intro kind name
      rw [show (w.answer (.compute c)).2.compute.failures = w.compute.failures from
        Simulator.answer_failures c w.compute]
      exact h.genuine kind name
    | _ => exact h.genuine
  annotated := by
    have edited : ∀ (c : Cluster.Call) s, (w.cluster.answer c).2.statefulSets.get? key = some s →
        ∃ text, payloadText? s = some text ∧
          ∀ p, Payload.decode text = .ok p → p.namePrefix = namePrefix := by
      intro c s stored
      obtain ⟨edit, changed | same⟩ := w.cluster.get?_answer c key
      · rw [changed] at stored
        obtain ⟨s', stored', rfl⟩ := Option.map_eq_some_iff.mp stored
        exact h.annotated s' stored'
      · exact h.annotated s (same ▸ stored)
    cases a with
    | compute c => exact h.annotated
    | cluster c => exact edited c
    | node name ahead => exact edited (.getNode name)

/-- Only asks about the finalizer change workloads. -/
theorem answer_statefulSets {a : Ask} (h : stepOf? a ≠ some .finalizer) (w : World) :
    (w.answer a).2.cluster.statefulSets = w.cluster.statefulSets := by
  cases a with
  | compute c => rfl
  | node name ahead => exact Memory.answer_statefulSets (by simp) (by simp) w.cluster
  | cluster c =>
    refine Memory.answer_statefulSets (fun key f e => h ?_) (fun key f e => h ?_) w.cluster
    · rw [e]; rfl
    · rw [e]; rfl

theorem Held.answer (h : Held key w) {a : Ask} (away : stepOf? a ≠ some .finalizer) :
    Held key (w.answer a).2 := by
  obtain ⟨s, stored, held⟩ := h
  exact ⟨s, (congrArg (·.get? key) (answer_statefulSets away w)).trans stored, held⟩

/-! ## Guarded passes -/

/-- Whenever a pass asks, resources of the prefix are watched, and what is known at its end holds
then. -/
def Guards (key : ObjectKey) (namePrefix : String) (p : Pass α) (ok : α → World → Prop)
    (err : World → Prop) (w : World) : Prop :=
  Guarded World.answer (Outside key namePrefix) (Watched key namePrefix)
    (fun r v => match r with
      | .ok a => ok a v
      | .error _ => err v) p.run w

theorem Guards.mono {ok ok' : α → World → Prop} {err err' : World → Prop} {p : Pass α}
    (h : Guards key namePrefix p ok err w) (hok : ∀ a v, ok a v → ok' a v)
    (herr : ∀ v, err v → err' v) : Guards key namePrefix p ok' err' w :=
  Guarded.mono h fun r v => by
    cases r with
    | ok a => exact hok a v
    | error e => exact herr v

theorem Guards.bind {ok₁ : α → World → Prop} {ok : β → World → Prop} {err : World → Prop}
    {p : Pass α} {f : α → Pass β} (h : Guards key namePrefix p ok₁ err w)
    (hf : ∀ a v, ok₁ a v → Guards key namePrefix (f a) ok err v) :
    Guards key namePrefix (p >>= f) ok err w := by
  refine Guarded.bind h fun r v known => ?_
  cases r with
  | ok a => exact hf a v known
  | error e => exact known

theorem Guards.during {ok : α → World → Prop} {err : World → Prop} {p : Pass α}
    (h : Guards key namePrefix p ok err w) (s : Step) :
    Guards key namePrefix (during s p) ok err w := by
  refine Guarded.bind h fun r v known => ?_
  cases r <;> exact known

theorem Guards.ofExcept {ε : Type} {error : ε → Error} {x : Except ε α} (w : World) :
    Guards key namePrefix (ofExcept error x) (fun a v => x = .ok a ∧ v = w) (· = w) w := by
  cases x with
  | ok a => exact ⟨rfl, rfl⟩
  | error e => exact rfl

/-- A call to the cluster is guarded if the world is watched whenever it is made. -/
theorem Guards.cluster {c : Cluster.Call} {ok : c.Value → World → Prop} {err : World → Prop}
    (h : ∀ v, ReflTransGen (Outside key namePrefix) w v → Watched key namePrefix v ∧
      (∀ a, (v.cluster.answer c).1 = .ok a → ok a { v with cluster := (v.cluster.answer c).2 }) ∧
      ∀ e, (v.cluster.answer c).1 = .error e → err { v with cluster := (v.cluster.answer c).2 }) :
    Guards key namePrefix (cluster c) ok err w := by
  intro v later
  obtain ⟨watched, succeeds, fails⟩ := h v later
  refine ⟨watched, ?_⟩
  show Guarded _ _ _ _ (.done ((v.cluster.answer c).1.mapError Error.cluster)) _
  generalize (v.cluster.answer c).1 = r at succeeds fails ⊢
  cases r with
  | ok a => exact succeeds a rfl
  | error e => exact fails e rfl

/-- A call to the Compute API is guarded if the world is watched whenever it is made, and what
follows is guarded. -/
theorem Guards.compute_ask {c : Compute.Call}
    {next : c.Answer → Program Compute.calls (Except Compute.Error α)}
    {ok : α → World → Prop} {err : World → Prop}
    (h : ∀ v, ReflTransGen (Outside key namePrefix) w v → Watched key namePrefix v ∧
      Guards key namePrefix (compute (next (v.compute.answer c).1)) ok err
        { v with compute := (v.compute.answer c).2 }) :
    Guards key namePrefix (compute (.ask (S := Compute.calls) c next)) ok err w :=
  h

/-- A fact that neither others disturb nor any ask of a pass guards it. -/
theorem Guards.of_takes {known : World → Prop} (stable : Stable (Outside key namePrefix) known)
    (imp : ∀ v, known v → Watched key namePrefix v) {p : Pass α}
    (kept : ∀ t r, Takes p t r → ∀ ev ∈ t, ∀ v, known v → known (v.answer ev.op).2)
    (h : known w) : Guards key namePrefix p (fun _ => known) known w := by
  refine (Guarded.of_path stable imp kept h).mono fun r v known => ?_
  cases r <;> exact known

end ReplicaPorts.Pass
