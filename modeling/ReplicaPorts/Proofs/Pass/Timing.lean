import ReplicaPorts.Proofs.Pass.Guard

/-!
# Passes against a clock, as others see them

Delays and deadlines decide which calls to the cluster are listed early and where a pass is left
off; they do not decide what is answered. A clock `Shows` a world if it differs from it at most in
the calls that the cluster listed. What a clock answers, if it does, is what the world that it shows
answers (`Shows.answer`), so a pass against a clock is a run in which others interfere
(`attempt_reaches`).
-/

set_option autoImplicit false

namespace ReplicaPorts

open Cluster Program
open Relation (ReflTransGen)

/-- How a call is settled does not depend on the calls that were listed. -/
theorem Cluster.Memory.settle_calls (c : Call) (m : Memory) (calls : List Call) :
    settle c { m with calls } = ((settle c m).1, { (settle c m).2 with calls }) := by
  have same : fails { m with calls } c = m.fails c := rfl
  unfold settle
  rw [same]
  cases m.fails c with
  | true => rfl
  | false =>
    show perform c { m with calls } = ((perform c m).1, { (perform c m).2 with calls })
    have edited : ∀ key edit, editFinalizers { m with calls } key edit =
        ((m.editFinalizers key edit).1, { (m.editFinalizers key edit).2 with calls }) := by
      intro key edit
      unfold editFinalizers
      cases m.statefulSets.get? key <;> rfl
    cases c with
    | addFinalizer key finalizer => exact edited key _
    | removeFinalizer key finalizer => exact edited key _
    | createService space s =>
      simp only [perform]
      split <;> rfl
    | _ => rfl

namespace Pass

variable {α : Type} {w : World} {t : Clock}

/-- A world in which other calls to the cluster are listed. -/
def World.listing (w : World) (calls : List Call) : World :=
  { w with cluster := { w.cluster with calls } }

/-- The world of a clock, up to the calls that the cluster listed. -/
def Clock.Shows (t : Clock) (w : World) : Prop := ∃ calls, t.world = w.listing calls

theorem Clock.Shows.refl (t : Clock) : t.Shows t.world := ⟨_, rfl⟩

theorem Clock.Shows.note (h : t.Shows w) (c : Call) : (t.note c).Shows w := by
  obtain ⟨calls, same⟩ := h
  exact ⟨_, by rw [Clock.note, same]; rfl⟩

theorem Clock.Shows.starts (h : t.Shows w) (names : List String) :
    (names.foldl Clock.start t).Shows w := by
  induction names generalizing t with
  | nil => exact h
  | cons name names ih => exact ih (h.note (.getNode name))

theorem Clock.Shows.queue (h : t.Shows w) (underWay : List Nat) :
    Clock.Shows { t with underWay } w := h

/-- A call that is settled in time is answered as the world answers it. -/
theorem Clock.Shows.settleAt (h : t.Shows w) (time : Nat) (c : Call) :
    ((t.settleAt time c).1 = none ∧ (t.settleAt time c).2.Shows w) ∨
    ((t.settleAt time c).1 = some (w.answerCluster c).1 ∧
      (t.settleAt time c).2.Shows (w.answerCluster c).2) := by
  obtain ⟨world, delays, deadline, now, underWay⟩ := t
  obtain ⟨calls, rfl⟩ := h
  have settled : Memory.settle c (w.listing calls).cluster =
      ((w.answerCluster c).1, { (w.answerCluster c).2.cluster with calls }) := by
    have listed := Memory.settle_calls c w.cluster (w.cluster.calls ++ [c])
    have answered : w.answerCluster c =
      ((Memory.settle c w.cluster).1,
        { w with cluster := { (Memory.settle c w.cluster).2 with
          calls := w.cluster.calls ++ [c] } }) :=
      congrArg (fun x => (x.1, { w with cluster := x.2 })) listed
    rw [answered]
    exact Memory.settle_calls c w.cluster calls
  unfold Clock.settleAt
  split
  · exact .inl ⟨rfl, calls, rfl⟩
  · simp only [settled]
    exact .inr ⟨trivial, calls, rfl⟩

/-- What a clock answers is what the world answers that it shows. -/
theorem Clock.Shows.answer (h : t.Shows w) (a : Ask) :
    ((t.answer a).1 = none ∧ (t.answer a).2.Shows w) ∨
    ((t.answer a).1 = some (w.answer a).1 ∧ (t.answer a).2.Shows (w.answer a).2) := by
  cases a with
  | cluster c => exact (h.note c).settleAt _ c
  | compute c =>
    obtain ⟨world, delays, deadline, now, underWay⟩ := t
    obtain ⟨calls, rfl⟩ := h
    exact .inr ⟨rfl, calls, rfl⟩
  | node name ahead =>
    have begun : (t.completion name).2.Shows w := by
      unfold Clock.completion
      split
      · exact h
      · exact h.note (.getNode name)
    simp only [Clock.answer, Clock.lookup]
    split
    · exact (begun.queue _).settleAt _ _
    · exact ((begun.starts _).queue _).settleAt _ _

variable {key : ObjectKey} {namePrefix : String}
  {begins : Program asks (Except Error α) → Prop}

/-- A pass against a clock makes the first calls to the Compute API of the pass in the world that
the clock shows: all of them unless it is left off. -/
theorem attempt_computeCalls {β : Type} (p : Program asks β) (h : t.Shows w) :
    ∃ calls, calls <+: computeCalls (p.trace World.answer w) ∧
      (p.attempt Clock.answer t).2.world.compute.calls = w.compute.calls ++ calls := by
  have none_ : ∀ {t : Clock} {w : World} (made : List Compute.Call), t.Shows w →
      ∃ calls, calls <+: made ∧ t.world.compute.calls = w.compute.calls ++ calls := by
    rintro t w made ⟨calls, same⟩
    exact ⟨[], List.nil_prefix, by rw [same, List.append_nil]; rfl⟩
  induction p generalizing t w with
  | done a => exact none_ _ h
  | ask op next ih =>
    have answered := h.answer op
    simp only [Program.attempt]
    generalize t.answer op = x at answered ⊢
    obtain ⟨answer, u⟩ := x
    rcases answered with ⟨rfl, shows_⟩ | ⟨rfl, shows_⟩
    · exact none_ _ shows_
    · obtain ⟨calls, first, left⟩ := ih (w.answer op).1 shows_
      rw [answer_computeCalls, List.append_assoc] at left
      refine ⟨_, ?_, left⟩
      rw [Program.trace_ask, computeCalls_cons]
      exact (List.prefix_append_right_inj _).mpr first

/-- A pass against a clock is a run in which others interfere. -/
theorem attempt_reaches (p : Program asks (Except Error α)) (h : t.Shows w)
    (steady : Steady key namePrefix w) :
    ReflTransGen (Moves World.answer begins (Outside key namePrefix)) ⟨w, some p⟩
      ⟨(p.attempt Clock.answer t).2.world, none⟩ := by
  -- in the end the pass is left off, and the cluster lists what it lists
  have left : ∀ (p : Program asks (Except Error α)) (t : Clock) w, t.Shows w →
      Steady key namePrefix w →
      ReflTransGen (Moves World.answer begins (Outside key namePrefix)) ⟨w, some p⟩
        ⟨t.world, none⟩ := by
    rintro p t w ⟨calls, same⟩ steady
    refine (ReflTransGen.single .leave).tail (.outside ?_)
    rw [same]
    exact ⟨rfl, id, steady.genuine, steady.annotated⟩
  induction p generalizing t w with
  | done a => exact left _ t w h steady
  | ask op next ih =>
    have answered := h.answer op
    simp only [Program.attempt]
    generalize t.answer op = x at answered ⊢
    obtain ⟨answer, u⟩ := x
    rcases answered with ⟨rfl, shows_⟩ | ⟨rfl, shows_⟩
    · exact left _ _ w shows_ steady
    · exact ReflTransGen.head (.ask op next) (ih _ shows_ (steady.answer op))

end Pass

/-- An operator's pass makes the first calls to the Compute API of the pass in its world, whatever
takes time there. -/
theorem Operator.pass_computeCalls (o : Operator) (event : StatefulSet) (s : State) :
    ∃ calls, calls <+: Pass.computeCalls ((Pass.ofEvent o.plan event).transcript s.world) ∧
      (o.pass event s).2.world.compute.calls = s.world.compute.calls ++ calls :=
  Pass.attempt_computeCalls (t := o.clock s) _ (.refl _)

end ReplicaPorts
