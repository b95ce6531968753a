import ReplicaPorts.Operator
import ReplicaPorts.Proofs.Pass.Adoption
import ReplicaPorts.Proofs.Program.Indifference
import ReplicaPorts.Proofs.Replica.Order

/-!
# Pods in another order

A pass does not see in which order the pods of a workload are listed: it goes on with their
replicas, and these are in an order of their own (`unswayed_replicaMachines`). Nothing else in a
pass depends on a listing (`unswayed_ofEvent`). So in two worlds that list the same pods in
different orders a pass asks the same, has the same result and leaves the same behind, at whatever
time the lookups of the nodes are completed (`Operator.pass_withPods`).
-/

set_option autoImplicit false

namespace ReplicaPorts

open Cluster Program

/-- In whatever way pods of two lists are selected, they are the same ones in some order, with
names that are pairwise distinct. -/
def Relisted (pods pods' : List Pod) : Prop :=
  ∀ space selector, Replica.Distinct (pods.filter (Memory.selects space selector)) ∧
    (pods.filter (Memory.selects space selector)).Perm
      (pods'.filter (Memory.selects space selector))

theorem Relisted.of_perm {pods pods' : List Pod} (distinct : Replica.Distinct pods)
    (same : pods.Perm pods') : Relisted pods pods' := fun _ _ =>
  ⟨distinct.sublist (List.filter_sublist.map _), same.filter _⟩

theorem Replica.ofPods_perm {pods pods' : List Pod} (distinct : Distinct pods)
    (same : pods.Perm pods') : ofPods pods' = ofPods pods := by
  have distinct' : Distinct pods' := (same.map _).nodup_iff.mp distinct
  exact (ofPods_inOrder distinct').unique ((ofPods_inOrder distinct).perm same)

namespace Pass

variable {α β : Type}

/-- Answers that a pass does not tell apart: listings of the same pods. -/
def Alike : (a : Ask) → a.Answer → a.Answer → Prop
  | .cluster (.listPods _ _), x, y =>
    x = y ∨ ∃ pods pods', x = .ok pods ∧ y = .ok pods' ∧ Replica.Distinct pods ∧ pods.Perm pods'
  | _, x, y => x = y

/-- A pass goes on in one way however the same pods are listed. -/
def Unswayed (p : Pass α) : Prop := p.run.Indifferent Alike

/-! ## Passes that are not swayed -/

theorem Unswayed.pure (a : α) : Unswayed (pure a : Pass α) := .done _

theorem Unswayed.ofExcept {ε : Type} (error : ε → Error) (x : Except ε α) :
    Unswayed (ofExcept error x) := by
  cases x <;> exact .done _

theorem Unswayed.bind {p : Pass α} {f : α → Pass β} (h : Unswayed p) (hf : ∀ a, Unswayed (f a)) :
    Unswayed (p >>= f) := by
  refine Indifferent.bind h fun r => ?_
  cases r with
  | ok a => exact hf a
  | error e => exact .done _

theorem Unswayed.during {p : Pass α} (h : Unswayed p) (s : Step) : Unswayed (during s p) :=
  Indifferent.bind h fun _ => .done _

theorem Unswayed.forgiven {p : Pass Unit} (h : Unswayed p) :
    Unswayed (tryCatch p fun _ => Pure.pure ()) := by
  refine Indifferent.bind h fun r => ?_
  cases r <;> exact .done _

theorem Unswayed.cluster {c : Call} (other : ∀ space selector, c ≠ .listPods space selector) :
    Unswayed (cluster c) := by
  refine Indifferent.bind (Indifferent.call fun x y like => ?_) fun _ => .done _
  cases c with
  | listPods space selector => exact absurd rfl (other space selector)
  | _ => exact like

theorem Unswayed.node (name : String) (ahead : List String) : Unswayed (node name ahead) :=
  Indifferent.bind (Indifferent.call fun _ _ like => like) fun _ => .done _

theorem Unswayed.compute (p : Program Compute.calls (Except Compute.Error α)) :
    Unswayed (compute p) := by
  refine Indifferent.bind ?_ fun _ => .done _
  induction p with
  | done a => exact .done a
  | ask op next ih => exact Indifferent.bind (Indifferent.call fun _ _ like => like) ih

theorem unswayed_machinesOf (lookups : Nat) (names : List String) :
    Unswayed (machinesOf lookups names) := by
  induction names with
  | nil => exact .pure []
  | cons name names ih =>
    refine (Unswayed.node _ _).bind fun found => ?_
    refine (Unswayed.ofExcept _ _).bind fun path => ?_
    exact ih.bind fun paths => .pure _

/-- The machines of the replicas do not depend on how the pods are listed. -/
theorem unswayed_replicaMachines (lookups : Nat) (space : String) (selector : Labels) :
    Unswayed (replicaMachines lookups space selector) := by
  refine Indifferent.ask (S := asks) (.cluster (.listPods space selector)) _
    (fun x y like => ?_) fun x => ?_
  · rcases like with rfl | ⟨pods, pods', rfl, rfl, distinct, same⟩
    · rfl
    · have replicas := Replica.ofPods_perm distinct same
      show (machinesOf lookups ((Replica.ofPods pods).map (·.node))).run =
        (machinesOf lookups ((Replica.ofPods pods').map (·.node))).run
      rw [replicas]
  · cases x with
    | ok pods => exact unswayed_machinesOf _ _
    | error e => exact .done _

theorem unswayed_provide (key : ObjectKey) (wanted : Service) :
    Unswayed (NodeService.provide key wanted) := by
  refine (Unswayed.cluster (by nofun)).bind fun found => ?_
  cases found with
  | none => exact .cluster (by nofun)
  | some existing =>
    dsimp only
    split
    · exact .cluster (by nofun)
    · exact .pure ()

theorem unswayed_bring (s : Step) (name : String) (design : Compute.Design) :
    Unswayed (bring s name design) :=
  ((Unswayed.compute _).bind fun _ => .pure ()).during s

theorem unswayed_bringAll (place : Compute.Location) (names : Names) (p : Payload)
    (mappings : List Compute.PortMapping) : Unswayed (bringAll place names p mappings) := by
  refine (unswayed_bring _ _ _).bind fun _ => ?_
  refine (unswayed_bring _ _ _).bind fun _ => ?_
  refine (unswayed_bring _ _ _).bind fun _ => ?_
  refine ((Unswayed.compute _).during .endpoints).bind fun _ => ?_
  refine (unswayed_bring _ _ _).bind fun _ => ?_
  exact unswayed_bring _ _ _

theorem unswayed_expose (plan : Plan) (key : ObjectKey) (w : StatefulSet) (p : Payload) :
    Unswayed (expose plan key w p) := by
  unfold expose
  cases p.ports.isEmpty with
  | true => exact .pure ()
  | false =>
    cases selector? w with
    | none => exact .ofExcept id (.error _)
    | some selector =>
      refine ((unswayed_provide _ _).during _).bind fun _ => ?_
      refine ((unswayed_replicaMachines _ _ _).during _).bind fun machines => ?_
      refine ((Unswayed.ofExcept _ _).during _).bind fun mappings => ?_
      exact unswayed_bringAll _ _ _ _

theorem unswayed_remove (s : Step) (kind : Compute.Kind) (name : String) :
    Unswayed (remove s kind name) :=
  ((Unswayed.compute _).bind fun _ => .pure ()).during s

theorem unswayed_removeAll (names : Names) : Unswayed (removeAll names) := by
  refine (unswayed_remove _ _ _).bind fun _ => ?_
  refine (unswayed_remove _ _ _).bind fun _ => ?_
  refine (unswayed_remove _ _ _).bind fun _ => ?_
  refine (unswayed_remove _ _ _).bind fun _ => ?_
  exact unswayed_remove _ _ _

theorem unswayed_letGo (key : ObjectKey) : Unswayed (letGo key) :=
  Unswayed.during (.cluster (by nofun)) .finalizer

theorem unswayed_dismantle (key : ObjectKey) (text : String) : Unswayed (dismantle key text) := by
  refine ((Unswayed.ofExcept _ _).during .payload).bind fun p => ?_
  refine (Unswayed.forgiven (.cluster (by nofun))).bind fun _ => ?_
  exact (unswayed_removeAll _).bind fun _ => unswayed_letGo key

theorem unswayed_settle (plan : Plan) (key : ObjectKey) (w : StatefulSet) :
    Unswayed (settle plan key w) := by
  unfold settle
  cases payloadText? w with
  | none =>
    cases isFinalized w with
    | true => exact unswayed_letGo key
    | false => exact .pure ()
  | some text =>
    cases isDeleted w with
    | true =>
      cases isFinalized w with
      | true => exact unswayed_dismantle key text
      | false => exact .pure ()
    | false =>
      simp only [adopt_eq]
      refine Unswayed.bind ?_ fun _ =>
        ((Unswayed.ofExcept _ _).during .payload).bind fun p => unswayed_expose plan key w p
      cases isFinalized w with
      | true => exact .pure ()
      | false => exact Unswayed.during (.cluster (by nofun)) _

theorem unswayed_ofEvent (plan : Plan) (event : StatefulSet) : Unswayed (ofEvent plan event) := by
  unfold ofEvent
  split
  · refine (Unswayed.ofExcept _ _).bind fun space => ?_
    refine (Unswayed.ofExcept _ _).bind fun name => ?_
    refine (Unswayed.cluster (by nofun)).bind fun found => ?_
    cases found with
    | none => exact .pure ()
    | some w => exact unswayed_settle plan _ w
  · exact .pure ()

/-! ## Worlds that list pods in different orders -/

/-- A world with these pods. -/
def World.withPods (w : World) (pods : List Pod) : World :=
  { w with cluster := { w.cluster with pods } }

/-- A clock whose world has these pods. -/
def Clock.withPods (t : Clock) (pods : List Pod) : Clock :=
  { t with world := t.world.withPods pods }

/-- A clock, and one whose world lists the same pods, but `pods` is how they are stored. -/
def Clock.Beside (pods : List Pod) (t u : Clock) : Prop :=
  u = t.withPods pods ∧ Relisted t.world.cluster.pods pods

theorem Alike.refl (a : Ask) (x : a.Answer) : Alike a x x := by
  cases a with
  | cluster c =>
    cases c with
    | listPods space selector => exact .inl rfl
    | _ => rfl
  | _ => rfl

/-- What is done with a call does not depend on the pods, and what is answered hardly does. -/
theorem perform_withPods {m : Memory} {pods : List Pod} (relisted : Relisted m.pods pods)
    (c : Call) :
    Alike (.cluster c) (Memory.perform c m).1 (Memory.perform c { m with pods }).1 ∧
      (Memory.perform c { m with pods }).2 = { (Memory.perform c m).2 with pods } := by
  have edited : ∀ key edit, Memory.editFinalizers { m with pods } key edit =
      ((m.editFinalizers key edit).1, { (m.editFinalizers key edit).2 with pods }) := by
    intro key edit
    unfold Memory.editFinalizers
    cases m.statefulSets.get? key <;> rfl
  cases c with
  | listPods space selector =>
    obtain ⟨distinct, same⟩ := relisted space selector
    exact ⟨.inr ⟨_, _, rfl, rfl, distinct, same⟩, rfl⟩
  | addFinalizer key finalizer =>
    simp only [Memory.perform, edited]
    exact ⟨rfl, trivial⟩
  | removeFinalizer key finalizer =>
    simp only [Memory.perform, edited]
    exact ⟨rfl, trivial⟩
  | createService space s =>
    simp only [Memory.perform]
    split <;> exact ⟨rfl, rfl⟩
  | _ => exact ⟨rfl, rfl⟩

theorem settle_withPods {m : Memory} {pods : List Pod} (relisted : Relisted m.pods pods)
    (c : Call) :
    Alike (.cluster c) (m.settle c).1 (Memory.settle c { m with pods }).1 ∧
      (Memory.settle c { m with pods }).2 = { (m.settle c).2 with pods } ∧
      (m.settle c).2.pods = m.pods := by
  have fails : Memory.fails { m with pods } c = m.fails c := rfl
  unfold Memory.settle
  rw [fails]
  cases m.fails c with
  | true => exact ⟨.refl _ _, rfl, rfl⟩
  | false =>
    obtain ⟨like, left⟩ := perform_withPods relisted c
    have kept : (Memory.perform c m).2.pods = m.pods := by
      obtain ⟨_, _, changed⟩ := Memory.perform_eq c m
      rw [changed]
    exact ⟨like, left, kept⟩

namespace Clock.Beside

variable {pods : List Pod} {t u : Clock}

theorem now (h : Beside pods t u) : u.now = t.now := by
  obtain ⟨rfl, -⟩ := h
  rfl

theorem underWay (h : Beside pods t u) : u.underWay = t.underWay := by
  obtain ⟨rfl, -⟩ := h
  rfl

theorem settleAt (h : Beside pods t u) (time : Nat) (c : Call) :
    Option.Rel (Alike (.cluster c)) (t.settleAt time c).1 (u.settleAt time c).1 ∧
      Beside pods (t.settleAt time c).2 (u.settleAt time c).2 := by
  obtain ⟨rfl, relisted⟩ := h
  obtain ⟨like, left, kept⟩ := settle_withPods relisted c
  have late : (t.withPods pods).deadline < time ↔ t.deadline < time := Iff.rfl
  unfold Clock.settleAt
  by_cases out : t.deadline < time
  · rw [if_pos out, if_pos (late.mpr out)]
    exact ⟨.none, rfl, relisted⟩
  · rw [if_neg out, if_neg (mt late.mp out)]
    refine ⟨.some like, ?_, ?_⟩
    · show ({ t.withPods pods with
          world := { t.world.withPods pods with
            cluster := (Memory.settle c { t.world.cluster with pods }).2 }
          now := time } : Clock) = _
      rw [left]
      rfl
    · show Relisted (t.world.cluster.settle c).2.pods pods
      rw [kept]
      exact relisted

theorem note (h : Beside pods t u) (c : Call) : Beside pods (t.note c) (u.note c) := by
  obtain ⟨rfl, relisted⟩ := h
  exact ⟨rfl, relisted⟩

theorem starts (h : Beside pods t u) (names : List String) :
    Beside pods (names.foldl Clock.start t) (names.foldl Clock.start u) := by
  induction names generalizing t u with
  | nil => exact h
  | cons name names ih =>
    obtain ⟨rfl, relisted⟩ := h
    exact ih ⟨rfl, relisted⟩

theorem queue (h : Beside pods t u) (underWay : List Nat) :
    Beside pods { t with underWay } { u with underWay } := by
  obtain ⟨rfl, relisted⟩ := h
  exact ⟨rfl, relisted⟩

theorem completion (h : Beside pods t u) (name : String) :
    ∃ time t' u', t.completion name = (time, t') ∧ u.completion name = (time, u') ∧
      Beside pods t' u' := by
  obtain ⟨rfl, relisted⟩ := h
  have queue : (t.withPods pods).underWay = t.underWay := rfl
  unfold Clock.completion
  rw [queue]
  cases t.underWay with
  | nil => exact ⟨_, _, _, rfl, rfl, rfl, relisted⟩
  | cons time _ => exact ⟨_, _, _, rfl, rfl, rfl, relisted⟩

/-- Clocks side by side answer alike and stay so. -/
theorem answer (h : Beside pods t u) (a : Ask) :
    Option.Rel (Alike a) (t.answer a).1 (u.answer a).1 ∧
      Beside pods (t.answer a).2 (u.answer a).2 := by
  cases a with
  | cluster c =>
    obtain ⟨rfl, relisted⟩ := h
    exact settleAt (note ⟨rfl, relisted⟩ c) _ c
  | compute c =>
    obtain ⟨rfl, relisted⟩ := h
    exact ⟨.some rfl, rfl, relisted⟩
  | node name ahead =>
    obtain ⟨time, t', u', known, known', begun⟩ := h.completion name
    have started := begun.starts (ahead.drop t'.underWay.tail.length)
    simp only [Clock.answer, Clock.lookup, known, known', begun.now, begun.underWay,
      started.underWay]
    split
    · exact settleAt (begun.queue _) _ _
    · exact settleAt (started.queue _) _ _

end Clock.Beside

/-- A pass that is not swayed has one result in both worlds and leaves them side by side. -/
theorem Unswayed.attempt {p : Pass α} (h : Unswayed p) {pods : List Pod} {t : Clock}
    (relisted : Relisted t.world.cluster.pods pods) :
    p.run.attempt Clock.answer (t.withPods pods) =
      ((p.run.attempt Clock.answer t).1, (p.run.attempt Clock.answer t).2.withPods pods) := by
  have answers : ∀ a t u, Clock.Beside pods t u → Option.Rel (Alike a) (t.answer a).1
      (u.answer a).1 ∧ Clock.Beside pods (t.answer a).2 (u.answer a).2 := fun a _ _ h => h.answer a
  obtain ⟨value, left, -⟩ := Indifferent.attempt answers h ⟨rfl, relisted⟩
  exact Prod.ext value left

end Pass

/-- A state whose world has these pods. -/
def Operator.State.withPods (s : State) (pods : List Pod) : State :=
  { s with world := s.world.withPods pods }

/-- An operator's pass does not depend on how the pods are listed. -/
theorem Operator.pass_withPods (o : Operator) (event : StatefulSet) {s : State} {pods : List Pod}
    (relisted : Relisted s.world.cluster.pods pods) :
    o.pass event (s.withPods pods) = ((o.pass event s).1, (o.pass event s).2.withPods pods) := by
  have attempted := (Pass.unswayed_ofEvent o.plan event).attempt (t := o.clock s) relisted
  simp only [pass, show o.clock (s.withPods pods) = (o.clock s).withPods pods from rfl, attempted]
  rfl

end ReplicaPorts
