import ReplicaPorts.Proofs.Pass.Avoidance
import ReplicaPorts.Proofs.Pass.Dismantling
import ReplicaPorts.Proofs.Pass.Timing

/-!
# The finalizer guards the resources

A workload is secured before the first of its resources is created, since the finalizer is put on
first, and stays so until all of them are gone, since it is taken off last and a removal counts only
if it succeeded or found nothing (`guards_remove`). Hence every pass guards what is watched
(`guards_ofEvent`), and in every scene that passes and others lead to, a workload with resources is
held (`finalizer_guards_resources`).
-/

set_option autoImplicit false

namespace ReplicaPorts.Pass

open Cluster Compute Program
open Relation (ReflTransGen)

variable {key : ObjectKey} {namePrefix : String} {w v : World}

/-- The stored workload carries the finalizer, and what is steady is so. -/
structure Secured (key : ObjectKey) (namePrefix : String) (w : World) : Prop extends
    Steady key namePrefix w where
  /-- The workload is held. -/
  held : Held key w

theorem Secured.watched (h : Secured key namePrefix w) : Watched key namePrefix w :=
  ⟨h.toSteady, .inl h.held⟩

theorem secured_stable : Stable (Outside key namePrefix) (Secured key namePrefix) :=
  fun _ _ h outside => ⟨outside.steady, outside.held h.held⟩

theorem watched_stable : Stable (Outside key namePrefix) (Watched key namePrefix) := by
  intro w v h outside
  refine ⟨outside.steady, h.held_or_gone.imp outside.held fun gone kind => ?_⟩
  rw [outside.store]
  exact gone kind

theorem Secured.answer (h : Secured key namePrefix w) {a : Ask}
    (away : stepOf? a ≠ some .finalizer) : Secured key namePrefix (w.answer a).2 :=
  ⟨h.toSteady.answer a, h.held.answer away⟩

/-- A pass that leaves finalizers alone keeps a workload secured. -/
theorem Guards.of_away {α : Type} {p : Pass α} (away : Away .finalizer p)
    (h : Secured key namePrefix w) :
    Guards key namePrefix p (fun _ => Secured key namePrefix) (Secured key namePrefix) w :=
  .of_takes secured_stable (fun _ h => h.watched)
    (fun t r takes ev mem _ known => known.answer (away t r takes ev mem)) h

/-! ## Adopting -/

theorem isFinalized_refinalized (s : StatefulSet) :
    isFinalized (Memory.refinalized (withFinalizer finalizer) s) = true := by
  simp only [isFinalized, Memory.refinalized, withFinalizer]
  split
  · simpa using ‹_›
  · simp

/-- After a finalizer was put on, the workload is held; if that failed, nothing changed. -/
theorem guards_addFinalizer (h : Watched key namePrefix w) :
    Guards key namePrefix (cluster (.addFinalizer key finalizer))
      (fun _ => Secured key namePrefix) (Watched key namePrefix) w := by
  refine Guards.cluster fun v later => ?_
  have now : Watched key namePrefix v := watched_stable.later h later
  have steady := now.toSteady.answer (.cluster (.addFinalizer key finalizer))
  refine ⟨now, fun _ put => ⟨steady, ?_⟩, fun _ failed => ⟨steady, ?_⟩⟩
  · rcases v.cluster.answer_addFinalizer key finalizer with ⟨e, answered⟩ | ⟨s, -, answered⟩
    · rw [answered] at put
      cases put
    · rw [answered]
      exact ⟨_, Keyed.get?_insert_self .., isFinalized_refinalized s⟩
  · rcases v.cluster.answer_addFinalizer key finalizer with ⟨e, answered⟩ | ⟨s, -, answered⟩
    · rw [answered]
      exact now.held_or_gone
    · rw [answered] at failed
      cases failed

/-- Adopting a workload keeps it watched. -/
theorem guards_adopt {plan : Plan} {s : StatefulSet} {text : String}
    (h : Watched key namePrefix w) (held : isFinalized s = true → Held key w) :
    Guards key namePrefix (adopt plan key s text) (fun _ => Watched key namePrefix)
      (Watched key namePrefix) w := by
  have rest : Away .finalizer
      (during .payload (ofExcept .payload (Payload.parse text)) >>= fun p => expose plan key s p) :=
    (Away.ofExcept _ _).during.bind fun p => expose_away plan key s p
  have secured : ∀ v, Secured key namePrefix v → Guards key namePrefix
      (during .payload (ofExcept .payload (Payload.parse text)) >>= fun p => expose plan key s p)
      (fun _ => Watched key namePrefix) (Watched key namePrefix) v := fun v h =>
    (Guards.of_away rest h).mono (fun _ _ h => h.watched) fun _ h => h.watched
  rw [adopt_eq]
  cases finalized : isFinalized s with
  | true => exact secured w ⟨h.toSteady, held finalized⟩
  | false =>
    exact ((guards_addFinalizer h).during .finalizer).bind fun _ v h => secured v h

/-! ## Taking down -/

/-- The workload is secured and the resources of some kinds are gone. -/
structure Cleared (key : ObjectKey) (namePrefix : String) (done : List Kind) (w : World) : Prop
    extends Secured key namePrefix w where
  /-- They are gone. -/
  gone : ∀ kind ∈ done, w.compute.store.find? kind ((Names.of namePrefix).resource kind) = none

theorem cleared_stable {done : List Kind} :
    Stable (Outside key namePrefix) (Cleared key namePrefix done) := by
  intro w v h outside
  refine ⟨secured_stable w v h.toSecured outside, fun kind mem => ?_⟩
  rw [outside.store]
  exact h.gone kind mem

/-- One more resource is removed, unless that fails; the workload stays secured. -/
theorem guards_remove {done : List Kind} (s : Step) {kind : Kind}
    (other : stepOfKind kind ≠ .finalizer) (h : Cleared key namePrefix done w) :
    Guards key namePrefix (remove s kind ((Names.of namePrefix).resource kind))
      (fun _ => Cleared key namePrefix (kind :: done)) (Secured key namePrefix) w := by
  refine ((Guards.compute_ask fun v later => ?_).bind fun _ v h => h).during s
  have now : Cleared key namePrefix done v := cleared_stable.later h later
  have secured : Secured key namePrefix
      { v with
        compute := (v.compute.answer (.delete kind ((Names.of namePrefix).resource kind))).2 } :=
    now.toSecured.answer (a := .compute _) fun same => other (Option.some.inj same)
  have kept := fun k mem =>
    find?_answer_delete kind ((Names.of namePrefix).resource kind) (now.gone k mem)
  have cleared := gone_of_answer_delete kind ((Names.of namePrefix).resource kind) now.genuine
  refine ⟨now.watched, ?_⟩
  generalize (v.compute.answer (.delete kind ((Names.of namePrefix).resource kind))).1 = r
    at cleared ⊢
  cases r with
  | ok _ => exact ⟨secured, List.forall_mem_cons.mpr ⟨cleared (by rintro _ ⟨⟩), kept⟩⟩
  | error e =>
    show Guards key namePrefix (compute (if e.isNotFound = true then _ else _)) _ _ _
    cases missing : e.isNotFound with
    | true =>
      refine ⟨secured, List.forall_mem_cons.mpr ⟨cleared ?_, kept⟩⟩
      rintro _ ⟨rfl⟩
      exact missing
    | false => exact secured

/-- The resources are removed, as far as none of that fails; the workload stays secured. -/
theorem guards_removeAll (h : Secured key namePrefix w) :
    Guards key namePrefix (removeAll (Names.of namePrefix))
      (fun _ => Cleared key namePrefix removalOrder.reverse) (Secured key namePrefix) w := by
  have start : Cleared key namePrefix [] w := ⟨h, by simp⟩
  refine (guards_remove .attachment (by decide) start).bind fun _ v h => ?_
  refine (guards_remove .rule (by decide) h).bind fun _ v h => ?_
  refine (guards_remove .backend (by decide) h).bind fun _ v h => ?_
  refine (guards_remove .group (by decide) h).bind fun _ v h => ?_
  exact guards_remove .firewall (by decide) h

/-- A workload is let go only where none of its resources is left. -/
theorem guards_letGo (h : Cleared key namePrefix removalOrder.reverse w) :
    Guards key namePrefix (letGo key) (fun _ => Watched key namePrefix) (Watched key namePrefix)
      w := by
  refine (Guards.cluster fun v later => ?_).during .finalizer
  have now : Cleared key namePrefix removalOrder.reverse v := cleared_stable.later h later
  have gone := fun kind => now.gone kind (List.mem_reverse.mpr (mem_removalOrder kind))
  have steady := now.toSteady.answer (.cluster (.removeFinalizer key finalizer))
  exact ⟨now.watched, fun _ _ => ⟨steady, .inr gone⟩, fun _ _ => ⟨steady, .inr gone⟩⟩

/-- Taking the resources of a secured workload down keeps it watched. -/
theorem guards_dismantle {text : String} (h : Secured key namePrefix w)
    (named : ∀ p, Payload.decode text = .ok p → p.namePrefix = namePrefix) :
    Guards key namePrefix (dismantle key text) (fun _ => Watched key namePrefix)
      (Watched key namePrefix) w := by
  have drop : ∀ service, Away .finalizer (dropService service) :=
    fun service => (Away.cluster (by simp [stepOf?])).forgiven
  have decode : Guards key namePrefix (ofExcept .payload (Payload.decode text))
      (fun p v => Payload.decode text = .ok p ∧ v = w) (Watched key namePrefix) w :=
    (Guards.ofExcept w).mono (fun _ _ known => known) fun v same => same ▸ h.watched
  refine (decode.during .payload).bind ?_
  intro p v known
  obtain ⟨decoded, rfl⟩ := known
  rw [named p decoded]
  refine Guards.bind ((Guards.of_away (drop _) h).mono (fun _ _ h => h) fun _ h => h.watched) ?_
  intro _ v h
  exact ((guards_removeAll h).mono (fun _ _ h => h) fun _ h => h.watched).bind
    fun _ v h => guards_letGo h

/-! ## Whole passes -/

/-- Doing for the stored workload what has to be done keeps it watched. -/
theorem guards_settle {plan : Plan} {s : StatefulSet} (h : Watched key namePrefix w)
    (stored : w.cluster.statefulSets.get? key = some s) :
    Guards key namePrefix (settle plan key s) (fun _ => Watched key namePrefix)
      (Watched key namePrefix) w := by
  obtain ⟨text, annotated, named⟩ := h.annotated s stored
  have nothing : Guards key namePrefix (pure ()) (fun _ => Watched key namePrefix)
    (Watched key namePrefix) w := h
  simp only [settle, annotated]
  cases isDeleted s with
  | false => exact guards_adopt h fun finalized => ⟨s, stored, finalized⟩
  | true =>
    cases finalized : isFinalized s with
    | false => exact nothing
    | true => exact guards_dismantle ⟨h.toSteady, s, stored, finalized⟩ named

/-- What is read is stored, until the next call. -/
theorem guards_read (h : Watched key namePrefix w) :
    Guards key namePrefix (cluster (.getStatefulSet key))
      (fun found v => Watched key namePrefix v ∧
        ∀ s, found = some s → v.cluster.statefulSets.get? key = some s)
      (Watched key namePrefix) w := by
  refine Guards.cluster fun v later => ?_
  have now : Watched key namePrefix v := watched_stable.later h later
  have read := Memory.answer_of_read (c := .getStatefulSet key) rfl v.cluster
  rw [read]
  refine ⟨now, fun found answered => ⟨⟨⟨now.genuine, now.annotated⟩, now.held_or_gone⟩, ?_⟩,
    fun _ _ => ⟨⟨now.genuine, now.annotated⟩, now.held_or_gone⟩⟩
  intro s known
  obtain rfl := known
  cases fails : v.cluster.fails (.getStatefulSet key) with
  | true =>
    rw [Memory.answer_of_fails fails] at answered
    cases answered
  | false =>
    rw [Memory.answer_of_not_fails fails] at answered
    exact Except.ok.inj answered

/-- An event is about no workload but that of a key. -/
def Concerns (event : StatefulSet) (key : ObjectKey) : Prop :=
  ∀ space name, event.metadata.space = some space → event.metadata.name = some name →
    (⟨space, name⟩ : ObjectKey) = key

/-- A pass for a workload keeps it watched. -/
theorem guards_ofEvent {plan : Plan} {event : StatefulSet} (concerns : Concerns event key)
    (h : Watched key namePrefix w) :
    Guards key namePrefix (ofEvent plan event) (fun _ => Watched key namePrefix)
      (Watched key namePrefix) w := by
  cases managed : hasPayload event || isFinalized event with
  | false =>
    simp only [ofEvent, managed]
    exact h
  | true =>
    cases atSpace : event.metadata.space with
    | none =>
      simp only [ofEvent, managed, atSpace]
      exact h
    | some space =>
      cases named : event.metadata.name with
      | none =>
        simp only [ofEvent, managed, atSpace, named]
        exact h
      | some name =>
        obtain rfl := concerns space name atSpace named
        have announces : Announces event ⟨space, name⟩ := ⟨atSpace, named, managed⟩
        rw [ofEvent_eq announces]
        refine (guards_read h).bind ?_
        intro found v known
        obtain ⟨now, stored⟩ := known
        cases found with
        | none => exact now
        | some s => exact guards_settle now (stored s rfl)

/-- A pass for a workload is begun, of whichever plan and for whichever event. -/
def Begins (key : ObjectKey) (p : Program asks (Except Error Unit)) : Prop :=
  ∃ plan event, Concerns event key ∧ p = (ofEvent plan event).run

/-- The passes of an operator are among these: its delays and its deadline only decide which calls
are listed early and where a pass is left off. -/
theorem pass_reaches (o : Operator) {event : StatefulSet} (concerns : Concerns event key)
    {s : Operator.State} (steady : Steady key namePrefix s.world) :
    ReflTransGen (Moves World.answer (Begins key) (Outside key namePrefix)) ⟨s.world, none⟩
      ⟨(o.pass event s).2.world, none⟩ :=
  ReflTransGen.head (.begin ⟨o.plan, event, concerns, rfl⟩)
    (attempt_reaches (t := o.clock s) _ (.refl _) steady)

/-- Where resources of a prefix exist, the workload that asks for the prefix is held: whatever
passes are begun for it, answered and left off at any call, and whatever others do in between, as
long as they keep the annotation and the prefix, do not take the finalizer off and let failures of
deletions tell the truth. -/
theorem finalizer_guards_resources {w : World} (empty : w.compute.store = {})
    (steady : Steady key namePrefix w) {scene : Scene asks World (Except Error Unit)}
    (reaches : ReflTransGen (Moves World.answer (Begins key) (Outside key namePrefix)) ⟨w, none⟩
      scene) (kind : Kind)
    (present : (scene.state.compute.store.find? kind
      ((Names.of namePrefix).resource kind)).isSome = true) : Held key scene.state := by
  have start : Watched key namePrefix w := by
    refine ⟨steady, .inr fun kind => ?_⟩
    rw [empty]
    rfl
  have watched : Watched key namePrefix scene.state := by
    refine invariant_reaches watched_stable ?_ start reaches
    rintro _ ⟨plan, event, concerns, rfl⟩ v h
    refine Guarded.mono (guards_ofEvent concerns h) fun r v known => ?_
    cases r <;> exact known
  refine watched.held_or_gone.resolve_right fun gone => ?_
  rw [gone kind] at present
  cases present

theorem small_steady : Steady Small.key "db-" Small.world where
  genuine := by rintro kind name ⟨⟩
  annotated := by
    intro s stored
    obtain rfl : Small.workload = s := Option.some.inj (Small.get?_key.symm.trans stored)
    refine ⟨Small.text, Small.payloadText?_workload, fun p decoded => ?_⟩
    obtain rfl : Small.payload = p := Except.ok.inj (Small.decode_text.symm.trans decoded)
    rfl

/-- An operator's pass over a small workload brings the firewall about, and the workload is held. -/
theorem small_finalizer_guards_resources : ∃ w : World,
    Small.world.compute.store = {} ∧ Steady Small.key "db-" Small.world ∧
    ReflTransGen (Moves World.answer (Begins Small.key) (Outside Small.key "db-"))
      ⟨Small.world, none⟩ ⟨w, none⟩ ∧
    (w.compute.store.find? .firewall ((Names.of "db-").resource .firewall)).isSome = true ∧
    Held Small.key w := by
  have concerns : Concerns Small.workload Small.key := by
    rintro _ _ ⟨rfl⟩ ⟨rfl⟩
    rfl
  obtain ⟨w, reaches, present⟩ : ∃ w : World,
      ReflTransGen (Moves World.answer (Begins Small.key) (Outside Small.key "db-"))
        ⟨Small.world, none⟩ ⟨w, none⟩ ∧
      (w.compute.store.find? .firewall ((Names.of "db-").resource .firewall)).isSome = true :=
    ⟨_, pass_reaches Small.operator concerns (s := ⟨Small.world, ∅, .empty⟩) small_steady,
      by decide +kernel⟩
  exact ⟨w, rfl, small_steady, reaches, present,
    finalizer_guards_resources rfl small_steady reaches .firewall present⟩

end ReplicaPorts.Pass
