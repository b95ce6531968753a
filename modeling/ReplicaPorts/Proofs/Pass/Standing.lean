import ReplicaPorts.Proofs.Pass.Outcome

/-!
# The standing of a workload

Before a pass does anything it reads the workload and looks at three things: whether the workload is
annotated, whether it is held by the finalizer, and whether it is being deleted. A workload may be
left alone (`LeftAlone`): then reading it was all that the pass did. It may be forsaken
(`Forsaken`), held but no longer annotated: then the pass lets it go and does nothing else.

Of the event that starts a pass nothing counts but the key, and that the event is managed; a pass
for one that is not does nothing at all. `pass_by_standing` says all of this of the passes of an
operator, in every world, whatever calls fail and however long they take.
-/

set_option autoImplicit false

namespace ReplicaPorts

open Cluster

namespace Pass

variable {plan : Plan} {key : ObjectKey} {event event' w : StatefulSet}

/-- Whether an object is annotated or held, so that there may be something to do for it. -/
def isManaged (w : StatefulSet) : Bool := hasPayload w || isFinalized w

/-- There is nothing to do for what is stored under a key. -/
inductive LeftAlone : Option StatefulSet → Prop where
  | absent : LeftAlone none
  /-- It is neither annotated nor held. -/
  | unmanaged {w : StatefulSet} (plain : hasPayload w = false) (free : isFinalized w = false) :
      LeftAlone (some w)
  /-- It is on its way out, and nothing was ever done for it. -/
  | departing {w : StatefulSet} (annotated : hasPayload w = true) (deleted : isDeleted w = true)
      (free : isFinalized w = false) : LeftAlone (some w)

/-- A workload is held, and its annotation is gone. -/
structure Forsaken (w : StatefulSet) : Prop where
  plain : hasPayload w = false
  held : isFinalized w = true

theorem payloadText?_of_plain (plain : hasPayload w = false) : payloadText? w = none := by
  simpa [hasPayload] using plain

theorem settle_leftAlone (alone : LeftAlone (some w)) : settle plan key w = pure () := by
  cases alone with
  | unmanaged plain free => simp [settle, payloadText?_of_plain plain, free]
  | departing annotated deleted free =>
    obtain ⟨text, spelled⟩ := Option.isSome_iff_exists.mp annotated
    simp [settle, spelled, deleted, free]

theorem settle_forsaken (forsaken : Forsaken w) : settle plan key w = letGo key := by
  simp [settle, payloadText?_of_plain forsaken.plain, forsaken.held]

/-! ## Events -/

theorem ofEvent_unmanaged (unmanaged : isManaged event = false) :
    ofEvent plan event = pure () := by
  unfold isManaged at unmanaged
  simp only [ofEvent, unmanaged]
  rfl

/-- Two managed events of one name start the same pass. -/
theorem ofEvent_congr (managed : isManaged event = true) (managed' : isManaged event' = true)
    (space : event'.metadata.space = event.metadata.space)
    (name : event'.metadata.name = event.metadata.name) :
    ofEvent plan event' = ofEvent plan event := by
  unfold isManaged at managed managed'
  simp only [ofEvent, managed, managed', space, name]

/-! ## Against a clock -/

variable {α : Type} {c : Call} {t : Clock}

/-- A call gets an answer before the deadline, and it is not told to fail. -/
structure Clock.Serves (t : Clock) (c : Call) : Prop where
  inTime : t.now + t.delayOf c ≤ t.deadline
  served : t.world.cluster.fails c = false

/-- A call to the cluster is answered as in a world without a clock, unless it is late. -/
theorem Clock.answer_cluster (t : Clock) (c : Call) :
    t.answer (.cluster c) =
      if t.deadline < t.now + t.delayOf c then (none, { t.note c with now := t.deadline })
      else (some (t.world.cluster.answer c).1,
        { t with
          world := { t.world with cluster := (t.world.cluster.answer c).2 }
          now := t.now + t.delayOf c }) := rfl

/-- A call is listed, whether it is answered or not, and leaves the Compute API alone. -/
theorem Clock.answer_lists (c : Call) (t : Clock) :
    (t.answer (.cluster c)).2.world.compute = t.world.compute ∧
    (t.answer (.cluster c)).2.world.cluster.calls = t.world.cluster.calls ++ [c] := by
  rw [answer_cluster]
  split
  · exact ⟨rfl, rfl⟩
  · exact ⟨rfl, Memory.answer_calls c t.world.cluster⟩

/-- A pass that begins with a call to the cluster, against a clock. -/
theorem attempt_cluster_bind (c : Call) (f : c.Value → Pass α) (t : Clock) :
    (cluster c >>= f).run.attempt Clock.answer t =
      match t.answer (.cluster c) with
      | (none, t) => (none, t)
      | (some (.ok a), t) => (f a).run.attempt Clock.answer t
      | (some (.error e), t) => (some (.error (.cluster e)), t) := by
  show ((Program.call (S := asks) (.cluster c)).bind _).attempt Clock.answer t = _
  simp only [Program.call, Program.ask_bind, Program.attempt]
  rcases t.answer (.cluster c) with ⟨_ | x, t⟩
  · rfl
  · cases x <;> rfl

/-- Letting a workload go is one call. -/
theorem attempt_letGo (key : ObjectKey) (t : Clock) :
    ((letGo key).run.attempt Clock.answer t).2 =
      (t.answer (.cluster (.removeFinalizer key finalizer))).2 := by
  show (Program.attempt Clock.answer
    (.ask (S := asks) (.cluster (.removeFinalizer key finalizer)) fun x => .done _) t).2 = _
  simp only [Program.attempt]
  rcases t.answer (.cluster (.removeFinalizer key finalizer)) with ⟨_ | x, u⟩ <;> rfl

/-- A pass for an announced workload reads it, which changes nothing; it ends there if that is not
served, and otherwise goes by what is stored. -/
theorem attempt_ofEvent (plan : Plan) (announced : Announces event key) (t : Clock) :
    ∃ u : Clock, u.world = t.world.note (.getStatefulSet key) ∧
      ((¬ t.Serves (.getStatefulSet key) ∧
          ∃ r, (ofEvent plan event).run.attempt Clock.answer t = (r, u)) ∨
        (ofEvent plan event).run.attempt Clock.answer t =
          (match t.world.cluster.statefulSets.get? key with
            | none => pure ()
            | some w => settle plan key w : Pass Unit).run.attempt Clock.answer u) := by
  rw [ofEvent_eq announced, attempt_cluster_bind, Clock.answer_cluster]
  by_cases late : t.deadline < t.now + t.delayOf (.getStatefulSet key)
  · rw [if_pos late]
    exact ⟨_, rfl, .inl ⟨fun h => absurd h.inTime (Nat.not_le.mpr late), _, rfl⟩⟩
  rw [if_neg late]
  cases fails : t.world.cluster.fails (.getStatefulSet key) with
  | true =>
    rw [Memory.answer_of_fails fails]
    refine ⟨_, rfl, .inl ⟨fun h => ?_, _, rfl⟩⟩
    rw [h.served] at fails
    cases fails
  | false =>
    have found : t.world.cluster.answer (.getStatefulSet key) =
        (.ok (t.world.cluster.statefulSets.get? key), t.world.cluster.note (.getStatefulSet key)) :=
      Memory.answer_of_not_fails fails
    rw [found]
    refine ⟨{ t.note (.getStatefulSet key) with now := t.now + t.delayOf (.getStatefulSet key) },
      rfl, .inr ?_⟩
    cases t.world.cluster.statefulSets.get? key <;> rfl

/-- Over what may be left alone a pass only reads. -/
theorem attempt_leftAlone (plan : Plan) (announced : Announces event key) (t : Clock)
    (alone : LeftAlone (t.world.cluster.statefulSets.get? key)) :
    ((ofEvent plan event).run.attempt Clock.answer t).2.world =
        t.world.note (.getStatefulSet key) ∧
      (t.Serves (.getStatefulSet key) →
        ((ofEvent plan event).run.attempt Clock.answer t).1 = some (.ok ())) := by
  obtain ⟨u, noted, ⟨unserved, r, ended⟩ | settled⟩ := attempt_ofEvent plan announced t
  · rw [ended]
    exact ⟨noted, fun serves => absurd serves unserved⟩
  · rw [settled]
    cases stored : t.world.cluster.statefulSets.get? key with
    | none => exact ⟨noted, fun _ => rfl⟩
    | some w =>
      rw [stored] at alone
      simp only [settle_leftAlone alone]
      exact ⟨noted, fun _ => rfl⟩

/-- Over a forsaken workload a pass reads, and then lets the workload go. -/
theorem attempt_forsaken (plan : Plan) (announced : Announces event key) (t : Clock)
    (stored : t.world.cluster.statefulSets.get? key = some w) (forsaken : Forsaken w) :
    ((ofEvent plan event).run.attempt Clock.answer t).2.world.compute = t.world.compute ∧
    ∃ calls, ((ofEvent plan event).run.attempt Clock.answer t).2.world.cluster.calls =
        t.world.cluster.calls ++ .getStatefulSet key :: calls ∧
      (calls = [] ∨ calls = [.removeFinalizer key finalizer]) ∧
      (t.Serves (.getStatefulSet key) → calls = [.removeFinalizer key finalizer]) := by
  obtain ⟨u, noted, ⟨unserved, r, ended⟩ | settled⟩ := attempt_ofEvent plan announced t
  · rw [ended, noted]
    exact ⟨rfl, [], rfl, .inl rfl, fun serves => absurd serves unserved⟩
  · simp only [settled, stored, settle_forsaken forsaken]
    obtain ⟨compute, calls⟩ := Clock.answer_lists (.removeFinalizer key finalizer) u
    rw [attempt_letGo, compute, calls, noted]
    exact ⟨rfl, _, List.append_assoc .., .inr rfl, fun _ => rfl⟩

end Pass

namespace Operator

open Pass

/-- A pass is started by an event, in some state. An event that is not managed changes nothing and
costs no call. Of a managed one only the name counts: whatever else it carries, the pass is the
same. What then happens goes by what is stored under the name. What may be left alone is read, and
that is all; the pass succeeds if it could be read. A forsaken workload is let go, by the only
other call that the pass makes. -/
theorem pass_by_standing (o : Operator) (event : StatefulSet) (s : State) :
    (isManaged event = false →
      o.pass event s = (.ok (), { s with meter := s.meter.record (.ok ()) 0 })) ∧
    (∀ other, isManaged event = true → isManaged other = true →
      other.metadata.space = event.metadata.space → other.metadata.name = event.metadata.name →
        o.pass other s = o.pass event s) ∧
    ∀ key, Announces event key →
      (LeftAlone (s.world.cluster.statefulSets.get? key) →
        (o.pass event s).2.world = s.world.note (.getStatefulSet key) ∧
        ((o.clock s).Serves (.getStatefulSet key) → (o.pass event s).1 = .ok ())) ∧
      ∀ w, s.world.cluster.statefulSets.get? key = some w → Forsaken w →
        (o.pass event s).2.world.compute = s.world.compute ∧
        ∃ calls, (o.pass event s).2.world.cluster.calls =
            s.world.cluster.calls ++ .getStatefulSet key :: calls ∧
          (calls = [] ∨ calls = [.removeFinalizer key finalizer]) ∧
          ((o.clock s).Serves (.getStatefulSet key) →
            calls = [.removeFinalizer key finalizer]) := by
  refine ⟨fun unmanaged => ?_, fun other managed managed' space name => ?_,
    fun key announced => ⟨fun alone => ?_, fun w stored forsaken => ?_⟩⟩
  · simp only [pass, ofEvent_unmanaged unmanaged]
    rfl
  · simp only [pass, ofEvent_congr managed managed' space name]
  · obtain ⟨left, succeeds⟩ := attempt_leftAlone o.plan announced (o.clock s) alone
    refine ⟨left, fun serves => ?_⟩
    show Option.getD _ _ = _
    rw [succeeds serves]
    rfl
  · exact attempt_forsaken o.plan announced (o.clock s) stored forsaken

end Operator

end ReplicaPorts

namespace ReplicaPorts.Small

open Cluster Pass

/-- The workload without its annotation. -/
def plainWorkload : StatefulSet :=
  { workload with metadata := { workload.metadata with annotations := none } }

/-- The workload without its annotation, still held. -/
def forsakenWorkload : StatefulSet :=
  { plainWorkload with metadata := { plainWorkload.metadata with finalizers := some [finalizer] } }

/-- The small world with some workload in place of the small one. -/
def keeping (w : StatefulSet) : Operator.State where
  world := { world with cluster := cluster.putStatefulSet w }

/-- An event for the plain workload changes nothing; one that shows the small workload as it was
before its deletion is as good as one that shows it after; the plain workload is left alone, and the
forsaken one is let go. -/
theorem small_pass_by_standing :
    (operator.pass plainWorkload (keeping workload)).2.world = (keeping workload).world ∧
    operator.pass workload (keeping deletedWorkload) =
      operator.pass deletedWorkload (keeping deletedWorkload) ∧
    (operator.pass workload (keeping plainWorkload)).1 = .ok () ∧
    (operator.pass workload (keeping forsakenWorkload)).2.world.cluster.calls =
      [.getStatefulSet key, .removeFinalizer key finalizer] := by
  have serves : ∀ w, (operator.clock (keeping w)).Serves (.getStatefulSet key) :=
    fun _ => ⟨Nat.zero_le 300000, rfl⟩
  have alone : LeftAlone ((keeping plainWorkload).world.cluster.statefulSets.get? key) := by
    rw [show (keeping plainWorkload).world.cluster.statefulSets.get? key = some plainWorkload by
      decide +kernel]
    exact .unmanaged (by decide +kernel) (by decide +kernel)
  have forsaken : Forsaken forsakenWorkload := ⟨by decide +kernel, by decide +kernel⟩
  refine ⟨?_, ?_, ?_, ?_⟩
  · rw [(Operator.pass_by_standing operator plainWorkload (keeping workload)).1 (by decide +kernel)]
  · exact (Operator.pass_by_standing operator deletedWorkload (keeping deletedWorkload)).2.1
      workload (by decide +kernel) (by decide +kernel) rfl rfl
  · exact (((Operator.pass_by_standing operator workload (keeping plainWorkload)).2.2 key
      announces_workload).1 alone).2 (serves _)
  · obtain ⟨-, calls, made, -, lets⟩ :=
      ((Operator.pass_by_standing operator workload (keeping forsakenWorkload)).2.2 key
        announces_workload).2 forsakenWorkload (by decide +kernel) forsaken
    rw [made, lets (serves _)]
    rfl

end ReplicaPorts.Small
