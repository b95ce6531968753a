import ReplicaPorts.Cluster.Memory

/-!
# What calls do to a cluster in memory

A call changes workloads and services only, and is listed (`answer_eq`).
-/

set_option autoImplicit false

namespace ReplicaPorts.Cluster.Memory

/-- Carrying a call out leaves everything alone but the workloads and the services. -/
theorem perform_eq (c : Call) (m : Memory) :
    ∃ statefulSets services, (perform c m).2 = { m with statefulSets, services } := by
  cases c with
  | createService space s =>
    by_cases h : m.services.contains (serviceKey space s) = true
    · exact ⟨_, _, by simp only [perform, if_pos h]; rfl⟩
    · exact ⟨_, _, by simp only [perform, if_neg h]; rfl⟩
  | addFinalizer key finalizer =>
    cases h : m.statefulSets.get? key with
    | none => exact ⟨_, _, by simp only [perform, editFinalizers, h]; rfl⟩
    | some s => exact ⟨_, _, by simp only [perform, editFinalizers, h]; rfl⟩
  | removeFinalizer key finalizer =>
    cases h : m.statefulSets.get? key with
    | none => exact ⟨_, _, by simp only [perform, editFinalizers, h]; rfl⟩
    | some s => exact ⟨_, _, by simp only [perform, editFinalizers, h]; rfl⟩
  | _ => exact ⟨_, _, rfl⟩

/-- A call is listed, and beyond that changes workloads and services only. -/
theorem answer_eq (c : Call) (m : Memory) :
    ∃ statefulSets services,
      (answer c m).2 = { m with statefulSets, services, calls := m.calls ++ [c] } := by
  unfold answer settle
  split
  · exact ⟨_, _, rfl⟩
  · exact perform_eq c (m.note c)

@[simp] theorem answer_calls (c : Call) (m : Memory) : (answer c m).2.calls = m.calls ++ [c] := by
  obtain ⟨_, _, h⟩ := answer_eq c m
  rw [h]

@[simp] theorem answer_pods (c : Call) (m : Memory) : (answer c m).2.pods = m.pods := by
  obtain ⟨_, _, h⟩ := answer_eq c m
  rw [h]

@[simp] theorem answer_nodes (c : Call) (m : Memory) : (answer c m).2.nodes = m.nodes := by
  obtain ⟨_, _, h⟩ := answer_eq c m
  rw [h]

@[simp] theorem answer_failures (c : Call) (m : Memory) :
    (answer c m).2.failures = m.failures := by
  obtain ⟨_, _, h⟩ := answer_eq c m
  rw [h]

theorem answer_of_fails {m : Memory} {c : Call} (h : m.fails c = true) :
    answer c m = (.error (.injected c.method), m.note c) :=
  if_pos h

theorem answer_of_not_fails {m : Memory} {c : Call} (h : m.fails c = false) :
    answer c m = perform c (m.note c) :=
  if_neg (Bool.eq_false_iff.mp h)

/-- A call that writes nothing is only listed. -/
theorem answer_of_read {c : Call} (h : c.isWrite = false) (m : Memory) :
    (answer c m).2 = m.note c := by
  unfold answer settle
  split
  · rfl
  · cases c <;> first | rfl | cases h

/-! ## Workloads -/

/-- A workload with other finalizers. -/
def refinalized (edit : List String → List String) (s : StatefulSet) : StatefulSet :=
  { s with metadata := { s.metadata with
    finalizers := some (edit (s.metadata.finalizers.getD [])) } }

theorem editFinalizers_of_get? {m : Memory} {key : ObjectKey} {s : StatefulSet}
    (found : m.statefulSets.get? key = some s) (edit : List String → List String) :
    m.editFinalizers key edit =
      (.ok (), { m with statefulSets := m.statefulSets.insert key (refinalized edit s) }) := by
  simp only [editFinalizers, found]
  rfl

theorem editFinalizers_of_none {m : Memory} {key : ObjectKey}
    (missing : m.statefulSets.get? key = none) (edit : List String → List String) :
    m.editFinalizers key edit = (.error (.noStatefulSet key), m) := by
  simp only [editFinalizers, missing]

theorem get?_editFinalizers (m : Memory) (key k : ObjectKey) (edit : List String → List String) :
    (m.editFinalizers key edit).2.statefulSets.get? k =
      if k = key then (m.statefulSets.get? k).map (refinalized edit)
      else m.statefulSets.get? k := by
  unfold editFinalizers
  by_cases same : k = key
  · subst same
    cases found : m.statefulSets.get? k with
    | none => simp [found]
    | some s =>
      rw [if_pos rfl]
      exact Keyed.get?_insert_self ..
  · rw [if_neg same]
    cases m.statefulSets.get? key with
    | none => rfl
    | some s => exact Keyed.get?_insert_ne _ _ same

/-- Putting a finalizer on a workload either fails and is only listed, or it is on. -/
theorem answer_addFinalizer (m : Memory) (key : ObjectKey) (finalizer : String) :
    (∃ e, m.answer (.addFinalizer key finalizer) =
      (.error e, m.note (.addFinalizer key finalizer))) ∨
    ∃ s, m.statefulSets.get? key = some s ∧
      m.answer (.addFinalizer key finalizer) =
        (.ok (), { m.note (.addFinalizer key finalizer) with
          statefulSets :=
            m.statefulSets.insert key (refinalized (withFinalizer finalizer) s) }) := by
  cases fails : m.fails (.addFinalizer key finalizer) with
  | true => exact .inl ⟨_, answer_of_fails fails⟩
  | false =>
    rw [answer_of_not_fails fails]
    cases found : m.statefulSets.get? key with
    | none => exact .inl ⟨_, editFinalizers_of_none (m := m.note _) found _⟩
    | some s => exact .inr ⟨s, rfl, editFinalizers_of_get? (m := m.note _) found _⟩

/-- Every call leaves a workload as it is, up to its finalizers. -/
theorem get?_answer (c : Call) (m : Memory) (k : ObjectKey) :
    ∃ edit : List String → List String,
      (answer c m).2.statefulSets.get? k = (m.statefulSets.get? k).map (refinalized edit) ∨
      (answer c m).2.statefulSets.get? k = m.statefulSets.get? k := by
  have edited : ∀ key edit,
      ((m.note c).editFinalizers key edit).2.statefulSets.get? k =
        (m.statefulSets.get? k).map (refinalized edit) ∨
      ((m.note c).editFinalizers key edit).2.statefulSets.get? k = m.statefulSets.get? k := by
    intro key edit
    rw [get?_editFinalizers]
    split
    · exact .inl rfl
    · exact .inr rfl
  unfold answer settle
  split
  · exact ⟨id, .inr rfl⟩
  · cases c with
    | addFinalizer key finalizer => exact ⟨_, edited key _⟩
    | removeFinalizer key finalizer => exact ⟨_, edited key _⟩
    | createService space s =>
      refine ⟨id, .inr ?_⟩
      simp only [perform]
      split <;> rfl
    | _ => exact ⟨id, .inr rfl⟩

/-- Only calls about finalizers change workloads. -/
theorem answer_statefulSets {c : Call} (notAdd : ∀ key f, c ≠ .addFinalizer key f)
    (notRemove : ∀ key f, c ≠ .removeFinalizer key f) (m : Memory) :
    (answer c m).2.statefulSets = m.statefulSets := by
  unfold answer settle
  split
  · rfl
  · cases c with
    | addFinalizer key f => exact absurd rfl (notAdd key f)
    | removeFinalizer key f => exact absurd rfl (notRemove key f)
    | createService space s =>
      simp only [perform]
      split <;> rfl
    | _ => rfl

end ReplicaPorts.Cluster.Memory
