import ReplicaPorts.Program

/-!
# Invariants of runs

An invariant of the handler holds after a run (`run_keeps`), and what every answer given under it is
known to be, all events of a trace are (`forall_mem_trace`). What the questions that are asked keep
holds in every state that the run passes through (`forall_mem_states`). A log that grows with every
answer grows by what the trace adds to it (`log_run`).
-/

set_option autoImplicit false

namespace ReplicaPorts.Program

variable {S : Signature} {α σ : Type} {handle : Handler S σ}

/-- What is known of every answer that is given under an invariant is known of a whole trace. -/
theorem forall_mem_trace (inv : σ → Prop) {known : Event S → Prop}
    (step : ∀ op s, inv s → inv (handle op s).2)
    (answers : ∀ op s, inv s → known ⟨op, (handle op s).1⟩) (p : Program S α) {s : σ} (h : inv s) :
    ∀ ev ∈ p.trace handle s, known ev := by
  induction p generalizing s with
  | done a => exact fun _ mem => (List.not_mem_nil mem).elim
  | ask op next ih => exact List.forall_mem_cons.mpr ⟨answers op s h, ih _ (step op s h)⟩

/-- What no question changes holds at the end if it held at the beginning. -/
theorem run_keeps (inv : σ → Prop) (step : ∀ op s, inv s → inv (handle op s).2) (p : Program S α)
    {s : σ} (h : inv s) : inv (p.run handle s).2 := by
  induction p generalizing s with
  | done a => exact h
  | ask op next ih => exact ih _ (step op s h)

/-- The states that a run passes through: that before each question, and that at the end. -/
def states (handle : Handler S σ) : Program S α → σ → List σ
  | done _, s => [s]
  | ask op next, s => s :: (next (handle op s).1).states handle (handle op s).2

theorem run_mem_states (p : Program S α) (s : σ) : (p.run handle s).2 ∈ p.states handle s := by
  induction p generalizing s with
  | done a => exact List.mem_singleton_self s
  | ask op next ih => exact List.mem_cons_of_mem _ (ih _ _)

/-- What every question that is asked keeps holds in all states on the way. -/
theorem forall_mem_states {inv : σ → Prop} (p : Program S α) {s : σ}
    (kept : ∀ ev ∈ p.trace handle s, ∀ t, inv t → inv (handle ev.op t).2) (h : inv s) :
    ∀ t ∈ p.states handle s, inv t := by
  induction p generalizing s with
  | done a => exact List.forall_mem_singleton.mpr h
  | ask op next ih =>
    obtain ⟨now, later⟩ := List.forall_mem_cons.mp kept
    exact List.forall_mem_cons.mpr ⟨h, ih _ later (now s h)⟩

/-- A log to which every answer adds what a function reads off the operation. -/
theorem log_run {β : Type} (log : σ → List β) (noted? : S.Op → Option β)
    (step : ∀ op s, log (handle op s).2 = log s ++ (noted? op).toList) (p : Program S α) (s : σ) :
    log (p.run handle s).2 = log s ++ (p.trace handle s).filterMap fun ev => noted? ev.op := by
  induction p generalizing s with
  | done a => exact (List.append_nil _).symm
  | ask op next ih =>
    rw [run_ask, trace_ask, ih, step, List.append_assoc]
    cases h : noted? op <;> simp [h]

end ReplicaPorts.Program
