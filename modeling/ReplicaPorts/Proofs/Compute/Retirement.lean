import ReplicaPorts.Compute.Provision
import ReplicaPorts.Proofs.Compute.Simulator
import ReplicaPorts.Proofs.Compute.Usage

/-!
# Retiring one resource

What `retire` does to a simulator: it asks for one deletion, and if that is not told to fail and
nothing refers to the resource, the resource is gone afterwards, whether it was there or not.
A simulator is `Genuine` when no deletion is told to fail as if the resource were missing; such a
failure would pass for a deletion.
-/

set_option autoImplicit false

namespace ReplicaPorts.Compute

variable {s : Simulator} {kind : Kind} {name : String} {e : Error}

/-- No deletion is told to fail as if there were nothing to delete. -/
def Simulator.Genuine (s : Simulator) : Prop :=
  ∀ kind name, s.failures.get? (Call.delete kind name).method ≠ some 404

theorem Simulator.Genuine.isNotFound (genuine : s.Genuine)
    (h : s.injected? (.delete kind name) = some e) : e.isNotFound = false := by
  obtain ⟨status, told, rfl⟩ := Option.map_eq_some_iff.mp h
  have ne : status ≠ 404 := fun same => genuine kind name (same ▸ told)
  simp only [ne, if_false]
  split <;> rfl

/-- A deletion brings nothing about. -/
theorem find?_answer_delete (kind : Kind) (name : String) {k : Kind} {n : String}
    (missing : s.store.find? k n = none) :
    (s.answer (.delete kind name)).2.store.find? k n = none := by
  have deleted : (s.store.delete s.place kind name).2.find? k n = none := by
    obtain ⟨e, refused⟩ | ⟨-, -, deleted⟩ := s.store.delete_cases s.place kind name
    · rwa [refused]
    · rw [deleted]
      refine Option.eq_none_iff_forall_ne_some.mpr fun m' found => ?_
      rw [Store.find?_of_find?_drop found] at missing
      cases missing
  exact @Simulator.answer_keeps (fun store => store.find? k n = none) _ _ missing deleted

/-- After a deletion that succeeds, or that finds nothing, the resource is gone. -/
theorem gone_of_answer_delete (kind : Kind) (name : String) (genuine : s.Genuine)
    (accepted : ∀ e, (s.answer (.delete kind name)).1 = .error e → e.isNotFound = true) :
    (s.answer (.delete kind name)).2.store.find? kind name = none := by
  cases injected : s.injected? (.delete kind name) with
  | some e =>
    rw [Simulator.answer_of_injected injected] at accepted
    have missing := accepted e rfl
    rw [genuine.isNotFound injected] at missing
    cases missing
  | none =>
    rw [Simulator.answer_of_not_injected injected] at accepted ⊢
    have performed : s.store.perform s.place (.delete kind name) =
      s.store.delete s.place kind name := rfl
    rw [performed] at accepted ⊢
    cases unused : s.store.userOf? s.place kind name with
    | some user =>
      simp only [Store.delete, unused] at accepted
      cases accepted _ rfl
    | none =>
      cases present : s.store.find? kind name with
      | none =>
        rw [Store.delete_missing unused present]
        exact present
      | some m =>
        rw [Store.delete_eq_drop unused (by rw [present]; rfl)]
        exact Store.find?_drop_self

theorem asked_retire (handle : Handler calls Simulator) (s : Simulator) :
    ((retire kind name).trace handle s).map (·.op) = [.delete kind name] := by
  simp only [retire, request, Program.call, Program.bind_eq, Program.ask_bind, Program.done_bind,
    Program.trace_ask]
  split
  · rfl
  · split <;> rfl

theorem retire_injected (genuine : s.Genuine) (h : s.injected? (.delete kind name) = some e) :
    (retire kind name).run Simulator.answer s =
      (.error e, { s with calls := s.calls ++ [.delete kind name] }) := by
  simp only [retire, request, Program.call, Program.bind_eq, Program.ask_bind, Program.done_bind,
    Program.run_ask, Simulator.answer_of_injected h, genuine.isNotFound h]
  rfl

theorem retire_unused (h : s.injected? (.delete kind name) = none)
    (unused : s.store.userOf? s.place kind name = none) (paired : s.store.Paired) :
    ∃ present, (retire kind name).run Simulator.answer s =
      (.ok present,
        { s with store := s.store.drop kind name, calls := s.calls ++ [.delete kind name] }) := by
  simp only [retire, request, Program.call, Program.bind_eq, Program.ask_bind, Program.done_bind,
    Program.run_ask, Simulator.answer_of_not_injected h, Store.perform]
  cases found : s.store.find? kind name with
  | some m =>
    rw [Store.delete_eq_drop unused (by rw [found]; rfl)]
    exact ⟨true, rfl⟩
  | none =>
    rw [Store.delete_missing unused found, Store.drop_of_missing paired found]
    exact ⟨false, rfl⟩

end ReplicaPorts.Compute
