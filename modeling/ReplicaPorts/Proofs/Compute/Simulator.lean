import ReplicaPorts.Compute.Simulator

/-!
# What calls do to a Compute API in memory

A call is listed; beyond that it does what it does to the store, or nothing if it is told to fail.
-/

set_option autoImplicit false

namespace ReplicaPorts.Compute.Simulator

theorem answer_of_injected {s : Simulator} {c : Call} {e : Error} (h : s.injected? c = some e) :
    s.answer c = (.error e, { s with calls := s.calls ++ [c] }) := by
  have noted : ({ s with calls := s.calls ++ [c] } : Simulator).injected? c = some e := h
  simp only [answer, noted]

theorem answer_of_not_injected {s : Simulator} {c : Call} (h : s.injected? c = none) :
    s.answer c = ((s.store.perform s.place c).1,
      { s with store := (s.store.perform s.place c).2, calls := s.calls ++ [c] }) := by
  have noted : ({ s with calls := s.calls ++ [c] } : Simulator).injected? c = none := h
  simp only [answer, noted]

/-- A call that succeeds is not told to fail, so it does what it does to the store. -/
theorem store_of_answer_ok {s : Simulator} {c : Call} {a : c.Value}
    (succeeds : (s.answer c).1 = .ok a) :
    (s.store.perform s.place c).1 = .ok a ∧
      (s.answer c).2.store = (s.store.perform s.place c).2 := by
  cases told : s.injected? c with
  | some e =>
    rw [answer_of_injected told] at succeeds
    cases succeeds
  | none =>
    rw [answer_of_not_injected told] at succeeds ⊢
    exact ⟨succeeds, rfl⟩

/-- What holds of the store and of what a call makes of it holds of the store after the call, whether
or not the call is told to fail. -/
theorem answer_keeps {P : Store → Prop} {s : Simulator} {c : Call} (before : P s.store)
    (performed : P (s.store.perform s.place c).2) : P (s.answer c).2.store := by
  cases told : s.injected? c with
  | some e =>
    rw [answer_of_injected told]
    exact before
  | none =>
    rw [answer_of_not_injected told]
    exact performed

/-- Beyond being listed, a call changes the store only. -/
theorem answer_eq (c : Call) (s : Simulator) :
    ∃ store, (s.answer c).2 = { s with store, calls := s.calls ++ [c] } := by
  cases h : s.injected? c with
  | some e => exact ⟨_, by rw [answer_of_injected h]⟩
  | none => exact ⟨_, by rw [answer_of_not_injected h]⟩

@[simp] theorem answer_calls (c : Call) (s : Simulator) :
    (s.answer c).2.calls = s.calls ++ [c] := by
  obtain ⟨_, h⟩ := answer_eq c s
  rw [h]

@[simp] theorem answer_place (c : Call) (s : Simulator) : (s.answer c).2.place = s.place := by
  obtain ⟨_, h⟩ := answer_eq c s
  rw [h]

@[simp] theorem answer_failures (c : Call) (s : Simulator) :
    (s.answer c).2.failures = s.failures := by
  obtain ⟨_, h⟩ := answer_eq c s
  rw [h]

end ReplicaPorts.Compute.Simulator
