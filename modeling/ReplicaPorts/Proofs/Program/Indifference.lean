import Mathlib.Data.Option.Basic
import ReplicaPorts.Program

/-!
# Programs that do not tell answers apart

Some answers are alike to a program: whichever of them it gets, it goes on in one way
(`Indifferent`). Worlds that answer alike then lead it to one value, with everything asked of both
(`Indifferent.attempt`). A question whose answers are told apart may stand in such a program as long
as the program as a whole evens them out, so this is said of what follows a question and not of the
question.
-/

set_option autoImplicit false

namespace ReplicaPorts.Program

variable {S : Signature} {α β σ : Type} {alike : (op : S.Op) → S.Answer op → S.Answer op → Prop}

/-- A program goes on in one way after answers that are alike. -/
inductive Indifferent (alike : (op : S.Op) → S.Answer op → S.Answer op → Prop) :
    Program S α → Prop
  | done (a : α) : Indifferent alike (.done a)
  | ask (op : S.Op) (next : S.Answer op → Program S α)
      (same : ∀ x y, alike op x y → next x = next y)
      (rest : ∀ x, Indifferent alike (next x)) : Indifferent alike (.ask op next)

theorem Indifferent.bind {p : Program S α} {f : α → Program S β} (h : Indifferent alike p)
    (hf : ∀ a, Indifferent alike (f a)) : Indifferent alike (p.bind f) := by
  induction h with
  | done a => exact hf a
  | ask op next same _ ih =>
    exact .ask op _ (fun x y like => congrArg (·.bind f) (same x y like)) ih

/-- An operation of which only equal answers are alike. -/
theorem Indifferent.call {op : S.Op} (exact_ : ∀ x y, alike op x y → x = y) :
    Indifferent alike (call op) :=
  .ask op _ (fun x y like => by rw [exact_ x y like]) .done

/-- Worlds that answer alike, or both not at all, give one value and stay side by side. -/
theorem Indifferent.attempt {handle : (op : S.Op) → σ → Option (S.Answer op) × σ}
    {beside : σ → σ → Prop}
    (step : ∀ op s s', beside s s' → Option.Rel (alike op) (handle op s).1 (handle op s').1 ∧
      beside (handle op s).2 (handle op s').2)
    {p : Program S α} (h : Indifferent alike p) {s s' : σ} (start : beside s s') :
    (p.attempt handle s').1 = (p.attempt handle s).1 ∧
      beside (p.attempt handle s).2 (p.attempt handle s').2 := by
  induction h generalizing s s' with
  | done a => exact ⟨rfl, start⟩
  | ask op next same _ ih =>
    obtain ⟨answers, later⟩ := step op s s' start
    simp only [Program.attempt]
    generalize handle op s = x at answers later ⊢
    generalize handle op s' = y at answers later ⊢
    obtain ⟨answer, t⟩ := x
    obtain ⟨answer', t'⟩ := y
    cases answers with
    | none => exact ⟨rfl, later⟩
    | some like =>
      dsimp only
      rw [same _ _ like]
      exact ih _ later

end ReplicaPorts.Program
