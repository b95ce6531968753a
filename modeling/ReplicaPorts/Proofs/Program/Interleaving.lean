import ReplicaPorts.Program

/-!
# Programs side by side

Two programs are carried out in one state, their questions answered in some order (`Interleaves`);
one after the other are two of the orders. What a state stores lies in cells. A question is `Local`
to some of them if they decide its answer and it changes no other. Where two programs ask questions
that are local to cells of their own, neither notices the other: each comes to the value that it
comes to alone, with what it leaves in its cells (`Interleaves.apart`), so any two orders give the
same values and leave the same in every cell (`Interleaves.agree`).
-/

set_option autoImplicit false

namespace ReplicaPorts.Program

variable {S : Signature} {σ α β C : Type}

/-- Two programs come to their values from a state, and leave another, while their questions are
answered in some order. -/
inductive Interleaves (handle : Handler S σ) :
    Program S α → Program S β → σ → α → β → σ → Prop where
  | done (a : α) (b : β) (s : σ) : Interleaves handle (.done a) (.done b) s a b s
  /-- The first program asks. -/
  | left (op : S.Op) (next : S.Answer op → Program S α) {q : Program S β} {s t : σ} {a : α} {b : β}
      (rest : Interleaves handle (next (handle op s).1) q (handle op s).2 a b t) :
      Interleaves handle (.ask op next) q s a b t
  /-- The second program asks. -/
  | right (op : S.Op) (next : S.Answer op → Program S β) {p : Program S α} {s t : σ} {a : α} {b : β}
      (rest : Interleaves handle p (next (handle op s).1) (handle op s).2 a b t) :
      Interleaves handle p (.ask op next) s a b t

variable {handle : Handler S σ}

/-- The second program after the first is one order. -/
theorem interleaves_left_first (handle : Handler S σ) (p : Program S α) (q : Program S β) (s : σ) :
    Interleaves handle p q s (p.run handle s).1 (q.run handle (p.run handle s).2).1
      (q.run handle (p.run handle s).2).2 := by
  induction p generalizing s with
  | ask op next ih => exact .left op next (ih _ _)
  | done a =>
    induction q generalizing s with
    | done b => exact .done a b s
    | ask op next ih => exact .right op next (ih _ _)

/-- The first program after the second is another. -/
theorem interleaves_right_first (handle : Handler S σ) (p : Program S α) (q : Program S β) (s : σ) :
    Interleaves handle p q s (p.run handle (q.run handle s).2).1 (q.run handle s).1
      (p.run handle (q.run handle s).2).2 := by
  induction q generalizing s with
  | ask op next ih => exact .right op next (ih _ _)
  | done b =>
    induction p generalizing s with
    | done a => exact .done a b s
    | ask op next ih => exact .left op next (ih _ _)

/-- What no question changes is the same at the end, in whatever order they are answered. -/
theorem Interleaves.keeps {inv : σ → Prop} (step : ∀ op s, inv s → inv (handle op s).2)
    {p : Program S α} {q : Program S β} {s t : σ} {a : α} {b : β}
    (h : Interleaves handle p q s a b t) (start : inv s) : inv t := by
  induction h with
  | done a b s => exact start
  | left op next rest ih => exact ih (step op _ start)
  | right op next rest ih => exact ih (step op _ start)

/-! ## Cells -/

/-- A question is local to some cells, as long as an invariant holds: these cells decide the answer
and what is in them afterwards, and nothing else is changed. -/
structure Local (handle : Handler S σ) (same : C → σ → σ → Prop) (inv : σ → Prop) (own : C → Prop)
    (op : S.Op) : Prop where
  keeps : ∀ s, inv s → inv (handle op s).2
  frame : ∀ s, inv s → ∀ c, ¬ own c → same c s (handle op s).2
  answer : ∀ s t, inv s → inv t → (∀ c, own c → same c s t) → (handle op s).1 = (handle op t).1
  after : ∀ s t, inv s → inv t → (∀ c, own c → same c s t) →
    ∀ c, own c → same c (handle op s).2 (handle op t).2

variable {same : C → σ → σ → Prop} {inv : σ → Prop} {own own' : C → Prop}

/-- A program that asks nothing but what is local to some cells leaves the others as they were. -/
theorem run_frame (equivalence : ∀ c, Equivalence (same c)) {p : Program S α} {s : σ}
    (start : inv s) (asks : ∀ ev ∈ p.trace handle s, Local handle same inv own ev.op) {c : C}
    (other : ¬ own c) :
    same c s (p.run handle s).2 := by
  induction p generalizing s with
  | done a => exact (equivalence c).refl s
  | ask op next ih =>
    obtain ⟨local_, rest⟩ := List.forall_mem_cons.mp asks
    exact (equivalence c).trans (local_.frame s start c other)
      (ih _ (local_.keeps s start) rest)

/-- What is left by two programs side by side: each comes to its value as it does alone, from a
state that is the same in its cells, and leaves the same in them; all other cells are left alone. -/
structure Apart (handle : Handler S σ) (same : C → σ → σ → Prop) (own own' : C → Prop)
    (p : Program S α) (q : Program S β) (s₁ s₂ s : σ) (a : α) (b : β) (t : σ) : Prop where
  left : a = (p.run handle s₁).1
  right : b = (q.run handle s₂).1
  leftCells : ∀ c, own c → same c (p.run handle s₁).2 t
  rightCells : ∀ c, own' c → same c (q.run handle s₂).2 t
  otherCells : ∀ c, ¬ own c → ¬ own' c → same c s t

/-- Side by side, programs of which each keeps to cells of its own do as each does alone. -/
theorem Interleaves.apart (equivalence : ∀ c, Equivalence (same c))
    (disjoint : ∀ c, own c → ¬ own' c) {p : Program S α} {q : Program S β} {s t : σ} {a : α} {b : β}
    (h : Interleaves handle p q s a b t) {s₁ s₂ : σ} (start : inv s) (start₁ : inv s₁)
    (start₂ : inv s₂) (alike₁ : ∀ c, own c → same c s₁ s) (alike₂ : ∀ c, own' c → same c s₂ s)
    (asks₁ : ∀ ev ∈ p.trace handle s₁, Local handle same inv own ev.op)
    (asks₂ : ∀ ev ∈ q.trace handle s₂, Local handle same inv own' ev.op) :
    Apart handle same own own' p q s₁ s₂ s a b t := by
  -- `s₁` and `s₂` are where the programs are when each runs alone
  induction h generalizing s₁ s₂ with
  | done a b s => exact ⟨rfl, rfl, alike₁, alike₂, fun c _ _ => (equivalence c).refl s⟩
  | @left op next q s t a b _ ih =>
    obtain ⟨local_, asks₁⟩ := List.forall_mem_cons.mp asks₁
    have unnoticed : ∀ c, own' c → same c s₂ (handle op s).2 := fun c owned =>
      (equivalence c).trans (alike₂ c owned)
        (local_.frame s start c fun mine => disjoint c mine owned)
    have same_ := local_.answer s₁ s start₁ start alike₁
    have after := local_.after s₁ s start₁ start alike₁
    rw [← same_] at ih
    obtain ⟨left, right, leftCells, rightCells, otherCells⟩ :=
      ih (local_.keeps s start) (local_.keeps s₁ start₁) start₂ after unnoticed asks₁ asks₂
    exact ⟨left, right, leftCells, rightCells, fun c not not' =>
      (equivalence c).trans (local_.frame s start c not) (otherCells c not not')⟩
  | @right op next p s t a b _ ih =>
    obtain ⟨local_, asks₂⟩ := List.forall_mem_cons.mp asks₂
    have unnoticed : ∀ c, own c → same c s₁ (handle op s).2 := fun c owned =>
      (equivalence c).trans (alike₁ c owned) (local_.frame s start c (disjoint c owned))
    have same_ := local_.answer s₂ s start₂ start alike₂
    have after := local_.after s₂ s start₂ start alike₂
    rw [← same_] at ih
    obtain ⟨left, right, leftCells, rightCells, otherCells⟩ :=
      ih (local_.keeps s start) start₁ (local_.keeps s₂ start₂) unnoticed after asks₁ asks₂
    exact ⟨left, right, leftCells, rightCells, fun c not not' =>
      (equivalence c).trans (local_.frame s start c not') (otherCells c not not')⟩

/-- Any two orders give the same values and leave the same in every cell. -/
theorem Interleaves.agree (equivalence : ∀ c, Equivalence (same c))
    (disjoint : ∀ c, own c → ¬ own' c) {p : Program S α} {q : Program S β} {s t t' : σ} {a a' : α}
    {b b' : β} (h : Interleaves handle p q s a b t) (h' : Interleaves handle p q s a' b' t')
    (start : inv s) (asks₁ : ∀ ev ∈ p.trace handle s, Local handle same inv own ev.op)
    (asks₂ : ∀ ev ∈ q.trace handle s, Local handle same inv own' ev.op) :
    a = a' ∧ b = b' ∧ ∀ c, same c t t' := by
  have refl : ∀ c, same c s s := fun c => (equivalence c).refl s
  have one := h.apart equivalence disjoint start start start (fun c _ => refl c) (fun c _ => refl c)
    asks₁ asks₂
  have other := h'.apart equivalence disjoint start start start (fun c _ => refl c)
    (fun c _ => refl c) asks₁ asks₂
  refine ⟨one.left.trans other.left.symm, one.right.trans other.right.symm, fun c => ?_⟩
  by_cases mine : own c
  · exact (equivalence c).trans ((equivalence c).symm (one.leftCells c mine))
      (other.leftCells c mine)
  · by_cases theirs : own' c
    · exact (equivalence c).trans ((equivalence c).symm (one.rightCells c theirs))
        (other.rightCells c theirs)
    · exact (equivalence c).trans ((equivalence c).symm (one.otherCells c mine theirs))
        (other.otherCells c mine theirs)

end ReplicaPorts.Program
