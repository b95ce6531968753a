import ReplicaPorts.Program

/-!
# Paths through programs

A path lists what a program asks, with answers that anybody may have given, up to the value that it
ends with. What holds on all paths holds whoever answers: a run of the program against a handler is
one of them (`path_run`). A path through two programs in a row is a path through the first and one
through the second (`path_bind_iff`).

Paths say nothing of the state in which an answer is given. Where the answers matter, the statement
that uses paths assumes what it needs of them.
-/

set_option autoImplicit false

namespace ReplicaPorts.Program

variable {S : Signature} {α β σ : Type}

/-- A program may ask these operations, get these answers, and end with this value. -/
inductive Path : Program S α → List (Event S) → α → Prop where
  | done (a : α) : Path (.done a) [] a
  | ask (op : S.Op) (next : S.Answer op → Program S α) (x : S.Answer op) {t : List (Event S)}
      {a : α} (rest : Path (next x) t a) : Path (.ask op next) (⟨op, x⟩ :: t) a

theorem path_done_iff {a b : α} {t : List (Event S)} :
    Path (.done a : Program S α) t b ↔ t = [] ∧ a = b := by
  constructor
  · rintro ⟨⟩
    exact ⟨rfl, rfl⟩
  · intro known
    obtain ⟨rfl, rfl⟩ := known
    exact .done a

theorem path_ask_iff {op : S.Op} {next : S.Answer op → Program S α} {t : List (Event S)} {a : α} :
    Path (.ask op next) t a ↔ ∃ x t', t = ⟨op, x⟩ :: t' ∧ Path (next x) t' a := by
  constructor
  · rintro ⟨⟩
    exact ⟨_, _, rfl, ‹_›⟩
  · intro known
    obtain ⟨x, t', rfl, rest⟩ := known
    exact .ask op next x rest

theorem path_call_iff {op : S.Op} {t : List (Event S)} {x : S.Answer op} :
    Path (call op) t x ↔ t = [⟨op, x⟩] := by
  simp only [call, path_ask_iff, path_done_iff]
  constructor
  · intro known
    obtain ⟨y, t', rfl, rfl, rfl⟩ := known
    rfl
  · intro known
    obtain rfl := known
    exact ⟨x, [], rfl, rfl, rfl⟩

/-- A path through two programs in a row is a path through each. -/
theorem path_bind_iff {p : Program S α} {f : α → Program S β} {t : List (Event S)} {b : β} :
    Path (p.bind f) t b ↔ ∃ t₁ a t₂, t = t₁ ++ t₂ ∧ Path p t₁ a ∧ Path (f a) t₂ b := by
  induction p generalizing t with
  | done a =>
    constructor
    · intro h
      exact ⟨[], a, t, rfl, .done a, h⟩
    · intro known
      obtain ⟨t₁, a', t₂, rfl, h₁, h₂⟩ := known
      obtain ⟨rfl, rfl⟩ := path_done_iff.mp h₁
      exact h₂
  | ask op next ih =>
    rw [ask_bind, path_ask_iff]
    constructor
    · intro known
      obtain ⟨x, t', rfl, h⟩ := known
      obtain ⟨t₁, a, t₂, rfl, h₁, h₂⟩ := (ih x).mp h
      exact ⟨⟨op, x⟩ :: t₁, a, t₂, rfl, .ask op next x h₁, h₂⟩
    · intro known
      obtain ⟨t₁, a, t₂, rfl, h₁, h₂⟩ := known
      obtain ⟨x, t', rfl, rest⟩ := path_ask_iff.mp h₁
      exact ⟨x, t' ++ t₂, rfl, (ih x).mpr ⟨t', a, t₂, rfl, rest, h₂⟩⟩

/-- What a handler makes of a program is one of its paths. -/
theorem path_run (handle : Handler S σ) (p : Program S α) (s : σ) :
    Path p (p.trace handle s) (p.run handle s).1 := by
  induction p generalizing s with
  | done a => exact .done a
  | ask op next ih => exact .ask op next _ (ih _ _)

end ReplicaPorts.Program
