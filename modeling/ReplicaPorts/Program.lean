/-!
# Programs that ask

A program either ends with a value or asks an operation and goes on with the answer. It is plain
data over a `Signature`, which says what may be asked and what the answers are; nothing in it
decides how a question is answered. A `Handler` answers one operation in a state; `Program.run`
answers all of them in turn, and `Program.trace` lists what was asked and what was answered.
`Program.attempt` is for worlds that may leave an operation without an answer, which ends the work
there, and `Program.interpret` carries a program out in any monad that can answer, such as programs
over another signature.

`run_bind` and `trace_bind` say that what a program does is what its parts do one after the other.
-/

set_option autoImplicit false

namespace ReplicaPorts

/-- What may be asked, and what is answered to it. -/
structure Signature where
  /-- The operations. -/
  Op : Type
  /-- The answers to an operation. -/
  Answer : Op → Type

/-- A program over a signature. -/
inductive Program (S : Signature) (α : Type) where
  /-- The end, with a value. -/
  | done (value : α)
  /-- A question, and what is done with its answer. -/
  | ask (op : S.Op) (next : S.Answer op → Program S α)

namespace Program

variable {S T : Signature} {α β γ σ : Type}

/-- Goes on with the value of a program. -/
def bind : Program S α → (α → Program S β) → Program S β
  | done a, f => f a
  | ask op next, f => ask op fun a => (next a).bind f

instance : Monad (Program S) where
  pure := done
  bind := bind

/-- Asks one operation. -/
def call (op : S.Op) : Program S (S.Answer op) := ask op done

@[simp] theorem pure_eq (a : α) : (pure a : Program S α) = done a := rfl

@[simp] theorem bind_eq (p : Program S α) (f : α → Program S β) : p >>= f = p.bind f := rfl

@[simp] theorem done_bind (a : α) (f : α → Program S β) : (done a).bind f = f a := rfl

@[simp] theorem ask_bind (op : S.Op) (next : S.Answer op → Program S α) (f : α → Program S β) :
    (ask op next).bind f = ask op fun a => (next a).bind f := rfl

theorem bind_done (p : Program S α) : p.bind done = p := by
  induction p with
  | done a => rfl
  | ask op next ih => simp [ih]

theorem bind_assoc (p : Program S α) (f : α → Program S β) (g : β → Program S γ) :
    (p.bind f).bind g = p.bind fun a => (f a).bind g := by
  induction p with
  | done a => rfl
  | ask op next ih => simp [ih]

instance : LawfulMonad (Program S) :=
  .mk' _ (fun p => bind_done p) (fun _ _ => rfl) bind_assoc

end Program

/-- Answers one operation in a state, which it may change. -/
abbrev Handler (S : Signature) (σ : Type) := (op : S.Op) → σ → S.Answer op × σ

/-- An operation with the answer it got. -/
structure Event (S : Signature) where
  /-- What was asked. -/
  op : S.Op
  /-- What was answered. -/
  answer : S.Answer op

namespace Program

variable {S T : Signature} {α β σ : Type}

/-- The value of a program and the state after it. -/
def run (handle : Handler S σ) : Program S α → σ → α × σ
  | done a, s => (a, s)
  | ask op next, s =>
    let (answer, s) := handle op s
    (next answer).run handle s

/-- What a program asks, in order, with the answers. -/
def trace (handle : Handler S σ) : Program S α → σ → List (Event S)
  | done _, _ => []
  | ask op next, s =>
    let (answer, s) := handle op s
    ⟨op, answer⟩ :: (next answer).trace handle s

/-- The value of a program in a world that may leave an operation without an answer; the program has
no value then. -/
def attempt (handle : (op : S.Op) → σ → Option (S.Answer op) × σ) :
    Program S α → σ → Option α × σ
  | done a, s => (some a, s)
  | ask op next, s =>
    match handle op s with
    | (none, s) => (none, s)
    | (some answer, s) => (next answer).attempt handle s

/-- Carries a program out in a monad in which every operation is answered. -/
def interpret {m : Type → Type} [Monad m] (answer : (op : S.Op) → m (S.Answer op)) :
    Program S α → m α
  | done a => pure a
  | ask op next => do (next (← answer op)).interpret answer

variable (handle : Handler S σ)

@[simp] theorem run_done (a : α) (s : σ) : (done a : Program S α).run handle s = (a, s) := rfl

@[simp] theorem run_ask (op : S.Op) (next : S.Answer op → Program S α) (s : σ) :
    (ask op next).run handle s = (next (handle op s).1).run handle (handle op s).2 := rfl

@[simp] theorem trace_done (a : α) (s : σ) : (done a : Program S α).trace handle s = [] := rfl

@[simp] theorem trace_ask (op : S.Op) (next : S.Answer op → Program S α) (s : σ) :
    (ask op next).trace handle s
      = ⟨op, (handle op s).1⟩ :: (next (handle op s).1).trace handle (handle op s).2 := rfl

theorem run_bind (p : Program S α) (f : α → Program S β) (s : σ) :
    (p.bind f).run handle s = (f (p.run handle s).1).run handle (p.run handle s).2 := by
  induction p generalizing s with
  | done a => rfl
  | ask op next ih => simp [ih]

theorem trace_bind (p : Program S α) (f : α → Program S β) (s : σ) :
    (p.bind f).trace handle s
      = p.trace handle s ++ (f (p.run handle s).1).trace handle (p.run handle s).2 := by
  induction p generalizing s with
  | done a => rfl
  | ask op next ih => simp [ih]

end Program

end ReplicaPorts
