import Mathlib.Logic.Relation
import ReplicaPorts.Proofs.Program.Invariant
import ReplicaPorts.Proofs.Program.Path

/-!
# Programs under interference

Programs of some sort are carried out one after the other in a state that others change as well,
before, after and between any two questions; a program may be left off at any point. `Scene` is a
state with the rest of the program that is under way, `Moves` what may happen.

`Guarded` holds of a program and a state when an invariant holds whenever the program asks, however
others interfere, and when what is known at its end does (`post`). It is taken apart along the
program. If every program that may be begun is guarded by the invariant, then the invariant holds in
every scene that is reached (`invariant_reaches`).
-/

set_option autoImplicit false

namespace ReplicaPorts.Program

open Relation (ReflTransGen)

variable {S : Signature} {σ α β : Type}

/-- A state, and the rest of the program that is under way in it. -/
structure Scene (S : Signature) (σ α : Type) where
  state : σ
  rest : Option (Program S α)

/-- One thing that may happen in a scene. -/
inductive Moves (handle : Handler S σ) (begins : Program S α → Prop) (outside : σ → σ → Prop) :
    Scene S σ α → Scene S σ α → Prop where
  /-- A program is begun. -/
  | begin {s : σ} {p : Program S α} (h : begins p) :
      Moves handle begins outside ⟨s, none⟩ ⟨s, some p⟩
  /-- A question is answered. -/
  | ask {s : σ} (op : S.Op) (next : S.Answer op → Program S α) :
      Moves handle begins outside ⟨s, some (.ask op next)⟩
        ⟨(handle op s).2, some (next (handle op s).1)⟩
  /-- The program ends, or is left off. -/
  | leave {s : σ} {p : Program S α} : Moves handle begins outside ⟨s, some p⟩ ⟨s, none⟩
  /-- Others change the state. -/
  | outside {s s' : σ} {rest : Option (Program S α)} (h : outside s s') :
      Moves handle begins outside ⟨s, rest⟩ ⟨s', rest⟩

/-- What may happen where others do less may happen where they do more. -/
theorem Moves.mono {handle : Handler S σ} {begins : Program S α → Prop}
    {outside outside' : σ → σ → Prop} (imp : ∀ s s', outside s s' → outside' s s')
    {scene scene' : Scene S σ α}
    (h : Moves handle begins outside scene scene') : Moves handle begins outside' scene scene' := by
  cases h with
  | begin h => exact .begin h
  | ask op next => exact .ask op next
  | leave => exact .leave
  | outside h => exact .outside (imp _ _ h)

/-- A program may be carried out with nobody interfering. -/
theorem moves_run {handle : Handler S σ} {begins : Program S α → Prop} {outside : σ → σ → Prop}
    {p : Program S α} (h : begins p) (s : σ) :
    ReflTransGen (Moves handle begins outside) ⟨s, none⟩ ⟨(p.run handle s).2, none⟩ := by
  suffices under : ReflTransGen (Moves handle begins outside) ⟨s, some p⟩
      ⟨(p.run handle s).2, none⟩ from .head (.begin h) under
  clear h
  induction p generalizing s with
  | done a => exact .single .leave
  | ask op next ih => exact .head (.ask op next) (ih _ _)

/-- Whenever the program asks, an invariant holds, whatever others did since, and what is known at
its end holds then. -/
def Guarded (handle : Handler S σ) (outside : σ → σ → Prop) (inv : σ → Prop)
    (post : α → σ → Prop) : Program S α → σ → Prop
  | .done a, s => post a s
  | .ask op next, s => ∀ s', ReflTransGen outside s s' →
      inv s' ∧ Guarded handle outside inv post (next (handle op s').1) (handle op s').2

variable {handle : Handler S σ} {outside : σ → σ → Prop} {inv : σ → Prop} {post : α → σ → Prop}
  {s s' : σ}

theorem Guarded.mono {post' : α → σ → Prop} {p : Program S α}
    (h : Guarded handle outside inv post p s) (imp : ∀ a s, post a s → post' a s) :
    Guarded handle outside inv post' p s := by
  induction p generalizing s with
  | done a => exact imp a s h
  | ask op next ih => exact fun s' later => ⟨(h s' later).1, ih _ (h s' later).2⟩

/-- One program after another is guarded if each is, from where the one before ends. -/
theorem Guarded.bind {post' : β → σ → Prop} {p : Program S β} {f : β → Program S α}
    (h : Guarded handle outside inv post' p s)
    (hf : ∀ b s, post' b s → Guarded handle outside inv post (f b) s) :
    Guarded handle outside inv post (p.bind f) s := by
  induction p generalizing s with
  | done b => exact hf b s h
  | ask op next ih => exact fun s' later => ⟨(h s' later).1, ih _ (h s' later).2⟩

/-- A fact that others do not disturb. -/
def Stable (outside : σ → σ → Prop) (known : σ → Prop) : Prop :=
  ∀ s s', known s → outside s s' → known s'

theorem Stable.later {known : σ → Prop} (stable : Stable outside known) (h : known s)
    (later : ReflTransGen outside s s') : known s' := by
  induction later with
  | refl => exact h
  | tail _ step ih => exact stable _ _ ih step

/-- A guarded program stays so while others interfere. -/
theorem Guarded.later {p : Program S α} (h : Guarded handle outside inv post p s)
    (stable : ∀ a, Stable outside (post a)) (later : ReflTransGen outside s s') :
    Guarded handle outside inv post p s' := by
  cases p with
  | done a => exact (stable a).later h later
  | ask op next => exact fun s'' later' => h s'' (later.trans later')

/-- A fact that neither others disturb nor any question on the paths of a program guards it. -/
theorem Guarded.of_path {known : σ → Prop} (stable : Stable outside known)
    (imp : ∀ s, known s → inv s) {p : Program S α}
    (kept : ∀ t a, Path p t a → ∀ ev ∈ t, ∀ s, known s → known (handle ev.op s).2)
    (h : known s) : Guarded handle outside inv (fun _ => known) p s := by
  induction p generalizing s with
  | done a => exact h
  | ask op next ih =>
    intro s' later
    have now : known s' := stable.later h later
    refine ⟨imp s' now, ih _ (fun t a path ev mem => ?_) ?_⟩
    · exact kept _ a (.ask op next _ path) ev (List.mem_cons_of_mem _ mem)
    · have path := path_run handle (next (handle op s').1) (handle op s').2
      exact kept _ _ (.ask op next _ path) _ List.mem_cons_self s' now

/-- The same where a question is known not to disturb the fact only on paths with honest answers,
and the fact makes the answers honest. -/
theorem Guarded.of_honest_path {known : σ → Prop} (honest : Event S → Prop)
    (stable : Stable outside known) (imp : ∀ s, known s → inv s)
    (answers : ∀ op s, known s → honest ⟨op, (handle op s).1⟩) {p : Program S α}
    (kept : ∀ t a, Path p t a → (∀ ev ∈ t, honest ev) →
      ∀ ev ∈ t, ∀ s, known s → known (handle ev.op s).2)
    (h : known s) : Guarded handle outside inv (fun _ => known) p s := by
  induction p generalizing s with
  | done a => exact h
  | ask op next ih =>
    intro s' later
    have now : known s' := stable.later h later
    refine ⟨imp s' now, ih _ (fun t a path honestly ev mem => ?_) ?_⟩
    · exact kept _ a (.ask op next _ path) (List.forall_mem_cons.mpr ⟨answers op s' now, honestly⟩)
        ev (List.mem_cons_of_mem _ mem)
    · -- some honest path starts like this: the one on which the state stays as it is
      let frozen : Handler S σ := fun op s => ((handle op s).1, s)
      have given : ∀ op s, known s → honest ⟨op, (frozen op s).1⟩ := answers
      have honestly : ∀ ev ∈ (next (handle op s').1).trace frozen s', honest ev :=
        forall_mem_trace known (fun _ _ h => h) given _ now
      exact kept _ _ (.ask op next _ (path_run frozen _ s'))
        (List.forall_mem_cons.mpr ⟨answers op s' now, honestly⟩) _ List.mem_cons_self s' now

theorem Guarded.now {p : Program S α} (h : Guarded handle outside inv (fun _ => inv) p s) :
    inv s := by
  cases p with
  | done a => exact h
  | ask op next => exact (h s .refl).1

/-- If every program that may be begun is guarded by an invariant that others do not disturb, the
invariant holds in every scene that is reached. -/
theorem invariant_reaches {begins : Program S α → Prop} (stable : Stable outside inv)
    (guarded : ∀ p, begins p → ∀ s, inv s → Guarded handle outside inv (fun _ => inv) p s)
    {scene : Scene S σ α} (start : inv s)
    (reaches : ReflTransGen (Moves handle begins outside) ⟨s, none⟩ scene) : inv scene.state := by
  -- the invariant, together with what guards the program that is under way
  suffices h : inv scene.state ∧
      ∀ p, scene.rest = some p → Guarded handle outside inv (fun _ => inv) p scene.state from h.1
  induction reaches with
  | refl => exact ⟨start, by rintro _ ⟨⟩⟩
  | tail _ move ih =>
    obtain ⟨now, under⟩ := ih
    cases move with
    | begin h =>
      refine ⟨now, ?_⟩
      rintro _ ⟨rfl⟩
      exact guarded _ h _ now
    | ask op next =>
      have after := (under _ rfl _ .refl).2
      refine ⟨after.now, ?_⟩
      rintro _ ⟨rfl⟩
      exact after
    | leave => exact ⟨now, by rintro _ ⟨⟩⟩
    | outside h =>
      refine ⟨stable _ _ now h, fun p at_ => ?_⟩
      exact (under p at_).later (fun _ => stable) (.single h)

/-! ## Changes at given moments -/

variable {υ : Type}

/-- A program while others make changes: the first list of them before the first question, the next
one before the next, and at the end all that are left. -/
def runAmid (handle : Handler S σ) (change : υ → σ → σ) : Program S α → List (List υ) → σ → α × σ
  | .done a, later, s => (a, later.flatten.foldl (fun s u => change u s) s)
  | .ask op next, later, s =>
    let asked := (later.headD []).foldl (fun s u => change u s) s
    (next (handle op asked).1).runAmid handle change later.tail (handle op asked).2

/-- While nobody makes a change a program runs as it does alone. -/
theorem runAmid_nil (change : υ → σ → σ) (p : Program S α) (s : σ) :
    p.runAmid handle change [] s = p.run handle s := by
  induction p generalizing s with
  | done a => rfl
  | ask op next ih => exact ih _ _

end ReplicaPorts.Program
