import ReplicaPorts.Pass.Event
import ReplicaPorts.Proofs.Program.Path

/-!
# Paths through passes

The paths of a pass, taken apart by what the pass is put together from. A pass that goes on after
another either stops where the first one stops or continues its path (`takes_bind_iff`); naming the
step of an error does not change what is asked (`takes_during_iff`).
-/

set_option autoImplicit false

namespace ReplicaPorts.Pass

open Program (Path)

variable {α β : Type}

/-- A pass may ask this, get these answers, and end like this. -/
abbrev Takes (p : Pass α) (t : List (Event asks)) (r : Except Error α) : Prop := Path p.run t r

theorem takes_pure_iff {a : α} {t : List (Event asks)} {r : Except Error α} :
    Takes (pure a) t r ↔ t = [] ∧ .ok a = r :=
  Program.path_done_iff

theorem takes_throw_iff {e : Error} {t : List (Event asks)} {r : Except Error α} :
    Takes (throw e) t r ↔ t = [] ∧ .error e = r :=
  Program.path_done_iff

theorem takes_bind_iff {p : Pass α} {f : α → Pass β} {t : List (Event asks)}
    {r : Except Error β} :
    Takes (p >>= f) t r ↔
      (∃ e, r = .error e ∧ Takes p t (.error e)) ∨
      ∃ t₁ a t₂, t = t₁ ++ t₂ ∧ Takes p t₁ (.ok a) ∧ Takes (f a) t₂ r := by
  simp only [Takes, ExceptT.run_bind, Program.bind_eq]
  rw [Program.path_bind_iff]
  constructor
  · intro known
    obtain ⟨t₁, x, t₂, rfl, h₁, h₂⟩ := known
    cases x with
    | ok a => exact .inr ⟨t₁, a, t₂, rfl, h₁, h₂⟩
    | error e =>
      obtain ⟨rfl, rfl⟩ := Program.path_done_iff.mp h₂
      exact .inl ⟨e, rfl, by simpa using h₁⟩
  · rintro (⟨e, rfl, h⟩ | ⟨t₁, a, t₂, rfl, h₁, h₂⟩)
    · exact ⟨t, .error e, [], (List.append_nil t).symm, h, .done _⟩
    · exact ⟨t₁, .ok a, t₂, rfl, h₁, h₂⟩

/-- Naming the step of errors changes what comes out and not what is asked. -/
theorem takes_during_iff {s : Step} {p : Pass α} {t : List (Event asks)} {r : Except Error α} :
    Takes (during s p) t r ↔ ∃ r', r = r'.mapError (.step s) ∧ Takes p t r' := by
  show Path (p.run.bind fun x => .done (x.mapError (.step s))) t r ↔ _
  rw [Program.path_bind_iff]
  constructor
  · intro known
    obtain ⟨t₁, x, t₂, rfl, h, h'⟩ := known
    obtain ⟨rfl, rfl⟩ := Program.path_done_iff.mp h'
    exact ⟨x, rfl, by rwa [List.append_nil]⟩
  · intro known
    obtain ⟨x, rfl, h⟩ := known
    exact ⟨t, x, [], (List.append_nil t).symm, h, .done _⟩

theorem takes_cluster_iff {c : Cluster.Call} {t : List (Event asks)} {r : Except Error c.Value} :
    Takes (cluster c) t r ↔ ∃ x : c.Answer, t = [⟨.cluster c, x⟩] ∧ r = x.mapError .cluster := by
  show Path ((Program.call (S := asks) (.cluster c)).bind fun x => .done (x.mapError .cluster)) t r
    ↔ _
  rw [Program.path_bind_iff]
  constructor
  · intro known
    obtain ⟨t₁, x, t₂, rfl, h, h'⟩ := known
    obtain rfl := Program.path_call_iff.mp h
    obtain ⟨rfl, rfl⟩ := Program.path_done_iff.mp h'
    exact ⟨x, rfl, rfl⟩
  · intro known
    obtain ⟨x, rfl, rfl⟩ := known
    exact ⟨_, x, [], rfl, Program.path_call_iff.mpr rfl, .done _⟩

/-- What goes on after a call that was answered. -/
theorem takes_answered_iff {c : Cluster.Call} {f : c.Value → Pass α} {a : c.Value}
    {t : List (Event asks)} {r : Except Error α} :
    Takes (cluster c >>= f) (⟨.cluster c, .ok a⟩ :: t) r ↔ Takes (f a) t r := by
  rw [takes_bind_iff]
  simp only [takes_cluster_iff]
  constructor
  · rintro (⟨e, -, x, same, failed⟩ | ⟨t₁, b, t₂, split, ⟨x, rfl, fine⟩, rest⟩)
    · cases same
      cases failed
    · cases split
      cases fine
      exact rest
  · intro rest
    exact .inr ⟨_, a, t, rfl, ⟨.ok a, rfl, rfl⟩, rest⟩

theorem takes_node_iff {name : String} {ahead : List String} {t : List (Event asks)}
    {r : Except Error Cluster.Node} :
    Takes (node name ahead) t r ↔
      ∃ x : Except Cluster.Error Cluster.Node,
        t = [⟨.node name ahead, x⟩] ∧ r = x.mapError .cluster := by
  show Path ((Program.call (S := asks) (.node name ahead)).bind
    fun x => .done (x.mapError .cluster)) t r ↔ _
  rw [Program.path_bind_iff]
  constructor
  · intro known
    obtain ⟨t₁, x, t₂, rfl, h, h'⟩ := known
    obtain rfl := Program.path_call_iff.mp h
    obtain ⟨rfl, rfl⟩ := Program.path_done_iff.mp h'
    exact ⟨x, rfl, rfl⟩
  · intro known
    obtain ⟨x, rfl, rfl⟩ := known
    exact ⟨_, x, [], rfl, Program.path_call_iff.mpr rfl, .done _⟩

/-- A call to the Compute API as something that a pass asks. -/
def computeEvent (ev : Event Compute.calls) : Event asks := ⟨.compute ev.op, ev.answer⟩

private theorem path_interpret_iff {p : Program Compute.calls α} {t : List (Event asks)} {a : α} :
    Path (p.interpret fun c => Program.call (S := asks) (.compute c)) t a ↔
      ∃ t', t = t'.map computeEvent ∧ Path p t' a := by
  induction p generalizing t with
  | done b =>
    constructor
    · intro h
      obtain ⟨rfl, rfl⟩ := Program.path_done_iff.mp h
      exact ⟨[], rfl, .done _⟩
    · intro known
      obtain ⟨t', rfl, h⟩ := known
      obtain ⟨rfl, rfl⟩ := Program.path_done_iff.mp h
      exact .done _
  | ask op next ih =>
    show Path (.ask (S := asks) (.compute op) fun x =>
      (next x).interpret fun c => Program.call (S := asks) (.compute c)) t a ↔ _
    rw [Program.path_ask_iff]
    constructor
    · intro known
      obtain ⟨x, t', rfl, h⟩ := known
      obtain ⟨t'', rfl, rest⟩ := (ih x).mp h
      exact ⟨⟨op, x⟩ :: t'', rfl, .ask op next x rest⟩
    · intro known
      obtain ⟨t', rfl, h⟩ := known
      obtain ⟨x, t'', rfl, rest⟩ := Program.path_ask_iff.mp h
      exact ⟨x, t''.map computeEvent, rfl, (ih x).mpr ⟨t'', rfl, rest⟩⟩

/-- A pass that only calls the Compute API takes the paths of its program of calls. -/
theorem takes_compute_iff {p : Program Compute.calls (Except Compute.Error α)}
    {t : List (Event asks)} {r : Except Error α} :
    Takes (compute p) t r ↔
      ∃ t' x, t = t'.map computeEvent ∧ r = x.mapError .compute ∧ Path p t' x := by
  show Path ((p.interpret fun c => Program.call (S := asks) (.compute c)).bind
    fun x => .done (x.mapError .compute)) t r ↔ _
  rw [Program.path_bind_iff]
  constructor
  · intro known
    obtain ⟨t₁, x, t₂, rfl, h, h'⟩ := known
    obtain ⟨t', rfl, path⟩ := path_interpret_iff.mp h
    obtain ⟨rfl, rfl⟩ := Program.path_done_iff.mp h'
    exact ⟨t', x, List.append_nil _, rfl, path⟩
  · intro known
    obtain ⟨t', x, rfl, rfl, h⟩ := known
    exact ⟨_, x, [], (List.append_nil _).symm, path_interpret_iff.mpr ⟨t', rfl, h⟩, .done _⟩

theorem takes_ofExcept_iff {ε : Type} {error : ε → Error} {x : Except ε α} {t : List (Event asks)}
    {r : Except Error α} : Takes (ofExcept error x) t r ↔ t = [] ∧ r = x.mapError error := by
  cases x with
  | ok a => exact takes_pure_iff.trans (and_congr_right' eq_comm)
  | error e => exact takes_throw_iff.trans (and_congr_right' eq_comm)

end ReplicaPorts.Pass
