import ReplicaPorts.Proofs.Pass.Outcome

/-!
# Where passes lead

`Leads` says where a pass leads from a world: what is known of its asks, its value and the world
left behind if it succeeds, and of its asks, its error and that world if it does not. It is taken
apart along the pass (`Leads.bind`, `Leads.during`); calls to the Compute API are taken to the
simulator alone (`Leads.compute`).
-/

set_option autoImplicit false

namespace ReplicaPorts.Pass

variable {α β : Type} {w : World}

/-! ## Calls to the Compute API -/

private theorem run_interpret (p : Program Compute.calls α) (w : World) :
    (p.interpret fun c => Program.call (S := asks) (.compute c)).run World.answer w =
      ((p.run Compute.Simulator.answer w.compute).1,
        { w with compute := (p.run Compute.Simulator.answer w.compute).2 }) := by
  induction p generalizing w with
  | done a => rfl
  | ask op next ih => exact ih _ _

private theorem trace_interpret (p : Program Compute.calls α) (w : World) :
    (p.interpret fun c => Program.call (S := asks) (.compute c)).trace World.answer w =
      (p.trace Compute.Simulator.answer w.compute).map fun ev => ⟨.compute ev.op, ev.answer⟩ := by
  induction p generalizing w with
  | done a => rfl
  | ask op next ih => exact congrArg _ (ih _ _)

theorem outcome_compute (p : Program Compute.calls (Except Compute.Error α)) (w : World) :
    (compute p).outcome w =
      ((p.run Compute.Simulator.answer w.compute).1.mapError .compute,
        { w with compute := (p.run Compute.Simulator.answer w.compute).2 }) := by
  show Program.run World.answer
    ((p.interpret fun c => Program.call (S := asks) (.compute c)).bind fun x => .done _) w = _
  rw [Program.run_bind, run_interpret]
  rfl

theorem transcript_compute (p : Program Compute.calls (Except Compute.Error α)) (w : World) :
    (compute p).transcript w =
      (p.trace Compute.Simulator.answer w.compute).map fun ev => ⟨.compute ev.op, ev.answer⟩ := by
  show Program.trace World.answer
    ((p.interpret fun c => Program.call (S := asks) (.compute c)).bind fun x => .done _) w = _
  rw [Program.trace_bind, trace_interpret]
  exact List.append_nil _

theorem outcome_during (s : Step) (p : Pass α) (w : World) :
    (during s p).outcome w = ((p.outcome w).1.mapError (.step s), (p.outcome w).2) := by
  show Program.run World.answer (p.run.bind fun x => .done (x.mapError (Error.step s))) w = _
  rw [Program.run_bind]
  rfl

theorem transcript_during (s : Step) (p : Pass α) (w : World) :
    (during s p).transcript w = p.transcript w := by
  show Program.trace World.answer (p.run.bind fun x => .done (x.mapError (Error.step s))) w = _
  rw [Program.trace_bind]
  exact List.append_nil _

/-- What a pass asks in a world. -/
def asked (p : Pass α) (w : World) : List Ask := (p.transcript w).map (·.op)

theorem outcome_clusterCalls_asked (p : Pass α) (w : World) :
    (p.outcome w).2.cluster.calls = w.cluster.calls ++ (p.asked w).filterMap Ask.clusterCall? := by
  rw [outcome_clusterCalls, asked, List.filterMap_map]
  rfl

theorem outcome_computeCalls_asked (p : Pass α) (w : World) :
    (p.outcome w).2.compute.calls = w.compute.calls ++ (p.asked w).filterMap Ask.computeCall? := by
  rw [outcome_computeCalls, asked, List.filterMap_map]
  rfl

theorem asked_bind (p : Pass α) (f : α → Pass β) (w : World) :
    (p >>= f : Pass β).asked w =
      p.asked w ++
        match (p.outcome w).1 with
        | .ok a => (f a).asked (p.outcome w).2
        | .error _ => [] := by
  simp only [asked, transcript_bind, List.map_append]
  cases (p.outcome w).1 <;> rfl

theorem asked_during (s : Step) (p : Pass α) (w : World) : (during s p).asked w = p.asked w := by
  rw [asked, transcript_during, asked]

theorem asked_compute (p : Program Compute.calls (Except Compute.Error α)) (w : World) :
    (compute p).asked w =
      ((p.trace Compute.Simulator.answer w.compute).map (·.op)).map .compute := by
  rw [asked, transcript_compute, List.map_map, List.map_map]
  rfl

/-- Where a pass leads from a world: what is known of its asks, its value and the world left behind
if it succeeds, and of its asks, its error and that world if it fails. -/
inductive Leads (p : Pass α) (w : World) (ok : List Ask → α → World → Prop)
    (err : List Ask → Error → World → Prop) : Prop where
  | ok {a : α} {v : World} (outcome : p.outcome w = (.ok a, v)) (known : ok (p.asked w) a v) :
      Leads p w ok err
  | error {e : Error} {v : World} (outcome : p.outcome w = (.error e, v))
      (known : err (p.asked w) e v) : Leads p w ok err

theorem Leads.pure {a : α} : Leads (pure a) w (fun t b v => t = [] ∧ b = a ∧ v = w)
    fun _ _ _ => False :=
  .ok rfl ⟨rfl, rfl, rfl⟩

theorem Leads.weaken {ok ok' : List Ask → α → World → Prop}
    {err err' : List Ask → Error → World → Prop} {p : Pass α} (h : Leads p w ok err)
    (hok : ∀ t a v, ok t a v → ok' t a v) (herr : ∀ t e v, err t e v → err' t e v) :
    Leads p w ok' err' := by
  cases h with
  | ok outcome known => exact .ok outcome (hok _ _ _ known)
  | error outcome known => exact .error outcome (herr _ _ _ known)

/-- One pass after another leads where the second one leads from where the first one does. -/
theorem Leads.bind {ok₁ : List Ask → α → World → Prop} {ok : List Ask → β → World → Prop}
    {err₁ err : List Ask → Error → World → Prop} {p : Pass α} {f : α → Pass β}
    (hp : Leads p w ok₁ err₁)
    (hf : ∀ t a v, ok₁ t a v →
      Leads (f a) v (fun t' => ok (t ++ t')) (fun t' => err (t ++ t')))
    (herr : ∀ t e v, err₁ t e v → err t e v) : Leads (p >>= f) w ok err := by
  cases hp with
  | ok outcome known =>
    cases hf _ _ _ known with
    | ok outcome' known' =>
      refine .ok (by rw [outcome_bind, outcome]; exact outcome') ?_
      rw [asked_bind, outcome]
      exact known'
    | error outcome' known' =>
      refine .error (by rw [outcome_bind, outcome]; exact outcome') ?_
      rw [asked_bind, outcome]
      exact known'
  | error outcome known =>
    refine .error (by rw [outcome_bind, outcome]) ?_
    rw [asked_bind, outcome, List.append_nil]
    exact herr _ _ _ known

theorem Leads.during {ok : List Ask → α → World → Prop} {err : List Ask → Error → World → Prop}
    {p : Pass α} (s : Step) (h : Leads p w ok err) :
    Leads (during s p) w ok (fun t e v => ∃ e', e = .step s e' ∧ err t e' v) := by
  cases h with
  | ok outcome known =>
    refine .ok (by rw [outcome_during, outcome]; rfl) ?_
    rwa [asked_during]
  | error outcome known =>
    refine .error (by rw [outcome_during, outcome]; rfl) ⟨_, rfl, ?_⟩
    rwa [asked_during]

/-- A pass that does not fail does not fail in a step either. -/
theorem Leads.during_sure {ok : List Ask → α → World → Prop} {p : Pass α}
    (h : Leads p w ok fun _ _ _ => False) (s : Step) :
    Leads (Pass.during s p) w ok fun _ _ _ => False := by
  refine (Leads.during s h).weaken (fun _ _ _ known => known) ?_
  intro _ _ _ known
  obtain ⟨e, -, no⟩ := known
  exact no

theorem forgiven_run (p : Pass Unit) :
    (tryCatch p fun _ => Pure.pure () : Pass Unit).run = p.run.bind fun _ => .done (.ok ()) := by
  show p.run.bind _ = _
  congr 1
  funext r
  cases r <;> rfl

/-- A pass whose failure does not matter. -/
theorem Leads.forgiven {known : List Ask → World → Prop} {p : Pass Unit}
    (h : Leads p w (fun t _ v => known t v) fun t _ v => known t v) :
    Leads (tryCatch p fun _ => Pure.pure ()) w (fun t _ v => known t v) fun _ _ _ => False := by
  have outcome_eq : (tryCatch p fun _ => Pure.pure () : Pass Unit).outcome w =
      (.ok (), (p.outcome w).2) := by
    rw [outcome, forgiven_run, Program.run_bind]
    rfl
  have asked_eq : (tryCatch p fun _ => Pure.pure () : Pass Unit).asked w = p.asked w := by
    rw [asked, transcript, forgiven_run, Program.trace_bind]
    exact congrArg (List.map _) (List.append_nil _)
  cases h with
  | ok outcome known => exact .ok (by rw [outcome_eq, outcome]) (asked_eq ▸ known)
  | error outcome known => exact .ok (by rw [outcome_eq, outcome]) (asked_eq ▸ known)

/-- A call to the cluster leads where its answer says. -/
theorem leads_cluster (c : Cluster.Call) (w : World) :
    Leads (cluster c) w
      (fun t a v => t = [.cluster c] ∧ (w.cluster.answer c).1 = .ok a ∧
        v = { w with cluster := (w.cluster.answer c).2 })
      (fun t e v => t = [.cluster c] ∧ ∃ e', (w.cluster.answer c).1 = .error e' ∧ e = .cluster e' ∧
        v = { w with cluster := (w.cluster.answer c).2 }) := by
  cases h : (w.cluster.answer c).1 with
  | ok a =>
    refine .ok (a := a) ?_ ⟨rfl, rfl, rfl⟩
    rw [outcome_cluster, World.answerCluster, h]
    rfl
  | error e =>
    refine .error (e := .cluster e) ?_ ⟨rfl, e, rfl, rfl, rfl⟩
    rw [outcome_cluster, World.answerCluster, h]
    rfl

/-- A call to the cluster that is answered with a value does not fail. -/
theorem leads_answered {c : Cluster.Call} {a : c.Value} {m : Cluster.Memory}
    (answered : w.cluster.answer c = (.ok a, m)) :
    Leads (cluster c) w (fun t b v => t = [.cluster c] ∧ b = a ∧ v = { w with cluster := m })
      fun _ _ _ => False := by
  refine (leads_cluster c w).weaken ?_ ?_
  · intro t b v known
    obtain ⟨rfl, same, rfl⟩ := known
    rw [answered] at same ⊢
    exact ⟨rfl, (Except.ok.inj same).symm, rfl⟩
  · intro _ _ _ known
    obtain ⟨-, e, failed, -⟩ := known
    rw [answered] at failed
    cases failed

/-- A program of calls to the Compute API leads where it leads the simulator. -/
theorem leads_compute (p : Program Compute.calls (Except Compute.Error α)) (w : World) :
    Leads (compute p) w
      (fun t a v => t = ((p.trace Compute.Simulator.answer w.compute).map (·.op)).map .compute ∧
        (p.run Compute.Simulator.answer w.compute).1 = .ok a ∧
        v = { w with compute := (p.run Compute.Simulator.answer w.compute).2 })
      (fun t e v => t = ((p.trace Compute.Simulator.answer w.compute).map (·.op)).map .compute ∧
        ∃ e', (p.run Compute.Simulator.answer w.compute).1 = .error e' ∧ e = .compute e' ∧
        v = { w with compute := (p.run Compute.Simulator.answer w.compute).2 }) := by
  cases h : (p.run Compute.Simulator.answer w.compute).1 with
  | ok a => exact .ok (by rw [outcome_compute, h]; rfl) ⟨asked_compute p w, rfl, rfl⟩
  | error e => exact .error (by rw [outcome_compute, h]; rfl) ⟨asked_compute p w, e, rfl, rfl, rfl⟩

/-- A program of calls that gives a value does not fail. -/
theorem leads_ran {p : Program Compute.calls (Except Compute.Error α)} {a : α}
    {s : Compute.Simulator} (ran : p.run Compute.Simulator.answer w.compute = (.ok a, s)) :
    Leads (compute p) w
      (fun t b v => t = ((p.trace Compute.Simulator.answer w.compute).map (·.op)).map .compute ∧
        b = a ∧ v = { w with compute := s })
      fun _ _ _ => False := by
  refine (leads_compute p w).weaken ?_ ?_
  · intro t b v known
    obtain ⟨rfl, same, rfl⟩ := known
    rw [ran] at same ⊢
    exact ⟨rfl, (Except.ok.inj same).symm, rfl⟩
  · intro _ _ _ known
    obtain ⟨-, e, failed, -⟩ := known
    rw [ran] at failed
    cases failed

theorem leads_ofExcept {ε : Type} (error : ε → Error) (x : Except ε α) (w : World) :
    Leads (ofExcept error x) w (fun t a v => t = [] ∧ x = .ok a ∧ v = w)
      (fun t e v => t = [] ∧ ∃ e', x = .error e' ∧ e = error e' ∧ v = w) := by
  cases x with
  | ok a => exact .ok rfl ⟨rfl, rfl, rfl⟩
  | error e => exact .error rfl ⟨rfl, e, rfl, rfl, rfl⟩

end ReplicaPorts.Pass
