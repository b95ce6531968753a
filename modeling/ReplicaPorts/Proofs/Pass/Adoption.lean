import ReplicaPorts.Proofs.Pass.Outcome
import ReplicaPorts.Proofs.Pass.Stages

/-!
# Adopting a workload

The course of a pass that adopts a workload: it reads the workload, puts the finalizer on if it is
missing, and exposes the replicas step by step, unless the payload is refused or has no ports.
`keeps_adopt` puts it together from the stages; besides failing calls only what `Refused` lists ends
such a pass with an error. `adoption_keeps_course` says so of the passes of an operator: they follow
the course in order, stop at the first call that fails, and name its step in the error.
-/

set_option autoImplicit false

namespace ReplicaPorts.Pass

open Cluster Compute

variable {honest : Event asks → Prop} {pods : List Pod}

/-- Bringing the resources of a workload about. -/
def chainCourse (place : Location) (names : Names) (p : Payload) : List Place :=
  bringCourse names.firewall (.firewall p.nodePorts) ++
  (bringCourse names.group .group ++
  (bringCourse names.backend (.backend names.group) ++
  (endpointsCourse names.group ++
  (bringCourse names.rule (.rule names.backend p.address (p.globalAccess.getD false)) ++
  bringCourse names.attachment
    (.attachment (Path.resource place .rule names.rule) (p.consumers.map (·.limit))
      p.natSubnets)))))

theorem keeps_bringAll (place : Location) (names : Names) (p : Payload)
    (mappings : List PortMapping) :
    Keeps failure? honest (chainCourse place names p) (fun _ _ => True) (fun _ _ => False)
      (bringAll place names p mappings) := by
  refine (keeps_bring _ _ rfl).bind _ (fun _ _ _ _ => ?_) fun _ _ h => h
  refine (keeps_bring _ _ rfl).bind _ (fun _ _ _ _ => ?_) fun _ _ h => h
  refine (keeps_bring _ _ rfl).bind _ (fun _ _ _ _ => ?_) fun _ _ h => h
  refine (keeps_during (keeps_alignEndpoints _ _) (endpointsCourse_liesIn _)).bind _
    (fun _ _ _ _ => ?_) fun _ _ ⟨_, _, h⟩ => h
  refine (keeps_bring _ _ rfl).bind _ (fun _ _ _ _ => ?_) fun _ _ h => h
  exact keeps_bring _ _ rfl

/-- Exposing the replicas of a workload that selects its pods: the service, the machines, then the
resources. -/
def exposeCourse (plan : Plan) (space : String) (selector : Labels) (p : Payload)
    (pods : List Pod) : List Place :=
  serviceCourse ⟨space, (Names.of p.namePrefix).service⟩ ++
  (machinesCourse plan.lookups space selector pods ++
  chainCourse plan.place (Names.of p.namePrefix) p)

/-- No lookup of a node is asked for along a course of other steps. -/
theorem machinesIn_eq_nil {course : List Place} {t : List (Event asks)}
    (h : Begun course (t.map (·.op)))
    (away : ∀ place ∈ course, ∀ a, place.admits a → stepOf? a ≠ some .nodes) :
    machinesIn t = [] := by
  refine List.filterMap_eq_nil_iff.mpr fun ev mem => ?_
  obtain ⟨place, at_, admits⟩ := h.admitted ev.op (List.mem_map_of_mem mem)
  obtain ⟨op, answer⟩ := ev
  cases op with
  | node name ahead => exact absurd rfl (away place at_ _ admits)
  | cluster c => rfl
  | compute c => rfl

theorem LiesIn.away {course : List Place} {s s' : Step} (h : LiesIn course s) (ne : s ≠ s') :
    ∀ place ∈ course, ∀ a, place.admits a → stepOf? a ≠ some s' := by
  intro place mem a admits
  rw [h place mem a admits]
  exact fun e => ne (Option.some.inj e)

theorem stepOfKind_ne_nodes (kind : Kind) : stepOfKind kind ≠ .nodes := by
  cases kind <;> decide

theorem chainCourse_away (place : Location) (names : Names) (p : Payload) {s : Step}
    (kinds : ∀ kind, stepOfKind kind ≠ s) (endpoints : Step.endpoints ≠ s) :
    ∀ pl ∈ chainCourse place names p, ∀ a, pl.admits a → stepOf? a ≠ some s := by
  simp only [chainCourse, List.forall_mem_append]
  have bringing := fun name (design : Design) =>
    (bringCourse_liesIn name design).away (kinds design.kind)
  exact ⟨bringing _ _, bringing _ _, bringing _ _, (endpointsCourse_liesIn _).away endpoints,
    bringing _ _, bringing _ _⟩

theorem machinesIn_append (t t' : List (Event asks)) :
    machinesIn (t ++ t') = machinesIn t ++ machinesIn t' :=
  List.filterMap_append

/-- Errors that exposing replicas ends with although no call failed: a node that tells no machine,
and ports that do not fit, which comes up after all machines were found. -/
inductive Unfit (plan : Plan) (space : String) (selector : Labels) (p : Payload) (pods : List Pod) :
    List (Event asks) → Error → Prop where
  /-- The node looked up last does not tell its machine. -/
  | machine {before : List (Event asks)} {last : Event asks} {e : Error}
      (untold : machineIn? last = some (.error e)) :
      Unfit plan space selector p pods (before ++ [last]) (.step .nodes e)
  /-- The ports do not fit as many machines. -/
  | ports {t : List (Event asks)} {paths : List String} {fault : PortRun.Fault}
      (found : machinesIn t = paths.map .ok)
      (finished : Finished (serviceCourse ⟨space, (Names.of p.namePrefix).service⟩ ++
        machinesCourse plan.lookups space selector pods) (t.map (·.op)))
      (misfit : PortRun.mappings p.ports paths = .error fault) :
      Unfit plan space selector p pods t (.step .payload (.ports fault))

/-- The machines told by the nodes looked up take the ports of a payload. -/
def Fit (p : Payload) (t : List (Event asks)) : Prop :=
  ∃ paths mappings, machinesIn t = paths.map .ok ∧ PortRun.mappings p.ports paths = .ok mappings

theorem keeps_expose {plan : Plan} {key : ObjectKey} {w : StatefulSet} {p : Payload}
    {selector : Labels} (asked : p.ports.isEmpty = false) (selects : selector? w = some selector) :
    Keeps failure? (Lists pods) (exposeCourse plan key.space selector p pods) (fun t _ => Fit p t)
      (Unfit plan key.space selector p pods) (expose plan key w p) := by
  simp only [expose, asked, selects]
  refine (keeps_during (keeps_service _ _) (serviceCourse_liesIn _)).bind _
    (fun t₁ _ along₁ _ => ?_) fun _ _ ⟨_, _, h⟩ => h.elim
  have silent₁ : machinesIn t₁ = [] :=
    machinesIn_eq_nil along₁.begun ((serviceCourse_liesIn _).away (by decide))
  refine (keeps_during (keeps_replicaMachines _ _ _ _) (machinesCourse_liesIn _ _ _ _)).bind _
    (fun t₂ paths along₂ found => ?_) ?_
  · have found₂ : machinesIn (t₁ ++ t₂) = paths.map .ok := by
      rw [machinesIn_append, silent₁, found, List.nil_append]
    refine (keeps_during Keeps.ofExcept (liesIn_nil .payload)).bind _ ?_ ?_
    · intro _ mappings _ known
      obtain ⟨rfl, fits⟩ := known
      refine (keeps_bringAll _ _ _ _).along.weaken ?_ fun _ _ _ h => h.elim
      intro t₃ _ known
      obtain ⟨along₃, -⟩ := known
      refine ⟨paths, mappings, ?_, fits⟩
      rw [← List.append_assoc, machinesIn_append, found₂, List.nil_append,
        machinesIn_eq_nil along₃.begun (chainCourse_away _ _ _ stepOfKind_ne_nodes (by decide)),
        List.append_nil]
    · intro _ _ known
      obtain ⟨_, rfl, rfl, fault, misfit, rfl⟩ := known
      rw [List.append_nil]
      refine .ports found₂ ?_ misfit
      rw [List.map_append]
      exact along₁.append along₂
  · intro t _ known
    obtain ⟨e, rfl, before, last, rfl, untold⟩ := known
    rw [← List.append_assoc]
    exact .machine untold

/-! ## Adopting -/

/-- Putting the finalizer on a workload that lacks it. -/
def finalizerCourse (key : ObjectKey) (w : StatefulSet) : List Place :=
  if isFinalized w then [] else [.must (.cluster (.addFinalizer key finalizer))]

theorem finalizerCourse_liesIn (key : ObjectKey) (w : StatefulSet) :
    LiesIn (finalizerCourse key w) .finalizer := by
  unfold finalizerCourse
  split
  · exact liesIn_nil _
  · refine List.forall_mem_singleton.mpr fun a admits => ?_
    obtain rfl : a = _ := admits
    rfl

theorem keeps_finalize (key : ObjectKey) (w : StatefulSet) :
    Keeps failure? honest (finalizerCourse key w) (fun _ _ => True) (fun _ _ => False)
      (if isFinalized w then pure ()
        else during .finalizer (cluster (.addFinalizer key finalizer))) := by
  have lies := finalizerCourse_liesIn key w
  unfold finalizerCourse at lies ⊢
  split
  · exact Keeps.pure.weaken (fun _ _ _ => trivial) fun _ _ _ h => h
  · next lacking =>
    rw [if_neg lacking] at lies
    exact (keeps_during (keeps_cluster _) lies).weaken (fun _ _ _ => trivial)
      fun _ _ _ ⟨_, _, h⟩ => h

/-- The payload of a text and the labels that select the replicas, if both are there and there are
ports to expose. -/
def exposed? (w : StatefulSet) (text : String) : Option (Payload × Labels) :=
  match Payload.parse text, selector? w with
  | .ok p, some selector => if p.ports.isEmpty then none else some (p, selector)
  | _, _ => none

theorem exposed?_eq_some {w : StatefulSet} {text : String} {p : Payload} {selector : Labels}
    (parsed : Payload.parse text = .ok p) (asked : p.ports.isEmpty = false)
    (selects : selector? w = some selector) : exposed? w text = some (p, selector) := by
  simp [exposed?, parsed, selects, asked]

/-- What a pass asks before it looks at the payload: it reads the workload and puts the finalizer
on. -/
def openingCourse (key : ObjectKey) (w : StatefulSet) : List Place :=
  .must (.cluster (.getStatefulSet key)) :: finalizerCourse key w

/-- What a pass asks after that: nothing unless there is something to expose. -/
def remainingCourse (plan : Plan) (key : ObjectKey) (w : StatefulSet) (text : String)
    (pods : List Pod) : List Place :=
  match exposed? w text with
  | some (p, selector) => exposeCourse plan key.space selector p pods
  | none => []

theorem remainingCourse_eq_nil {plan : Plan} {key : ObjectKey} {w : StatefulSet} {text : String}
    {p : Payload} (parsed : Payload.parse text = .ok p)
    (h : p.ports.isEmpty = true ∨ selector? w = none) :
    remainingCourse plan key w text pods = [] := by
  rcases h with h | h
  · cases selects : selector? w <;> simp [remainingCourse, exposed?, parsed, h, selects]
  · simp [remainingCourse, exposed?, parsed, h]

/-- What a pass asks that adopts a workload. -/
def adoptionCourse (plan : Plan) (key : ObjectKey) (w : StatefulSet) (text : String)
    (pods : List Pod) : List Place :=
  openingCourse key w ++ remainingCourse plan key w text pods

/-- Errors that a pass ends with although no call failed it. -/
inductive Refused (plan : Plan) (key : ObjectKey) (w : StatefulSet) (text : String)
    (pods : List Pod) : List (Event asks) → Error → Prop where
  /-- The payload is not accepted. -/
  | payload {t : List (Event asks)} {cause : Payload.Error}
      (opened : Finished (openingCourse key w) (t.map (·.op)))
      (refused : Payload.parse text = .error cause) :
      Refused plan key w text pods t (.step .payload (.payload cause))
  /-- There are ports to expose and no labels to select replicas by. -/
  | selector {t : List (Event asks)} {p : Payload}
      (opened : Finished (openingCourse key w) (t.map (·.op)))
      (parsed : Payload.parse text = .ok p) (asked : p.ports.isEmpty = false)
      (missing : selector? w = none) :
      Refused plan key w text pods t (.step .service (.workload .matchLabels))
  /-- The machines are not told or the ports do not fit. -/
  | unfit {t₀ t : List (Event asks)} {p : Payload} {selector : Labels} {e : Error}
      (opened : Finished (openingCourse key w) (t₀.map (·.op)))
      (exposed : exposed? w text = some (p, selector))
      (unfit : Unfit plan key.space selector p pods t e) :
      Refused plan key w text pods (t₀ ++ t) e

/-- A payload is accepted, and if it has ports, there are labels to select replicas by and the
machines of the replicas take the ports. -/
def Accepted (w : StatefulSet) (text : String) (t : List (Event asks)) : Prop :=
  ∃ p, Payload.parse text = .ok p ∧
    (p.ports.isEmpty = true ∨ (selector? w).isSome = true ∧ Fit p t)

theorem adopt_eq (plan : Plan) (key : ObjectKey) (w : StatefulSet) (text : String) :
    adopt plan key w text =
      (if isFinalized w then pure ()
        else during .finalizer (cluster (.addFinalizer key finalizer))) >>= fun _ =>
      during .payload (ofExcept .payload (Payload.parse text)) >>= fun p =>
      expose plan key w p := by
  unfold adopt
  cases isFinalized w <;> rfl

theorem keeps_adopt (plan : Plan) (key : ObjectKey) (w : StatefulSet) (text : String)
    (found : Except Cluster.Error (Option StatefulSet)) :
    Keeps failure? (Lists pods) (finalizerCourse key w ++ remainingCourse plan key w text pods)
      (fun t _ => Accepted w text (⟨.cluster (.getStatefulSet key), found⟩ :: t))
      (fun t e => Refused plan key w text pods (⟨.cluster (.getStatefulSet key), found⟩ :: t) e)
      (adopt plan key w text) := by
  rw [adopt_eq]
  refine (keeps_finalize key w).bind _ (fun t₁ _ along _ => ?_) fun _ _ h => h.elim
  have opened : Finished (openingCourse key w)
      (List.map (·.op) (⟨.cluster (.getStatefulSet key), found⟩ :: t₁)) := .take rfl along
  have silent : machinesIn (⟨.cluster (.getStatefulSet key), found⟩ :: t₁) = [] :=
    machinesIn_eq_nil (t := t₁) along.begun ((finalizerCourse_liesIn key w).away (by decide))
  refine (keeps_during Keeps.ofExcept (liesIn_nil .payload)).bind _ ?_ ?_
  · intro _ p _ known
    obtain ⟨rfl, parsed⟩ := known
    show Keeps _ _ (remainingCourse plan key w text pods)
      (fun t _ => Accepted w text (_ :: (t₁ ++ t)))
      (fun t e => Refused plan key w text pods (_ :: (t₁ ++ t)) e) (expose plan key w p)
    cases asked : p.ports.isEmpty with
    | true =>
      -- without ports nothing more is asked
      rw [remainingCourse_eq_nil parsed (.inl asked)]
      simp only [expose, asked]
      exact Keeps.pure.weaken (fun _ _ _ => ⟨p, parsed, .inl asked⟩) fun _ _ _ h => h.elim
    | false =>
      cases selects : selector? w with
      | none =>
        rw [remainingCourse_eq_nil parsed (.inr selects)]
        simp only [expose, asked, selects]
        refine Keeps.throw.weaken (fun _ _ h => h.elim) ?_
        intro _ _ _ known
        obtain ⟨rfl, rfl⟩ := known
        rw [List.append_nil]
        exact .selector opened parsed asked selects
      | some selector =>
        have exposed := exposed?_eq_some parsed asked selects
        rw [remainingCourse, exposed]
        refine (keeps_expose asked selects).weaken ?_ fun t e _ unfit => .unfit opened exposed unfit
        intro t _ known
        obtain ⟨paths, mappings, found, fits⟩ := known
        refine ⟨p, parsed, .inr ⟨by rw [selects]; rfl, paths, mappings, ?_, fits⟩⟩
        rw [← List.cons_append, machinesIn_append, silent, found, List.nil_append]
  · intro _ _ known
    obtain ⟨_, rfl, rfl, cause, refused, rfl⟩ := known
    rw [List.append_nil]
    exact .payload opened refused

/-! ## Passes in a world -/

theorem settle_adopt {plan : Plan} {key : ObjectKey} {w : StatefulSet} {text : String}
    (annotated : payloadText? w = some text) (alive : isDeleted w = false) :
    settle plan key w = adopt plan key w text := by
  simp [settle, annotated, alive]

/-- In a world, listed pods are taken from its pods. -/
theorem lists_transcript {α : Type} (p : Pass α) (w : World) :
    ∀ ev ∈ p.transcript w, Lists w.cluster.pods ev := by
  refine Program.forall_mem_trace (fun v : World => v.cluster.pods = w.cluster.pods)
    (fun a v h => (answer_pods a v).trans h) ?_ p.run rfl
  intro a v h
  cases a with
  | cluster c =>
    cases c with
    | listPods space labels =>
      show Lists _ ⟨.cluster (.listPods space labels), (v.cluster.answer _).1⟩
      cases fails : v.cluster.fails (.listPods space labels) with
      | true =>
        rw [Memory.answer_of_fails fails]
        trivial
      | false =>
        rw [Memory.answer_of_not_fails fails]
        exact congrArg _ h
    | _ => trivial
  | compute c => trivial
  | node name ahead => trivial

/-- A pass that adopts a workload goes along its course, whatever the world holds and whatever
calls are told to fail. -/
theorem adoption_keeps_course (o : Operator) {event w : StatefulSet} {key : ObjectKey}
    {text : String} {s : Operator.State} (announced : Announces event key)
    (stored : s.world.cluster.statefulSets.get? key = some w)
    (annotated : payloadText? w = some text) (alive : isDeleted w = false)
    (prompt : s.delays = ∅) :
    let t := (ofEvent o.plan event).transcript s.world
    (o.pass event s).2.world.cluster.calls = s.world.cluster.calls ++ clusterCalls t ∧
    (o.pass event s).2.world.compute.calls = s.world.compute.calls ++ computeCalls t ∧
    Follows failure? (adoptionCourse o.plan key w text s.world.cluster.pods)
      (fun t _ => Accepted w text t) (Refused o.plan key w text s.world.cluster.pods) t
      (o.pass event s).1 := by
  intro t
  rw [o.pass_prompt event prompt]
  refine ⟨outcome_clusterCalls _ _, outcome_computeCalls _ _, ?_⟩
  rcases ofEvent_reads o.plan announced stored with ⟨e, asked, came⟩ | ⟨asked, came⟩
  · -- the workload could not be read
    rw [came, show t = _ from asked]
    exact .error (.take rfl (.stop _)) (.inl ⟨[], _, rfl, .nil, rfl⟩)
  · rw [settle_adopt annotated alive] at asked came
    rw [came, show t = _ from asked]
    have kept := keeps_adopt o.plan key w text (.ok (some w)) _ _
      (Program.path_run World.answer _ _) (lists_transcript (adopt o.plan key w text)
        (s.world.note (.getStatefulSet key)))
    rw [outcome]
    generalize ((adopt o.plan key w text).run.run World.answer _).1 = result at kept ⊢
    cases kept with
    | ok finished smooth accepted =>
      exact .ok (.take rfl finished) (.cons rfl smooth) accepted
    | error begun stopped =>
      refine .error (.take rfl begun) ?_
      exact stopped.imp (CutShort.prepend (.cons rfl .nil)) fun known =>
        ⟨.cons rfl known.1, known.2⟩

/-- With every creation of a group refused as one of an existing group, the pass over the small
workload stays on its course. -/
theorem small_adoption_keeps_course :
    Begun (adoptionCourse Small.operator.plan Small.key Small.workload Small.text [Small.pod])
      (((ofEvent Small.operator.plan Small.workload).transcript
        { Small.world with compute := Small.world.compute.inject "create_portmap_neg" 409 }).map
        (·.op)) :=
  Follows.begun (adoption_keeps_course Small.operator
    (s := { world := { Small.world with
      compute := Small.world.compute.inject "create_portmap_neg" 409 } })
    Small.announces_workload Small.get?_key Small.payloadText?_workload rfl rfl).2.2

end ReplicaPorts.Pass
