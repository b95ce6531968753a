import ReplicaPorts.Cluster.Memory
import ReplicaPorts.Proofs.Pass.Course

/-!
# The stages of a pass

Each stage of a pass has a course of its own: bringing one resource about, aligning the endpoints of
a group, bringing the exposure service about, finding the machines of the replicas. `stepOf?` names
the step to which a call belongs and `cause?` tells which answers fail a pass: all errors but two,
that something looked for is missing and that something to be created exists. `failure?` is the
error that a pass ends with for such an answer.

Only for the lookups of nodes is anything assumed of answers: that listed pods are taken from some
pods (`Lists`), since they decide which nodes are looked up.
-/

set_option autoImplicit false

namespace ReplicaPorts.Pass

open Cluster Compute

/-- The step in which a resource of a kind is brought about. -/
def stepOfKind : Kind → Step
  | .firewall => .firewall
  | .group => .group
  | .backend => .backend
  | .rule => .rule
  | .attachment => .attachment

/-- The step to which a call belongs; reading the workload belongs to none. -/
def stepOf? : Ask → Option Step
  | .cluster (.getStatefulSet _) => none
  | .cluster (.addFinalizer _ _) | .cluster (.removeFinalizer _ _) => some .finalizer
  | .cluster (.getService _) | .cluster (.createService _ _) | .cluster (.updateService _ _)
  | .cluster (.deleteService _) => some .service
  | .cluster (.listPods _ _) | .cluster (.getNode _) | .node _ _ => some .nodes
  | .compute (.get kind _) | .compute (.delete kind _) => some (stepOfKind kind)
  | .compute (.create _ design) => some (stepOfKind design.kind)
  | .compute (.updateFirewall _ _) => some .firewall
  | .compute (.listEndpoints _) | .compute (.attachEndpoints _ _)
  | .compute (.detachEndpoints _ _) => some .endpoints

/-- Whether a call to the Compute API may fail like this: what is looked for may be missing, and
what is to be created may exist. -/
def isTolerated : Compute.Call → Compute.Error → Bool
  | .get _ _, e => e.isNotFound
  | .create _ _, e => e.isAlreadyExists
  | _, _ => false

/-- The error that an event fails a pass with, without its step. -/
def cause? : Event asks → Option Error
  | ⟨.cluster _, .error e⟩ => some (.cluster e)
  | ⟨.node _ _, .error e⟩ => some (.cluster e)
  | ⟨.compute c, .error e⟩ => if isTolerated c e then none else some (.compute e)
  | ⟨.cluster _, .ok _⟩ | ⟨.node _ _, .ok _⟩ | ⟨.compute _, .ok _⟩ => none

/-- The error that an event fails a pass with. -/
def failure? (ev : Event asks) : Option Error :=
  (cause? ev).map fun e => (stepOf? ev.op).elim e (.step · e)

/-- Whatever is asked along a course belongs to a step. -/
def LiesIn (course : List Place) (s : Step) : Prop :=
  ∀ place ∈ course, ∀ a, place.admits a → stepOf? a = some s

variable {honest : Event asks → Prop}

theorem liesIn_nil (s : Step) : LiesIn [] s := fun _ mem => (List.not_mem_nil mem).elim

theorem keeps_during {α : Type} {course : List Place} {s : Step}
    {ok : List (Event asks) → α → Prop} {err : List (Event asks) → Error → Prop} {p : Pass α}
    (hp : Keeps cause? honest course ok err p) (lies : LiesIn course s) :
    Keeps failure? honest course ok (fun t e => ∃ e', e = .step s e' ∧ err t e') (during s p) := by
  refine hp.during fun place mem ev admits => ?_
  rw [failure?, lies place mem ev.op admits]
  rfl

theorem keeps_cluster (c : Cluster.Call) :
    Keeps cause? honest [.must (.cluster c)]
      (fun t a => t = [⟨.cluster c, .ok a⟩] ∧ honest ⟨.cluster c, .ok a⟩) (fun _ _ => False)
      (cluster c) := by
  intro t r h ht
  obtain ⟨x, rfl, rfl⟩ := takes_cluster_iff.mp h
  cases x with
  | ok a => exact .ok (.take rfl .nil) (.cons rfl .nil) ⟨rfl, ht _ List.mem_cons_self⟩
  | error e => exact .error (.take rfl (.stop _)) (.inl ⟨[], _, rfl, .nil, rfl⟩)

theorem keeps_node (name : String) (ahead : List String) :
    Keeps cause? honest [.must (.node name ahead)] (fun t a => t = [⟨.node name ahead, .ok a⟩])
      (fun _ _ => False) (node name ahead) := by
  intro t r h _
  obtain ⟨x, rfl, rfl⟩ := takes_node_iff.mp h
  cases x with
  | ok a => exact .ok (.take rfl .nil) (.cons rfl .nil) rfl
  | error e => exact .error (.take rfl (.stop _)) (.inl ⟨[], _, rfl, .nil, rfl⟩)

theorem path_repair {name : String} {design : Design} {t : List (Event Compute.calls)}
    {r : Except Compute.Error Unit} (h : Program.Path (design.repair name) t r) :
    (∃ ports, design = .firewall ports ∧ t = [⟨.updateFirewall name ports, r⟩]) ∨
      t = [] ∧ r = .ok () := by
  cases design with
  | firewall ports => exact .inl ⟨ports, rfl, Program.path_call_iff.mp h⟩
  | _ =>
    obtain ⟨rfl, rfl⟩ := Program.path_done_iff.mp h
    exact .inr ⟨rfl, rfl⟩

/-- The place at which a resource is created or, if it is a firewall, given other ports. -/
def provisionPlace (name : String) (design : Design) : Place :=
  .may fun a => a = .compute (.create name design) ∨
    ∃ ports, design = .firewall ports ∧ a = .compute (.updateFirewall name ports)

theorem keeps_provide (name : String) (design : Design) :
    Keeps cause? honest [.must (.compute (.get design.kind name)), provisionPlace name design]
      (fun _ _ => True) (fun _ _ => False) (compute (provide name design)) := by
  intro t r h _
  obtain ⟨t, x, rfl, rfl, path⟩ := takes_compute_iff.mp h
  simp only [provide, request, Program.bind_eq, Program.path_bind_iff] at path
  obtain ⟨_, got, t, rfl, first, rest⟩ := path
  obtain rfl := Program.path_call_iff.mp first
  cases got with
  | ok m =>
    have found : cause? (computeEvent ⟨.get design.kind name, .ok m⟩) = none := rfl
    dsimp only at rest
    split at rest
    · -- a stale resource is repaired
      obtain ⟨_, mended, _, rfl, repair, last⟩ := Program.path_bind_iff.mp rest
      rcases path_repair repair with ⟨ports, rfl, rfl⟩ | ⟨rfl, rfl⟩
      · cases mended with
        | ok _ =>
          obtain ⟨rfl, rfl⟩ := Program.path_done_iff.mp last
          exact .ok (.take rfl (.take (.inr ⟨ports, rfl, rfl⟩) .nil))
            (.cons rfl (.cons rfl .nil)) trivial
        | error e =>
          obtain ⟨rfl, rfl⟩ := Program.path_done_iff.mp last
          exact .error (.take rfl (.take (.inr ⟨ports, rfl, rfl⟩) (.stop _)))
            (.inl ⟨[_], _, rfl, .cons found .nil, rfl⟩)
      · obtain ⟨rfl, rfl⟩ := Program.path_done_iff.mp last
        exact .ok (.take rfl (.skip rfl .nil)) (.cons rfl .nil) trivial
    · obtain ⟨rfl, rfl⟩ := Program.path_done_iff.mp rest
      exact .ok (.take rfl (.skip rfl .nil)) (.cons rfl .nil) trivial
  | error e =>
    dsimp only at rest
    split at rest
    · -- a missing resource is created
      next missing =>
        have tolerated : cause? (computeEvent ⟨.get design.kind name, .error e⟩) = none := by
          simp [cause?, computeEvent, isTolerated, missing]
        obtain ⟨_, created, _, rfl, second, last⟩ := Program.path_bind_iff.mp rest
        obtain rfl := Program.path_call_iff.mp second
        cases created with
        | ok _ =>
          obtain ⟨rfl, rfl⟩ := Program.path_done_iff.mp last
          exact .ok (.take rfl (.take (.inl rfl) .nil)) (.cons tolerated (.cons rfl .nil)) trivial
        | error e' =>
          dsimp only at last
          split at last
          · next exists_ =>
              obtain ⟨rfl, rfl⟩ := Program.path_done_iff.mp last
              refine .ok (.take rfl (.take (.inl rfl) .nil)) (.cons tolerated (.cons ?_ .nil))
                trivial
              simp [cause?, computeEvent, isTolerated, exists_]
          · next fresh =>
              obtain ⟨rfl, rfl⟩ := Program.path_done_iff.mp last
              refine .error (.take rfl (.take (.inl rfl) (.stop _)))
                (.inl ⟨[_], _, rfl, .cons tolerated .nil, ?_⟩)
              simp [cause?, computeEvent, isTolerated, fresh]
    · next refused =>
        obtain ⟨rfl, rfl⟩ := Program.path_done_iff.mp rest
        refine .error (.take rfl (.stop _)) (.inl ⟨[], _, rfl, .nil, ?_⟩)
        simp [cause?, computeEvent, isTolerated, refused]

/-- Bringing one resource about: it is looked for, then created or repaired at most once. -/
def bringCourse (name : String) (design : Design) : List Place :=
  [.must (.compute (.get design.kind name)), provisionPlace name design]

theorem bringCourse_liesIn (name : String) (design : Design) :
    LiesIn (bringCourse name design) (stepOfKind design.kind) := by
  intro place mem a admits
  simp only [bringCourse, List.mem_cons, List.not_mem_nil, or_false] at mem
  rcases mem with rfl | rfl
  · obtain rfl : a = _ := admits
    rfl
  · rcases admits with rfl | ⟨ports, rfl, rfl⟩ <;> rfl

theorem keeps_bring {s : Step} (name : String) (design : Design) (h : s = stepOfKind design.kind) :
    Keeps failure? honest (bringCourse name design) (fun _ _ => True) (fun _ _ => False)
      (bring s name design) := by
  subst h
  have kept : Keeps cause? honest (bringCourse name design) (fun _ _ => True) (fun _ _ => False)
      (do let _ ← compute (provide name design)) :=
    (keeps_provide name design).bind_nil
      (fun t _ _ _ => Keeps.pure.weaken (fun _ _ _ => trivial) fun _ _ _ h => h) fun _ _ h => h
  exact (keeps_during kept (bringCourse_liesIn name design)).weaken (fun _ _ h => h)
    fun _ _ _ ⟨_, _, h⟩ => h

/-! ## Endpoints -/

/-- Aligning the endpoints of a group: they are listed, then some are detached at most once and some
attached at most once. -/
def endpointsCourse (group : String) : List Place :=
  [.must (.compute (.listEndpoints group)),
   .may fun a => ∃ mappings, a = .compute (.detachEndpoints group mappings),
   .may fun a => ∃ mappings, a = .compute (.attachEndpoints group mappings)]

theorem endpointsCourse_liesIn (group : String) : LiesIn (endpointsCourse group) .endpoints := by
  intro place mem a admits
  simp only [endpointsCourse, List.mem_cons, List.not_mem_nil, or_false] at mem
  rcases mem with rfl | rfl | rfl
  · obtain rfl : a = _ := admits
    rfl
  · obtain ⟨mappings, rfl⟩ := admits
    rfl
  · obtain ⟨mappings, rfl⟩ := admits
    rfl

private theorem path_attach {group : String} {lacking : List PortMapping}
    {t : List (Event Compute.calls)} {r : Except Compute.Error Unit}
    (h : Program.Path
      (if lacking = [] then pure (.ok ()) else request (.attachEndpoints group lacking)) t r) :
    t = [] ∧ r = .ok () ∨ t = [⟨.attachEndpoints group lacking, r⟩] := by
  split at h
  · obtain ⟨rfl, rfl⟩ := Program.path_done_iff.mp h
    exact .inl ⟨rfl, rfl⟩
  · exact .inr (Program.path_call_iff.mp h)

theorem keeps_alignEndpoints (group : String) (desired : List PortMapping) :
    Keeps cause? honest (endpointsCourse group) (fun _ _ => True) (fun _ _ => False)
      (compute (alignEndpoints group desired)) := by
  intro t r h _
  obtain ⟨t, x, rfl, rfl, path⟩ := takes_compute_iff.mp h
  simp only [alignEndpoints, request, Program.bind_eq, Program.path_bind_iff] at path
  obtain ⟨_, listed, t, rfl, first, rest⟩ := path
  obtain rfl := Program.path_call_iff.mp first
  cases listed with
  | error e =>
    obtain ⟨rfl, rfl⟩ := Program.path_done_iff.mp rest
    exact .error (.take rfl (.stop _)) (.inl ⟨[], _, rfl, .nil, rfl⟩)
  | ok actual =>
    dsimp only at rest
    split at rest
    · -- nothing is detached
      rcases path_attach rest with ⟨rfl, rfl⟩ | rfl
      · exact .ok (.take rfl (.skip rfl (.skip rfl .nil))) (.cons rfl .nil) trivial
      · cases x with
        | ok _ =>
          exact .ok (.take rfl (.skip rfl (.take ⟨_, rfl⟩ .nil))) (.cons rfl (.cons rfl .nil))
            trivial
        | error e =>
          exact .error (.take rfl (.skip rfl (.take ⟨_, rfl⟩ (.stop _))))
            (.inl ⟨[_], _, rfl, .cons rfl .nil, rfl⟩)
    · obtain ⟨_, detached, t, rfl, second, last⟩ := Program.path_bind_iff.mp rest
      obtain rfl := Program.path_call_iff.mp second
      cases detached with
      | error e =>
        obtain ⟨rfl, rfl⟩ := Program.path_done_iff.mp last
        exact .error (.take rfl (.take ⟨_, rfl⟩ (.stop _)))
          (.inl ⟨[_], _, rfl, .cons rfl .nil, rfl⟩)
      | ok _ =>
        rcases path_attach last with ⟨rfl, rfl⟩ | rfl
        · exact .ok (.take rfl (.take ⟨_, rfl⟩ (.skip rfl .nil))) (.cons rfl (.cons rfl .nil))
            trivial
        · cases x with
          | ok _ =>
            exact .ok (.take rfl (.take ⟨_, rfl⟩ (.take ⟨_, rfl⟩ .nil)))
              (.cons rfl (.cons rfl (.cons rfl .nil))) trivial
          | error e =>
            exact .error (.take rfl (.take ⟨_, rfl⟩ (.take ⟨_, rfl⟩ (.stop _))))
              (.inl ⟨[_, _], _, rfl, .cons rfl (.cons rfl .nil), rfl⟩)

/-! ## The service -/

/-- Bringing the exposure service about: it is looked for, then created or replaced at most once. -/
def serviceCourse (key : ObjectKey) : List Place :=
  [.must (.cluster (.getService key)),
   .may fun a => ∃ s, a = .cluster (.createService key.space s) ∨
     a = .cluster (.updateService key.space s)]

theorem serviceCourse_liesIn (key : ObjectKey) : LiesIn (serviceCourse key) .service := by
  intro place mem a admits
  simp only [serviceCourse, List.mem_cons, List.not_mem_nil, or_false] at mem
  rcases mem with rfl | rfl
  · obtain rfl : a = _ := admits
    rfl
  · obtain ⟨s, rfl | rfl⟩ := admits <;> rfl

theorem keeps_service (key : ObjectKey) (wanted : Service) :
    Keeps cause? honest (serviceCourse key) (fun _ _ => True) (fun _ _ => False)
      (NodeService.provide key wanted) := by
  refine (keeps_cluster (.getService key)).bind _ ?_ fun _ _ h => h
  intro _ found _ known
  obtain ⟨rfl, -⟩ := known
  intro t r h _
  cases found with
  | none =>
    obtain ⟨x, rfl, rfl⟩ := takes_cluster_iff.mp h
    cases x with
    | ok _ => exact .ok (.take ⟨_, .inl rfl⟩ .nil) (.cons rfl .nil) trivial
    | error e => exact .error (.take ⟨_, .inl rfl⟩ (.stop _)) (.inl ⟨[], _, rfl, .nil, rfl⟩)
  | some existing =>
    dsimp only at h
    split at h
    · obtain ⟨x, rfl, rfl⟩ := takes_cluster_iff.mp h
      cases x with
      | ok _ => exact .ok (.take ⟨_, .inr rfl⟩ .nil) (.cons rfl .nil) trivial
      | error e => exact .error (.take ⟨_, .inr rfl⟩ (.stop _)) (.inl ⟨[], _, rfl, .nil, rfl⟩)
    · obtain ⟨rfl, rfl⟩ := takes_pure_iff.mp h
      exact .ok (.skip rfl .nil) .nil trivial

/-! ## The machines -/

/-- The machine that an answer to the lookup of a node tells, or that it tells none. -/
def machineIn? : Event asks → Option (Except Error String)
  | ⟨.node name _, .ok found⟩ => some (machineOf name found.providerId)
  | _ => none

/-- What the answers to lookups of nodes tell of machines, in order. -/
def machinesIn (t : List (Event asks)) : List (Except Error String) := t.filterMap machineIn?

/-- Looking some nodes up, one after the other. -/
def lookupCourse (lookups : Nat) : List String → List Place
  | [] => []
  | name :: names => .must (.node name (names.take (lookups - 1))) :: lookupCourse lookups names

theorem lookupCourse_liesIn (lookups : Nat) (names : List String) :
    LiesIn (lookupCourse lookups names) .nodes := by
  induction names with
  | nil => exact fun _ mem => (List.not_mem_nil mem).elim
  | cons name names ih =>
    refine List.forall_mem_cons.mpr ⟨fun a admits => ?_, ih⟩
    obtain rfl : a = _ := admits
    rfl

theorem keeps_machinesOf (lookups : Nat) (names : List String) :
    Keeps cause? honest (lookupCourse lookups names)
      (fun t paths => machinesIn t = paths.map .ok)
      (fun t e => ∃ before last, t = before ++ [last] ∧ machineIn? last = some (.error e))
      (machinesOf lookups names) := by
  induction names with
  | nil =>
    refine Keeps.pure.weaken ?_ fun _ _ _ h => h.elim
    intro _ _ known
    obtain ⟨rfl, rfl⟩ := known
    rfl
  | cons name names ih =>
    refine (keeps_node name _).bind (lookupCourse lookups names) ?_ fun _ _ h => h.elim
    intro _ found _ known
    obtain rfl := known
    refine Keeps.ofExcept.bind (lookupCourse lookups names) ?_ ?_
    · intro _ path _ known
      obtain ⟨rfl, told⟩ := known
      refine ih.bind_nil (fun t paths _ rest => ?_) ?_
      · refine Keeps.pure.weaken ?_ fun _ _ _ h => h.elim
        intro _ _ known
        obtain ⟨rfl, rfl⟩ := known
        simp [machinesIn, machineIn?, told, ← rest]
      · intro t e known
        obtain ⟨before, last, rfl, h⟩ := known
        exact ⟨_ :: before, last, rfl, h⟩
    · intro _ _ known
      obtain ⟨rfl, e, told, rfl⟩ := known
      exact ⟨[], _, rfl, congrArg some told⟩

/-- What is known of the answers to listings: they are taken from some pods. -/
def Lists (pods : List Pod) : Event asks → Prop
  | ⟨.cluster (.listPods space labels), .ok found⟩ =>
    found = pods.filter (Memory.selects space labels)
  | _ => True

/-- Finding the machines of the replicas among some pods. -/
def machinesCourse (lookups : Nat) (space : String) (selector : Labels) (pods : List Pod) :
    List Place :=
  .must (.cluster (.listPods space selector)) ::
    lookupCourse lookups
      ((Replica.ofPods (pods.filter (Memory.selects space selector))).map (·.node))

theorem machinesCourse_liesIn (lookups : Nat) (space : String) (selector : Labels)
    (pods : List Pod) : LiesIn (machinesCourse lookups space selector pods) .nodes := by
  refine List.forall_mem_cons.mpr ⟨fun a admits => ?_, lookupCourse_liesIn _ _⟩
  obtain rfl : a = _ := admits
  rfl

theorem keeps_replicaMachines (lookups : Nat) (space : String) (selector : Labels)
    (pods : List Pod) :
    Keeps cause? (Lists pods) (machinesCourse lookups space selector pods)
      (fun t paths => machinesIn t = paths.map .ok)
      (fun t e => ∃ before last, t = before ++ [last] ∧ machineIn? last = some (.error e))
      (replicaMachines lookups space selector) := by
  refine (keeps_cluster (.listPods space selector)).bind (lookupCourse ..) ?_
    fun _ _ h => h.elim
  intro _ found _ known
  obtain ⟨rfl, rfl⟩ := known
  refine (keeps_machinesOf lookups _).weaken (fun _ _ h => h) ?_
  intro _ _ _ known
  obtain ⟨before, last, rfl, h⟩ := known
  exact ⟨_ :: before, last, rfl, h⟩

end ReplicaPorts.Pass
