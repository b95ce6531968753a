import ReplicaPorts.Proofs.Pass.Adoption
import ReplicaPorts.Proofs.Pass.Chain
import ReplicaPorts.Proofs.Pass.Exposure
import ReplicaPorts.Proofs.Payload.Accepted

/-!
# The errands of a pass

`Errand` lists what a pass for a workload may ask, with all that the asks carry: the finalizer, the
service under the name that the prefix gives, the resources under theirs with the designs of the
payload, and mappings of the ports on machines that nodes told. `Sticks` says that a pass asks
nothing but what is admitted, provided that the answers are `Honest`: what is read, listed and found
is as is known of it. Every pass for a workload sticks to its errands (`sticks_ofEvent`), so what
holds of each errand holds of all that passes ask.
-/

set_option autoImplicit false

namespace ReplicaPorts.Pass

open Cluster Compute

variable {α β : Type}

/-! ## Passes that ask only what is admitted -/

/-- Whoever gives honest answers, a pass asks only what is admitted, and a value that it ends with
is known. -/
def Sticks (honest : Event asks → Prop) (admitted : Ask → Prop) (known : α → Prop) (p : Pass α) :
    Prop :=
  ∀ t r, Takes p t r → (∀ ev ∈ t, honest ev) →
    (∀ ev ∈ t, admitted ev.op) ∧ ∀ a, r = .ok a → known a

variable {honest : Event asks → Prop} {admitted : Ask → Prop}

theorem Sticks.weaken {known known' : α → Prop} {p : Pass α} (h : Sticks honest admitted known p)
    (imp : ∀ a, known a → known' a) : Sticks honest admitted known' p := by
  intro t r takes honestly
  obtain ⟨asked, value⟩ := h t r takes honestly
  exact ⟨asked, fun a same => imp a (value a same)⟩

theorem Sticks.ofExcept {ε : Type} (error : ε → Error) (x : Except ε α) :
    Sticks honest admitted (fun a => x = .ok a) (ofExcept error x) := by
  intro t r takes _
  obtain ⟨rfl, rfl⟩ := takes_ofExcept_iff.mp takes
  refine ⟨fun ev mem => (List.not_mem_nil mem).elim, fun a same => ?_⟩
  cases x with
  | ok b => exact congrArg _ (Except.ok.inj same)
  | error e => cases same

theorem Sticks.pure {known : α → Prop} {a : α} (h : known a) :
    Sticks honest admitted known (pure a) := by
  intro t r takes _
  obtain ⟨rfl, rfl⟩ := takes_pure_iff.mp takes
  refine ⟨fun ev mem => (List.not_mem_nil mem).elim, fun b same => ?_⟩
  exact Except.ok.inj same ▸ h

theorem Sticks.bind {known : α → Prop} {known' : β → Prop} {p : Pass α} {f : α → Pass β}
    (hp : Sticks honest admitted known p)
    (hf : ∀ a, known a → Sticks honest admitted known' (f a)) :
    Sticks honest admitted known' (p >>= f) := by
  intro t r takes honestly
  rcases takes_bind_iff.mp takes with ⟨e, rfl, h₁⟩ | ⟨t₁, a, t₂, rfl, h₁, h₂⟩
  · exact ⟨(hp t _ h₁ honestly).1, by rintro _ ⟨⟩⟩
  · obtain ⟨honestly₁, honestly₂⟩ := List.forall_mem_append.mp honestly
    obtain ⟨asked₁, value⟩ := hp t₁ _ h₁ honestly₁
    obtain ⟨asked₂, value₂⟩ := hf a (value a rfl) t₂ r h₂ honestly₂
    exact ⟨List.forall_mem_append.mpr ⟨asked₁, asked₂⟩, value₂⟩

theorem Sticks.during {known : α → Prop} {p : Pass α} (h : Sticks honest admitted known p)
    (s : Step) : Sticks honest admitted known (during s p) := by
  intro t r takes honestly
  obtain ⟨r', rfl, inner⟩ := takes_during_iff.mp takes
  obtain ⟨asked, value⟩ := h t r' inner honestly
  refine ⟨asked, fun a same => value a ?_⟩
  cases r' with
  | ok b => exact congrArg _ (Except.ok.inj same)
  | error e => cases same

theorem Sticks.forgiven {known : Unit → Prop} {p : Pass Unit} (h : Sticks honest admitted known p) :
    Sticks honest admitted (fun _ => True) (tryCatch p fun _ => Pure.pure ()) := by
  intro t r takes honestly
  rw [Takes, forgiven_run, Program.path_bind_iff] at takes
  obtain ⟨t₁, r₁, t₂, rfl, inner, last⟩ := takes
  obtain ⟨rfl, -⟩ := Program.path_done_iff.mp last
  rw [List.append_nil] at honestly ⊢
  exact ⟨(h t₁ r₁ inner honestly).1, fun _ _ => trivial⟩

/-- An admitted call to the cluster; of its answer is known what honest ones are. -/
theorem Sticks.cluster {c : Cluster.Call} (h : admitted (.cluster c)) :
    Sticks honest admitted (fun a => honest ⟨.cluster c, .ok a⟩) (cluster c) := by
  intro t r takes honestly
  obtain ⟨x, rfl, rfl⟩ := takes_cluster_iff.mp takes
  have honestly := List.forall_mem_singleton.mp honestly
  refine ⟨List.forall_mem_singleton.mpr h, fun a same => ?_⟩
  cases x with
  | ok b => exact Except.ok.inj same ▸ honestly
  | error e => cases same

theorem Sticks.node {name : String} {ahead : List String} (h : admitted (.node name ahead)) :
    Sticks honest admitted (fun _ => True) (node name ahead) := by
  intro t r takes _
  obtain ⟨x, rfl, -⟩ := takes_node_iff.mp takes
  exact ⟨List.forall_mem_singleton.mpr h, fun _ _ => trivial⟩

/-- A program of calls to the Compute API sticks to what its paths do. -/
theorem Sticks.compute {p : Program Compute.calls (Except Compute.Error α)}
    (h : ∀ t x, Program.Path p t x → ∀ ev ∈ t, admitted (.compute ev.op)) :
    Sticks honest admitted (fun _ => True) (compute p) := by
  intro t r takes _
  obtain ⟨t', x, rfl, -, path⟩ := takes_compute_iff.mp takes
  exact ⟨List.forall_mem_map.mpr fun ev mem => h t' x path ev mem, fun _ _ => trivial⟩

/-- A pass that keeps to a course sticks to what is admitted along it. -/
theorem Sticks.of_keeps {fails : Event asks → Option Error} {course : List Place}
    {ok : List (Event asks) → α → Prop} {err : List (Event asks) → Error → Prop} {p : Pass α}
    (h : Keeps fails honest course ok err p)
    (along : ∀ place ∈ course, ∀ a, place.admits a → admitted a) :
    Sticks honest admitted (fun _ => True) p := by
  intro t r takes honestly
  refine ⟨fun ev mem => ?_, fun _ _ => trivial⟩
  obtain ⟨place, at_, admits⟩ := (h t r takes honestly).begun.admitted ev.op
    (List.mem_map_of_mem mem)
  exact along place at_ ev.op admits

/-! ## Errands -/

/-- A path is that of a machine that some provider ID names. -/
def Told (path : String) : Prop := ∃ id, Replica.machinePath? id = some path

/-- What is asked of the Compute API to bring the resources of a payload about, the group with some
mappings for its endpoints. -/
inductive Provision (place : Location) (p : Payload) (mappings : List PortMapping) :
    Compute.Call → Prop where
  | get (kind : Kind) : Provision place p mappings
      (.get kind ((Names.of p.namePrefix).resource kind))
  | create (kind : Kind) : Provision place p mappings
      (.create ((Names.of p.namePrefix).resource kind) (designOf place p kind))
  | updateFirewall : Provision place p mappings
      (.updateFirewall (Names.of p.namePrefix).firewall p.nodePorts)
  | listEndpoints : Provision place p mappings (.listEndpoints (Names.of p.namePrefix).group)
  | detachEndpoints (surplus : List PortMapping) : Provision place p mappings
      (.detachEndpoints (Names.of p.namePrefix).group surplus)
  | attachEndpoints {lacking : List PortMapping} (wanted : lacking.Sublist mappings) :
      Provision place p mappings (.attachEndpoints (Names.of p.namePrefix).group lacking)

/-- What is known of the workloads that are read, of the pods that are listed and of the services
that are found. -/
structure Findings where
  workload : ObjectKey → StatefulSet → Prop
  pods : String → Labels → List Pod → Prop
  service : ObjectKey → Service → Prop

/-- Answers are as is known of them. -/
def Findings.Honest (f : Findings) : Event asks → Prop
  | ⟨.cluster (.getStatefulSet key), .ok (some w)⟩ => f.workload key w
  | ⟨.cluster (.listPods space labels), .ok pods⟩ => f.pods space labels pods
  | ⟨.cluster (.getService key), .ok (some s)⟩ => f.service key s
  | _ => True

/-- What a world stores is as is known of it. -/
structure Findings.Hold (f : Findings) (w : World) : Prop where
  workload : ∀ key s, w.cluster.statefulSets.get? key = some s → f.workload key s
  pods : ∀ space labels, f.pods space labels (w.cluster.pods.filter (Memory.selects space labels))
  service : ∀ key s, w.cluster.services.get? key = some s → f.service key s

/-- Mappings of the ports of a payload on machines that nodes told, one for each replica among some
listed pods. -/
def Mapped (listed : List Pod → Prop) (p : Payload) (mappings : List PortMapping) : Prop :=
  ∃ pods paths, listed pods ∧ paths.length = (Replica.ofPods pods).length ∧
    (∀ path ∈ paths, Told path) ∧ PortRun.mappings p.ports paths = .ok mappings

/-- A payload that a workload which is read spells, accepted or not. -/
def Findings.Spells (f : Findings) (key : ObjectKey) (p : Payload) : Prop :=
  ∃ w text, f.workload key w ∧ payloadText? w = some text ∧ Payload.decode text = .ok p

/-- A workload that is read asks for the ports of an accepted payload and selects its replicas. -/
structure Findings.Grants (f : Findings) (key : ObjectKey) (w : StatefulSet) (p : Payload)
    (selector : Labels) : Prop where
  found : f.workload key w
  accepted : ∃ text, payloadText? w = some text ∧ Payload.parse text = .ok p
  ports : p.ports.isEmpty = false
  selects : selector? w = some selector

/-- The key of the exposure service of a workload. -/
def serviceOf (key : ObjectKey) (p : Payload) : ObjectKey :=
  ⟨key.space, (Names.of p.namePrefix).service⟩

/-- What a pass for a workload may ask. -/
inductive Errand (f : Findings) (place : Location) (key : ObjectKey) : Ask → Prop where
  | read : Errand f place key (.cluster (.getStatefulSet key))
  | addFinalizer : Errand f place key (.cluster (.addFinalizer key finalizer))
  | removeFinalizer : Errand f place key (.cluster (.removeFinalizer key finalizer))
  | deleteService {p : Payload} (spelled : f.Spells key p) :
      Errand f place key (.cluster (.deleteService (serviceOf key p)))
  | delete {p : Payload} (spelled : f.Spells key p) (kind : Kind) :
      Errand f place key (.compute (.delete kind ((Names.of p.namePrefix).resource kind)))
  | getService {w : StatefulSet} {p : Payload} {selector : Labels}
      (granted : f.Grants key w p selector) :
      Errand f place key (.cluster (.getService (serviceOf key p)))
  | createService {w : StatefulSet} {p : Payload} {selector : Labels}
      (granted : f.Grants key w p selector) :
      Errand f place key (.cluster (.createService key.space
        (NodeService.wanted w (serviceOf key p) selector p)))
  | updateService {w : StatefulSet} {p : Payload} {selector : Labels} {existing : Service}
      (granted : f.Grants key w p selector) (found : f.service (serviceOf key p) existing) :
      Errand f place key (.cluster (.updateService key.space
        (NodeService.mended existing (NodeService.wanted w (serviceOf key p) selector p))))
  | listPods (labels : Labels) : Errand f place key (.cluster (.listPods key.space labels))
  | node (name : String) (ahead : List String) : Errand f place key (.node name ahead)
  | provision {w : StatefulSet} {p : Payload} {selector : Labels} {mappings : List PortMapping}
      {c : Compute.Call} (granted : f.Grants key w p selector)
      (mapped : Mapped (f.pods key.space selector) p mappings)
      (asked : Provision place p mappings c) : Errand f place key (.compute c)

variable {f : Findings} {place : Location} {key : ObjectKey} {p : Payload}

theorem Findings.Grants.spells {w : StatefulSet} {selector : Labels}
    (h : f.Grants key w p selector) : f.Spells key p := by
  obtain ⟨text, annotated, parsed⟩ := h.accepted
  exact ⟨w, text, h.found, annotated, (Payload.parse_eq_ok_iff.mp parsed).1⟩

/-- What is known of what a world stores is known of its answers. -/
theorem Findings.Hold.answers {w : World} (h : f.Hold w) (a : Ask) :
    f.Honest ⟨a, (w.answer a).1⟩ := by
  have answered : ∀ c : Cluster.Call, f.Honest ⟨.cluster c, (w.cluster.answer c).1⟩ := by
    intro c
    cases fails : w.cluster.fails c with
    | true =>
      rw [Memory.answer_of_fails fails]
      cases c <;> trivial
    | false =>
      rw [Memory.answer_of_not_fails fails]
      cases c with
      | getStatefulSet k =>
        show f.Honest ⟨.cluster (.getStatefulSet k), Except.ok (w.cluster.statefulSets.get? k)⟩
        cases stored : w.cluster.statefulSets.get? k with
        | none => trivial
        | some s => exact h.workload k s stored
      | listPods space labels => exact h.pods space labels
      | getService k =>
        show f.Honest ⟨.cluster (.getService k), Except.ok (w.cluster.services.get? k)⟩
        cases stored : w.cluster.services.get? k with
        | none => trivial
        | some s => exact h.service k s stored
      | _ => trivial
  cases a with
  | cluster c => exact answered c
  | compute c => trivial
  | node name ahead => trivial

/-- What is known of what is stored stays so under any call. -/
structure Findings.Stable (f : Findings) : Prop where
  workload : ∀ key s edit, f.workload key s → f.workload key (Memory.refinalized edit s)
  service : ∀ (m : Memory) c, (∀ key s, m.services.get? key = some s → f.service key s) →
    ∀ key s, (m.answer c).2.services.get? key = some s → f.service key s

theorem Findings.Hold.answer {w : World} (h : f.Hold w) (stable : f.Stable) (a : Ask) :
    f.Hold (w.answer a).2 := by
  have called : ∀ c : Cluster.Call, f.Hold (w.answerCluster c).2 := by
    intro c
    refine ⟨fun key s stored => ?_, fun space labels => ?_, stable.service _ c h.service⟩
    · obtain ⟨edit, changed | same⟩ := w.cluster.get?_answer c key
      · obtain ⟨s', stored', rfl⟩ := Option.map_eq_some_iff.mp (changed.symm.trans stored)
        exact stable.workload key s' edit (h.workload key s' stored')
      · exact h.workload key s (same.symm.trans stored)
    · have pods : (w.answerCluster c).2.cluster.pods = w.cluster.pods :=
        Memory.answer_pods c w.cluster
      rw [pods]
      exact h.pods space labels
  cases a with
  | cluster c => exact called c
  | compute c => exact ⟨h.workload, h.pods, h.service⟩
  | node name ahead => exact called (.getNode name)

/-- In a world of which something is known, all answers are honest. -/
theorem Findings.Hold.transcript {w : World} (h : f.Hold w) (stable : f.Stable) (p : Pass α) :
    ∀ ev ∈ p.transcript w, f.Honest ev :=
  Program.forall_mem_trace f.Hold (fun a _ h => h.answer stable a) (fun a _ h => h.answers a)
    p.run h

/-! ## Bringing about -/

theorem sticks_bring {mappings : List PortMapping}
    (admits : ∀ c, Provision place p mappings c → admitted (.compute c)) (kind : Kind) :
    Sticks honest admitted (fun _ => True)
      (bring (stepOfKind kind) ((Names.of p.namePrefix).resource kind)
        (designOf place p kind)) := by
  refine Sticks.of_keeps (keeps_bring _ _ (by rw [designOf_kind])) fun pl mem a at_ => ?_
  simp only [bringCourse, designOf_kind, List.mem_cons, List.not_mem_nil, or_false] at mem
  rcases mem with rfl | rfl
  · obtain rfl : a = _ := at_
    exact admits _ (.get kind)
  · rcases at_ with rfl | ⟨ports, design, rfl⟩
    · exact admits _ (.create kind)
    · -- only a firewall is given other ports, and those of the payload
      cases kind with
      | firewall =>
        obtain rfl := Design.firewall.inj design
        exact admits _ .updateFirewall
      | _ => cases design

theorem sticks_alignEndpoints {mappings : List PortMapping}
    (admits : ∀ c, Provision place p mappings c → admitted (.compute c)) :
    Sticks honest admitted (fun _ => True)
      (compute (alignEndpoints (Names.of p.namePrefix).group mappings)) := by
  refine Sticks.compute fun t x path => ?_
  rw [alignEndpoints_eq, Program.path_bind_iff] at path
  obtain ⟨_, listed, t, rfl, first, rest⟩ := path
  obtain rfl := Program.path_call_iff.mp first
  refine List.forall_mem_append.mpr
    ⟨List.forall_mem_singleton.mpr (admits _ .listEndpoints), ?_⟩
  cases listed with
  | error e =>
    obtain ⟨rfl, -⟩ := Program.path_done_iff.mp rest
    exact fun ev mem => (List.not_mem_nil mem).elim
  | ok actual =>
    obtain ⟨t₁, detached, t₂, rfl, second, third⟩ := Program.path_bind_iff.mp rest
    refine List.forall_mem_append.mpr ⟨?_, ?_⟩
    · unfold detachSurplus at second
      split at second
      · obtain ⟨rfl, -⟩ := Program.path_done_iff.mp second
        exact fun ev mem => (List.not_mem_nil mem).elim
      · obtain rfl := Program.path_call_iff.mp second
        exact List.forall_mem_singleton.mpr (admits _ (.detachEndpoints _))
    · cases detached with
      | error e =>
        obtain ⟨rfl, -⟩ := Program.path_done_iff.mp third
        exact fun ev mem => (List.not_mem_nil mem).elim
      | ok _ =>
        dsimp only [attachLacking] at third
        split at third
        · obtain ⟨rfl, -⟩ := Program.path_done_iff.mp third
          exact fun ev mem => (List.not_mem_nil mem).elim
        · obtain rfl := Program.path_call_iff.mp third
          have sub : (PortMapping.lacking mappings actual).Sublist mappings := List.filter_sublist
          exact List.forall_mem_singleton.mpr (admits _ (.attachEndpoints sub))

theorem sticks_bringAll {mappings : List PortMapping}
    (admits : ∀ c, Provision place p mappings c → admitted (.compute c)) :
    Sticks honest admitted (fun _ => True)
      (bringAll place (Names.of p.namePrefix) p mappings) := by
  refine (sticks_bring admits .firewall).bind fun _ _ => ?_
  refine (sticks_bring admits .group).bind fun _ _ => ?_
  refine (sticks_bring admits .backend).bind fun _ _ => ?_
  refine ((sticks_alignEndpoints admits).during .endpoints).bind fun _ _ => ?_
  refine (sticks_bring admits .rule).bind fun _ _ => ?_
  exact sticks_bring admits .attachment

/-! ## The service and the machines -/

theorem sticks_service {w : StatefulSet} {selector : Labels} (granted : f.Grants key w p selector) :
    Sticks f.Honest (Errand f place key) (fun _ => True)
      (NodeService.provide (serviceOf key p)
        (NodeService.wanted w (serviceOf key p) selector p)) := by
  refine (Sticks.cluster (.getService granted)).bind fun found honestly => ?_
  cases found with
  | none =>
    exact (Sticks.cluster (Errand.createService granted)).weaken fun _ _ => trivial
  | some existing =>
    dsimp only
    split
    · exact (Sticks.cluster (Errand.updateService granted honestly)).weaken fun _ _ => trivial
    · exact Sticks.pure trivial

theorem sticks_machinesOf (lookups : Nat) (names : List String) :
    Sticks honest (Errand f place key)
      (fun paths => paths.length = names.length ∧ ∀ path ∈ paths, Told path)
      (machinesOf lookups names) := by
  induction names with
  | nil => exact Sticks.pure ⟨rfl, fun _ mem => (List.not_mem_nil mem).elim⟩
  | cons name names ih =>
    refine (Sticks.node (.node _ _)).bind fun found _ => ?_
    refine (Sticks.ofExcept _ _).bind fun path told => ?_
    refine ih.bind fun paths known => ?_
    have named : Told path := ⟨_, machineOf_eq_ok_iff.mp told⟩
    exact Sticks.pure ⟨congrArg Nat.succ known.1, List.forall_mem_cons.mpr ⟨named, known.2⟩⟩

theorem sticks_replicaMachines (lookups : Nat) (selector : Labels) :
    Sticks f.Honest (Errand f place key)
      (fun paths => ∃ pods, f.pods key.space selector pods ∧
        paths.length = (Replica.ofPods pods).length ∧ ∀ path ∈ paths, Told path)
      (replicaMachines lookups key.space selector) := by
  refine (Sticks.cluster (.listPods selector)).bind fun pods listed => ?_
  refine (sticks_machinesOf lookups _).weaken fun paths known => ?_
  exact ⟨pods, listed, known.1.trans (List.length_map _), known.2⟩

/-! ## Whole passes -/

theorem sticks_expose {plan : Plan} {w : StatefulSet} {text : String} (found : f.workload key w)
    (annotated : payloadText? w = some text) (parsed : Payload.parse text = .ok p) :
    Sticks f.Honest (Errand f plan.place key) (fun _ => True) (expose plan key w p) := by
  unfold expose
  cases asked : p.ports.isEmpty with
  | true => exact Sticks.pure trivial
  | false =>
    cases selects : selector? w with
    | none => exact (Sticks.ofExcept (ε := Error) id (.error _)).weaken fun _ _ => trivial
    | some selector =>
      have granted : f.Grants key w p selector :=
        ⟨found, ⟨text, annotated, parsed⟩, asked, selects⟩
      refine ((sticks_service granted).during _).bind fun _ _ => ?_
      refine ((sticks_replicaMachines _ selector).during _).bind fun paths known => ?_
      refine ((Sticks.ofExcept _ _).during _).bind fun mappings given => ?_
      obtain ⟨pods, listed, count, told⟩ := known
      have mapped : Mapped (f.pods key.space selector) p mappings :=
        ⟨pods, paths, listed, count, told, given⟩
      exact sticks_bringAll fun c asked => .provision granted mapped asked

theorem sticks_remove (spelled : f.Spells key p) (s : Step) (kind : Kind) :
    Sticks honest (Errand f place key) (fun _ => True)
      (remove s kind ((Names.of p.namePrefix).resource kind)) := by
  refine Sticks.during (Sticks.bind (Sticks.compute ?_) fun _ _ => Sticks.pure trivial) s
  intro t x path
  simp only [retire, request, Program.bind_eq, Program.path_bind_iff] at path
  obtain ⟨_, deleted, t, rfl, first, last⟩ := path
  obtain rfl := Program.path_call_iff.mp first
  -- whatever the answer, nothing else is asked
  have silent : t = [] := by
    cases deleted with
    | ok _ => exact (Program.path_done_iff.mp last).1
    | error e =>
      dsimp only at last
      split at last <;> exact (Program.path_done_iff.mp last).1
  subst silent
  exact List.forall_mem_singleton.mpr (.delete spelled kind)

theorem sticks_removeAll (spelled : f.Spells key p) :
    Sticks honest (Errand f place key) (fun _ => True) (removeAll (Names.of p.namePrefix)) := by
  refine (sticks_remove spelled .attachment .attachment).bind fun _ _ => ?_
  refine (sticks_remove spelled .rule .rule).bind fun _ _ => ?_
  refine (sticks_remove spelled .backend .backend).bind fun _ _ => ?_
  refine (sticks_remove spelled .group .group).bind fun _ _ => ?_
  exact sticks_remove spelled .firewall .firewall

theorem sticks_letGo : Sticks honest (Errand f place key) (fun _ => True) (letGo key) :=
  Sticks.during ((Sticks.cluster Errand.removeFinalizer).weaken fun _ _ => trivial) .finalizer

theorem sticks_dismantle {w : StatefulSet} {text : String} (found : f.workload key w)
    (annotated : payloadText? w = some text) :
    Sticks honest (Errand f place key) (fun _ => True) (dismantle key text) := by
  refine ((Sticks.ofExcept _ _).during .payload).bind fun p decoded => ?_
  have spelled : f.Spells key p := ⟨w, text, found, annotated, decoded⟩
  refine (Sticks.forgiven (Sticks.cluster (Errand.deleteService spelled))).bind fun _ _ => ?_
  exact (sticks_removeAll spelled).bind fun _ _ => sticks_letGo

theorem sticks_settle {plan : Plan} {w : StatefulSet} (found : f.workload key w) :
    Sticks f.Honest (Errand f plan.place key) (fun _ => True) (settle plan key w) := by
  unfold settle
  cases annotated : payloadText? w with
  | none =>
    cases isFinalized w with
    | true => exact sticks_letGo
    | false => exact Sticks.pure trivial
  | some text =>
    cases isDeleted w with
    | true =>
      cases isFinalized w with
      | true => exact sticks_dismantle found annotated
      | false => exact Sticks.pure trivial
    | false =>
      have finalize : Sticks f.Honest (Errand f plan.place key) (fun _ => True)
          (if isFinalized w then pure ()
            else during .finalizer (cluster (.addFinalizer key finalizer))) := by
        cases isFinalized w with
        | true => exact Sticks.pure trivial
        | false =>
          exact Sticks.during ((Sticks.cluster Errand.addFinalizer).weaken fun _ _ => trivial) _
      simp only [adopt_eq]
      refine finalize.bind fun _ _ => ?_
      refine ((Sticks.ofExcept _ _).during .payload).bind fun p parsed => ?_
      exact sticks_expose found annotated parsed

/-- A pass for an announced workload sticks to its errands. -/
theorem sticks_ofEvent (plan : Plan) {event : StatefulSet} (announced : Announces event key) :
    Sticks f.Honest (Errand f plan.place key) (fun _ => True) (ofEvent plan event) := by
  rw [ofEvent_eq announced]
  refine (Sticks.cluster .read).bind fun found honestly => ?_
  cases found with
  | none => exact Sticks.pure trivial
  | some w => exact sticks_settle honestly

end ReplicaPorts.Pass
