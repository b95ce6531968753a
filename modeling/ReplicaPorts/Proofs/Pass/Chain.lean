import ReplicaPorts.Proofs.Pass.Endpoints
import ReplicaPorts.Proofs.Pass.Quiet
import ReplicaPorts.Proofs.Pass.Removal

/-!
# Bringing the chain of resources about

Where the Compute API fails no call, all resources of a workload are brought about, whatever there
is of them: each finds the one that it refers to, which was brought about before, and leaves the
others alone. `Brought` is what holds on the way. Only two things can be in the way of that
(`leads_bringAll`): a slash in the prefix, since an attachment looks for its rule by the last
segment of a path, and mappings that share a port. A chain that is in order, with the endpoints that
are wanted, is only looked at.
-/

set_option autoImplicit false

namespace ReplicaPorts

open Cluster Compute

/-! ## Names and paths -/

theorem Names.slash_not_mem {namePrefix : String} (h : '/' ∉ namePrefix.toList) (kind : Kind) :
    '/' ∉ ((Names.of namePrefix).resource kind).toList := by
  have same : ∀ s : String, toString s = s := fun _ => rfl
  cases kind <;> simp [Names.of, Names.resource, same, h]

namespace Pass

/-- What the resource of a kind is created from. -/
def designOf (place : Location) (p : Payload) : Kind → Design
  | .firewall => .firewall p.nodePorts
  | .group => .group
  | .backend => .backend (Names.of p.namePrefix).group
  | .rule => .rule (Names.of p.namePrefix).backend p.address (p.globalAccess.getD false)
  | .attachment => .attachment (Path.resource place .rule (Names.of p.namePrefix).rule)
      (p.consumers.map (·.limit)) p.natSubnets

@[simp] theorem designOf_kind (place : Location) (p : Payload) (kind : Kind) :
    (designOf place p kind).kind = kind := by
  cases kind <;> rfl

/-- The kind of the resource that a resource refers to. -/
def needs? : Kind → Option Kind
  | .firewall | .group => none
  | .backend => some .group
  | .rule => some .backend
  | .attachment => some .rule

variable {place : Location} {p : Payload} {w v : World}

/-- Resources of some kinds were brought about in a Compute API that fails no call. -/
structure Brought (place : Location) (p : Payload) (done : List Kind) (w v : World) : Prop where
  cluster : v.cluster = w.cluster
  calm : v.compute.Calm
  stays : v.compute.place = w.compute.place
  paired : v.compute.store.Paired
  met : ∀ kind ∈ done,
    v.compute.store.Meets ((Names.of p.namePrefix).resource kind) (designOf place p kind)

theorem exists_of_meets {s : Store} {name : String} {kind : Kind}
    (h : s.Meets name (designOf place p kind)) : (s.find? kind name).isSome = true := by
  obtain ⟨m, found, -⟩ := h
  cases kind <;> exact Option.isSome_iff_exists.mpr ⟨m, found⟩

/-- What a design refers to is there once the kind that it needs was brought about. -/
theorem Brought.founded {done : List Kind} (h : Brought place p done w v)
    (slashless : '/' ∉ p.namePrefix.toList) {kind : Kind}
    (needed : ∀ k, needs? kind = some k → k ∈ done) :
    v.compute.store.dangling? (designOf place p kind) = none := by
  cases kind with
  | firewall => rfl
  | group => rfl
  | backend => exact if_pos (exists_of_meets (h.met _ (needed _ rfl)))
  | rule => exact if_pos (exists_of_meets (h.met _ (needed _ rfl)))
  | attachment =>
    simp only [designOf, Store.dangling?]
    rw [Store.nameAt_resource]
    · exact if_pos (exists_of_meets (h.met _ (needed _ rfl)))
    · exact Names.slash_not_mem slashless .rule

/-- The endpoints of a group are what is wanted, in some order. -/
def Aligned (group : String) (wanted : List PortMapping) (s : Store) : Prop :=
  ∃ ms, s.endpoints.get? group = some ms ∧ ∀ m, m ∈ ms ↔ m ∈ wanted

/-- Only a slash in the prefix hides what a design refers to. -/
theorem Brought.slash_of_dangling {done : List Kind} (h : Brought place p done w v) {kind : Kind}
    (needed : ∀ k, needs? kind = some k → k ∈ done)
    (dangling : v.compute.store.dangling? (designOf place p kind) ≠ none) :
    '/' ∈ p.namePrefix.toList := by
  by_cases slash : '/' ∈ p.namePrefix.toList
  · exact slash
  · exact absurd (h.founded slash needed) dangling

/-- One more resource is brought about after those that were, unless what it refers to is not there.
The endpoints of the group stay as they are unless the group is what is brought about. -/
theorem leads_bring {done : List Kind} (h : Brought place p done w v) (s : Step) (kind : Kind)
    (new : ∀ k ∈ done, k ≠ kind) :
    Leads (bring s ((Names.of p.namePrefix).resource kind) (designOf place p kind)) v
      (fun _ _ u => Brought place p (kind :: done) w u ∧
        (kind ≠ .group → u.compute.store.endpoints.get? (Names.of p.namePrefix).group =
          v.compute.store.endpoints.get? (Names.of p.namePrefix).group))
      fun _ _ _ => v.compute.store.dangling? (designOf place p kind) ≠ none := by
  by_cases founded : v.compute.store.find? (designOf place p kind).kind
      ((Names.of p.namePrefix).resource kind) = none →
        v.compute.store.dangling? (designOf place p kind) = none
  · obtain ⟨outcome, store, calls, ran, met, beside, paired⟩ :=
      provide_run ((Names.of p.namePrefix).resource kind) h.calm h.paired founded
    have provided : Leads (compute (provide ((Names.of p.namePrefix).resource kind)
        (designOf place p kind)) >>= fun _ => pure ()) v
        (fun _ _ u => u = { v with compute := { v.compute with store, calls } })
        fun _ _ _ => False := by
      refine (leads_ran ran).bind ?_ fun _ _ _ h => h
      intro _ _ _ known
      obtain ⟨rfl, -, rfl⟩ := known
      exact Leads.pure.weaken (fun _ _ _ ⟨_, _, same⟩ => same) fun _ _ _ h => h
    refine (provided.during_sure s).weaken ?_ fun _ _ _ h => h.elim
    intro _ _ _ known
    obtain rfl := known
    rw [designOf_kind] at beside
    refine ⟨⟨h.cluster, h.calm, h.stays, paired, List.forall_mem_cons.mpr ⟨met, ?_⟩⟩, ?_⟩
    · intro k mem
      exact beside.meets (h.met k mem) (by rw [designOf_kind]; exact new k mem)
    · exact fun other => beside.endpoints _ (.inl other)
  · obtain ⟨missing, hidden⟩ := Classical.not_imp.mp founded
    obtain ⟨e, dangling⟩ := Option.ne_none_iff_exists'.mp hidden
    obtain ⟨s', ran⟩ := provide_dangling h.calm missing dangling
    refine .error (e := .step s (.compute e)) (v := { v with compute := s' }) ?_ hidden
    rw [bring, outcome_during, outcome_bind, outcome_compute, ran]
    rfl

/-- The endpoints of the group are aligned once it was brought about, unless mappings share a
port. -/
theorem leads_align {done : List Kind} (h : Brought place p done w v) (there : .group ∈ done)
    (s : Step) (ms : List PortMapping) :
    Leads (during s (compute (alignEndpoints (Names.of p.namePrefix).group ms))) v
      (fun _ _ u => Brought place p done w u ∧
        Aligned (Names.of p.namePrefix).group ms u.compute.store)
      fun _ _ _ => ¬ SinglePorted ms := by
  obtain ⟨actual, listed⟩ : ∃ actual,
      v.compute.store.endpoints.get? (Names.of p.namePrefix).group = some actual := by
    refine Option.isSome_iff_exists.mp ?_
    rw [h.paired]
    exact exists_of_meets (h.met .group there)
  obtain ⟨r, l, calls, ran, mem, came⟩ := alignEndpoints_run ms h.calm listed
  cases r with
  | ok value =>
    refine ((leads_ran ran).during_sure s).weaken ?_ fun _ _ _ h => h.elim
    intro _ _ _ known
    obtain ⟨-, -, rfl⟩ := known
    exact ⟨⟨h.cluster, h.calm, h.stays, h.paired.endpoints_insert listed l, h.met⟩, l,
      Keyed.get?_insert_self .., mem rfl⟩
  | error e =>
    refine .error (e := .step s (.compute e)) (v := { v with
      compute := relist v.compute (Names.of p.namePrefix).group l calls }) ?_ fun single => ?_
    · rw [outcome_during, outcome_compute, ran]
      rfl
    · cases came single

/-- The whole chain is brought about, with the wanted endpoints, unless there is a slash in the
prefix or mappings share a port. -/
theorem leads_bringAll (calm : w.compute.Calm) (paired : w.compute.store.Paired)
    (ms : List PortMapping) :
    Leads (bringAll place (Names.of p.namePrefix) p ms) w
      (fun _ _ u => Brought place p removalOrder w u ∧
        Aligned (Names.of p.namePrefix).group ms u.compute.store)
      fun _ _ _ => '/' ∈ p.namePrefix.toList ∨ ¬ SinglePorted ms := by
  have start : Brought place p [] w w := ⟨rfl, calm, rfl, paired, by simp⟩
  refine (leads_bring start .firewall .firewall (by decide)).bind ?_
    fun _ _ _ dangling => .inl (start.slash_of_dangling (by decide) dangling)
  intro _ _ _ known
  obtain ⟨brought, -⟩ := known
  refine (leads_bring brought .group .group (by decide)).bind ?_
    fun _ _ _ dangling => .inl (brought.slash_of_dangling (by decide) dangling)
  intro _ _ _ known
  obtain ⟨brought, -⟩ := known
  refine (leads_bring brought .backend .backend (by decide)).bind ?_
    fun _ _ _ dangling => .inl (brought.slash_of_dangling (by decide) dangling)
  intro _ _ _ known
  obtain ⟨brought, -⟩ := known
  refine (leads_align brought (by decide) .endpoints ms).bind ?_ fun _ _ _ shared => .inr shared
  intro _ _ _ known
  obtain ⟨brought, l, listed, mem⟩ := known
  refine (leads_bring brought .rule .rule (by decide)).bind ?_
    fun _ _ _ dangling => .inl (brought.slash_of_dangling (by decide) dangling)
  intro _ _ _ known
  obtain ⟨brought, same⟩ := known
  have listed := (same (by decide)).trans listed
  refine (leads_bring brought .attachment .attachment (by decide)).weaken ?_
    fun _ _ _ dangling => .inl (brought.slash_of_dangling (by decide) dangling)
  intro _ _ _ known
  obtain ⟨brought, same⟩ := known
  exact ⟨brought, l, (same (by decide)).trans listed, mem⟩

/-! ## A chain that is in order -/

theorem quiet_bring (calm : w.compute.Calm) (s : Step) {name : String} {design : Design}
    (met : w.compute.store.Meets name design) : Quiet (bring s name design) w () := by
  obtain ⟨ran, asked⟩ := provide_met calm met
  have looked : Quiet (compute (provide name design) >>= fun _ => pure ()) w () := by
    refine Quiet.bind (Quiet.compute ran ?_) fun _ _ => Quiet.pure _ _
    rw [asked]
    exact List.forall_mem_singleton.mpr rfl
  exact looked.during s

theorem quiet_align (calm : w.compute.Calm) {group : String} {ms : List PortMapping}
    (aligned : Aligned group ms w.compute.store) (s : Step) :
    Quiet (during s (compute (alignEndpoints group ms))) w () := by
  obtain ⟨actual, listed, mem⟩ := aligned
  obtain ⟨ran, asked⟩ := alignEndpoints_aligned calm listed mem
  refine Quiet.during (Quiet.compute ran ?_) s
  rw [asked]
  exact List.forall_mem_singleton.mpr rfl

/-- A chain that is in order is only looked at. -/
theorem quiet_bringAll {ms : List PortMapping} (calm : w.compute.Calm)
    (met : ∀ kind, w.compute.store.Meets ((Names.of p.namePrefix).resource kind)
      (designOf place p kind))
    (aligned : Aligned (Names.of p.namePrefix).group ms w.compute.store) :
    Quiet (bringAll place (Names.of p.namePrefix) p ms) w () := by
  refine (quiet_bring calm .firewall (met .firewall)).bind fun cs ks => ?_
  refine (quiet_bring (w := w.withCalls cs ks) calm .group (met .group)).bind fun cs ks => ?_
  refine (quiet_bring (w := w.withCalls cs ks) calm .backend (met .backend)).bind fun cs ks => ?_
  refine (quiet_align (w := w.withCalls cs ks) calm aligned .endpoints).bind fun cs ks => ?_
  refine (quiet_bring (w := w.withCalls cs ks) calm .rule (met .rule)).bind fun cs ks => ?_
  exact quiet_bring (w := w.withCalls cs ks) calm .attachment (met .attachment)

end Pass

end ReplicaPorts
