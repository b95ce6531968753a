import ReplicaPorts.Proofs.Compute.Scope
import ReplicaPorts.Proofs.Settings.Variables

/-!
# Which environments are accepted

An environment is accepted exactly if all variables are, and otherwise the message names the first
that is not (`settings_by_variables`). It counts only by the values that it gives for `known` keys
(`ofEnvironment_congr`), and what it is accepted as only by those values without the blank
characters around numbers and the address (`ofEnvironment_repads`).
-/

set_option autoImplicit false

namespace ReplicaPorts.Settings

/-! ## Keys -/

/-- The keys that are looked up for the scope. -/
def scopeKeys : List String := scopeVariables.map (·.key) ++ ["GCP_API_ENDPOINT"]

/-- All keys that are looked up. -/
def known : List String :=
  judged.map (·.key) ++ ["GCP_API_ENDPOINT", "GCP_ACCESS_TOKEN", "WATCH_NAMESPACE"]

/-- The keys around whose values blank characters do not matter. -/
def trimmedKeys : List String :=
  ["REQUEUE_DELAY_SECS", "RECONCILE_TIMEOUT_SECS", "NODE_LOOKUP_CONCURRENCY", "HEALTH_ADDR"]

/-! ## Environments that come to the same -/

section

variable {env env' : Environment} {s : Settings}

/-- Two environments that differ at most in variables that are not known and in variables that
neither gives a value for: those that are missing or blank in both. -/
def Alike (env env' : Environment) : Prop :=
  ∀ key, env' key = env key ∨ key ∉ known ∨
    (∀ raw, ¬ Gives env key raw) ∧ ∀ raw, ¬ Gives env' key raw

theorem Alike.given?_eq (h : Alike env env') {key : String} (mem : key ∈ known) :
    given? env' key = given? env key := by
  rcases h key with same | unknown | ⟨blank, blank'⟩
  · rw [given?, given?, same]
  · exact absurd mem unknown
  · rw [given?_eq_none_iff.mpr blank, given?_eq_none_iff.mpr blank']

theorem scopeOf_congr (same : ∀ key ∈ scopeKeys, given? env' key = given? env key) :
    scopeOf env' = scopeOf env := by
  simp (disch := decide) only [scopeOf, required, marks, same]

/-- Only the values given for known variables count. -/
theorem ofEnvironment_congr (same : ∀ key ∈ known, given? env' key = given? env key) :
    ofEnvironment env' = ofEnvironment env := by
  have inside : ∀ key ∈ scopeKeys, key ∈ known := by decide
  have ofScope : scopeOf env' = scopeOf env :=
    scopeOf_congr fun key mem => same key (inside key mem)
  simp (disch := decide) only [ofEnvironment, ofScope, number, lookupCount, address, same]

/-- Two environments that differ at most in blank characters around numbers and the address. -/
def RepadsIn (env env' : Environment) : Prop :=
  ∀ key, env' key = env key ∨ key ∈ trimmedKeys ∧
    ∃ raw raw', env key = some raw ∧ env' key = some raw' ∧ Text.Repads raw.toList raw'.toList

theorem RepadsIn.given?_eq (h : RepadsIn env env') {key : String} (untrimmed : key ∉ trimmedKeys) :
    given? env' key = given? env key := by
  rcases h key with same | ⟨mem, -⟩
  · rw [given?, given?, same]
  · exact absurd mem untrimmed

/-- What is given keeps what stands between the blank characters around it. -/
theorem RepadsIn.gives (h : RepadsIn env env') {key raw : String} (given : Gives env key raw) :
    ∃ raw', Gives env' key raw' ∧ Text.trim raw'.toList = Text.trim raw.toList := by
  rcases h key with same | ⟨-, raw₀, raw', found, found', repads⟩
  · exact ⟨raw, ⟨same.trans given.1, given.2⟩, rfl⟩
  · obtain rfl := Option.some.inj (found.symm.trans given.1)
    have same := Text.repads_iff.mp repads
    refine ⟨raw', ⟨found', ?_⟩, same.symm⟩
    rw [← Text.trim_eq_nil_iff, ← same, Text.trim_eq_nil_iff]
    exact given.2

theorem RepadsIn.symm (h : RepadsIn env env') : RepadsIn env' env := by
  intro key
  rcases h key with same | ⟨mem, raw, raw', found, found', repads⟩
  · exact .inl same.symm
  · refine .inr ⟨mem, raw', raw, found', found, ?_⟩
    rw [Text.repads_iff] at repads ⊢
    exact repads.symm

/-- What a variable comes to is the same if it counts only without the blank characters around. -/
theorem Chosen.repads {α : Type} {Is : String → α → Prop} {key : String} {d a : α}
    (around : ∀ raw raw', Text.trim raw'.toList = Text.trim raw.toList → Is raw a → Is raw' a)
    (h : RepadsIn env env') (chosen : Chosen env key Is d a) : Chosen env' key Is d a := by
  rcases chosen with ⟨raw, given, is⟩ | ⟨blank, same⟩
  · obtain ⟨raw', given', trimmed⟩ := h.gives given
    exact .inl ⟨raw', given', around raw raw' trimmed is⟩
  · refine .inr ⟨fun raw' given' => ?_, same⟩
    obtain ⟨raw, given, -⟩ := h.symm.gives given'
    exact blank raw given

theorem IsNumber.repads {raw raw' : String} {n : Nat}
    (same : Text.trim raw'.toList = Text.trim raw.toList) (is : IsNumber raw n) :
    IsNumber raw' n := by
  rw [IsNumber, same]
  exact is

theorem IsAddress.repads {raw raw' : String} {a : Text.SocketAddress}
    (same : Text.trim raw'.toList = Text.trim raw.toList) (is : IsAddress raw a) :
    IsAddress raw' a := by
  rw [IsAddress, Text.trimmed, same]
  exact is

/-- An environment is accepted as some settings if each of their parts is read from it. -/
theorem ofEnvironment_eq_ok_iff :
    ofEnvironment env = .ok s ↔
      scopeOf env = .ok s.scope ∧
      Chosen env "REQUEUE_DELAY_SECS" IsNumber 60 s.requeueSeconds ∧
      Chosen env "RECONCILE_TIMEOUT_SECS" IsNumber 300 s.timeoutSeconds ∧
      Chosen env "NODE_LOOKUP_CONCURRENCY" (fun raw n => IsNumber raw n ∧ n ≠ 0) 8 s.lookups ∧
      Chosen env "HEALTH_ADDR" IsAddress defaultAddress s.probeAddress ∧
      s.token = given? env "GCP_ACCESS_TOKEN" ∧ s.space = given? env "WATCH_NAMESPACE" := by
  simp only [← number_eq_ok_iff, ← lookupCount_eq_ok_iff, ← address_eq_ok_iff]
  unfold ofEnvironment
  simp only [bind_eq_ok_iff]
  constructor
  · rintro ⟨scope, read, requeue, requeued, timeout, timed, lookups, counted, probe, placed, same⟩
    cases same
    exact ⟨read, requeued, timed, counted, placed, rfl, rfl⟩
  · rintro ⟨read, requeued, timed, counted, placed, token, space⟩
    refine ⟨_, read, _, requeued, _, timed, _, counted, _, placed, ?_⟩
    rw [← token, ← space]
    rfl

/-- What an environment is accepted as does not depend on blank characters around numbers and the
address. -/
theorem ofEnvironment_repads (h : RepadsIn env env') (accepted : ofEnvironment env = .ok s) :
    ofEnvironment env' = .ok s := by
  obtain ⟨read, requeued, timed, counted, placed, token, space⟩ :=
    ofEnvironment_eq_ok_iff.mp accepted
  have untrimmed : ∀ key ∈ scopeKeys, key ∉ trimmedKeys := by decide
  have same : ∀ key ∈ scopeKeys, given? env' key = given? env key :=
    fun key mem => h.given?_eq (untrimmed key mem)
  refine ofEnvironment_eq_ok_iff.mpr ⟨(scopeOf_congr same).trans read, ?_, ?_, ?_, ?_, ?_, ?_⟩
  · exact requeued.repads (fun _ _ => IsNumber.repads) h
  · exact timed.repads (fun _ _ => IsNumber.repads) h
  · exact counted.repads (fun _ _ same is => ⟨is.1.repads same, is.2⟩) h
  · exact placed.repads (fun _ _ => IsAddress.repads) h
  · rw [token, h.given?_eq (by decide)]
  · rw [space, h.given?_eq (by decide)]

/-- A scope that is read holds paths, and its endpoint ends in no slash. -/
theorem paths_of_scopeOf {scope : Compute.Scope} (h : scopeOf env = .ok scope) :
    Compute.Path.root <+: scope.network.toList ∧ Compute.Path.root <+: scope.subnetwork.toList ∧
      scope.endpoint.toList.getLast? ≠ some '/' := by
  unfold scopeOf at h
  simp only [bind_eq_ok_iff] at h
  obtain ⟨project, -, region, -, network, -, subnetwork, -, annotations, -, same⟩ := h
  obtain ⟨endpoint, placed, plain⟩ := Compute.Scope.atEndpoint_eq
    (.of project region network subnetwork) (given? env "GCP_API_ENDPOINT")
    Compute.Scope.getLast?_defaultEndpoint
  rw [placed] at same
  cases same
  exact ⟨Compute.Scope.starts_networkPath project network,
    Compute.Scope.starts_subnetworkPath project region subnetwork, plain⟩

end

/-- An environment is accepted exactly if all variables are, and otherwise the message names the
first that is not. Variables that are not known or blank do not count, and what is accepted stays so
with other blank characters around numbers and the address. The settings then hold the numbers and
the address that are given, or their defaults, paths for the network and the subnetwork, and an
endpoint that ends in no slash. -/
theorem settings_by_variables (env : Environment) :
    ((∃ s, ofEnvironment env = .ok s) ↔ ∀ v ∈ judged, v.Accepts env) ∧
    (∀ e, ofEnvironment env = .error e → ∃ before v after, judged = before ++ v :: after ∧
      (∀ u ∈ before, u.Accepts env) ∧ ¬ v.Accepts env ∧ Names e.message v.key) ∧
    (∀ env', Alike env env' → ofEnvironment env' = ofEnvironment env) ∧
    ∀ s, ofEnvironment env = .ok s →
      (∀ env', RepadsIn env env' → ofEnvironment env' = .ok s) ∧
      (Chosen env "REQUEUE_DELAY_SECS" IsNumber 60 s.requeueSeconds ∧
        Chosen env "RECONCILE_TIMEOUT_SECS" IsNumber 300 s.timeoutSeconds ∧
        Chosen env "NODE_LOOKUP_CONCURRENCY" (fun raw n => IsNumber raw n ∧ n ≠ 0) 8 s.lookups ∧
        Chosen env "HEALTH_ADDR" IsAddress defaultAddress s.probeAddress) ∧
      Compute.Path.root <+: s.scope.network.toList ∧
      Compute.Path.root <+: s.scope.subnetwork.toList ∧
      s.scope.endpoint.toList.getLast? ≠ some '/' := by
  have judges := judges_ofEnvironment env
  refine ⟨judges.ok_iff, ?_, ?_, ?_⟩
  · intro e fault
    rw [fault] at judges
    obtain ⟨before, v, after, whole, accepted, refused, key⟩ := judges
    exact ⟨before, v, after, whole, accepted, refused, key ▸ e.names_key⟩
  · intro env' alike
    exact ofEnvironment_congr fun key mem => alike.given?_eq mem
  · intro s accepted
    obtain ⟨read, requeued, timed, counted, placed, -⟩ := ofEnvironment_eq_ok_iff.mp accepted
    refine ⟨?_, ⟨requeued, timed, counted, placed⟩, paths_of_scopeOf read⟩
    intro env' repads
    exact ofEnvironment_repads repads accepted

end ReplicaPorts.Settings

namespace ReplicaPorts.Small

open Settings

/-- The variables that are asked for, and one of the others. -/
def environment : Environment := fun key =>
  [("GCP_PROJECT", "lab"), ("GCP_REGION", "north"), ("GCP_NETWORK", "net"), ("GCP_SUBNET", "sub"),
    ("REQUEUE_DELAY_SECS", "15")].lookup key

/-- The same variables with a blank around the number. -/
def paddedEnvironment : Environment := fun key =>
  if key = "REQUEUE_DELAY_SECS" then some " 15" else environment key

/-- The same variables without the region. -/
def placelessEnvironment : Environment := fun key =>
  if key = "GCP_REGION" then none else environment key

theorem repadsIn_paddedEnvironment : RepadsIn environment paddedEnvironment := by
  intro key
  by_cases requeue : key = "REQUEUE_DELAY_SECS"
  · subst requeue
    refine .inr ⟨by decide, "15", " 15", by decide +kernel, by decide +kernel, ?_⟩
    exact Text.repads_iff.mpr (by decide +kernel)
  · exact .inl (if_neg requeue)

theorem ofEnvironment_placelessEnvironment :
    ofEnvironment placelessEnvironment = .error (.missing "GCP_REGION") := by
  have project : required placelessEnvironment "GCP_PROJECT" = .ok "lab" := by decide +kernel
  have region : required placelessEnvironment "GCP_REGION" = .error (.missing "GCP_REGION") := by
    decide +kernel
  rw [ofEnvironment, scopeOf, project, region]
  rfl

theorem small_settings_by_variables :
    (∃ s, ofEnvironment environment = .ok s ∧ ofEnvironment paddedEnvironment = .ok s ∧
      Chosen environment "REQUEUE_DELAY_SECS" IsNumber 60 s.requeueSeconds ∧
      Compute.Path.root <+: s.scope.network.toList) ∧
    ∃ v ∈ judged, ¬ v.Accepts placelessEnvironment ∧
      Settings.Names (Error.missing "GCP_REGION").message v.key := by
  constructor
  · have accepted : (ofEnvironment environment).toOption.isSome = true := by decide +kernel
    cases read : ofEnvironment environment with
    | error e =>
      rw [read] at accepted
      cases accepted
    | ok s =>
      obtain ⟨repads, ⟨requeued, -⟩, network, -⟩ :=
        (settings_by_variables environment).2.2.2 s read
      exact ⟨s, rfl, repads _ repadsIn_paddedEnvironment, requeued, network⟩
  · obtain ⟨before, v, after, whole, -, refused, names⟩ :=
      (settings_by_variables placelessEnvironment).2.1 _ ofEnvironment_placelessEnvironment
    exact ⟨v, whole ▸ List.mem_append_right before List.mem_cons_self, refused, names⟩

end ReplicaPorts.Small
