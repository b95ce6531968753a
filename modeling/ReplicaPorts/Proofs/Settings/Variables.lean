import ReplicaPorts.Proofs.Compute.Annotation
import ReplicaPorts.Proofs.Text.Decimal
import ReplicaPorts.Settings

/-!
# Variables that are accepted

`judged` lists the variables in the order in which they are looked at, with the values each may
have. Every reader of variables comes to a value exactly if all of its variables are acceptable, and
otherwise to an error about the first that is not (`Judges`). Two readers one after the other are a
reader of the variables of both (`Judges.bind`), and so the settings as a whole are read
(`judges_ofEnvironment`). What an error says starts with the key of its variable
(`Error.names_key`).
-/

set_option autoImplicit false

namespace ReplicaPorts.Settings

open Compute.Annotation (IsEntry)
open Text (Blank)

/-! ## Values that are given -/

section

variable {env : Environment} {key raw : String}

/-- A variable has a value that counts if it is there and not blank. -/
def Gives (env : Environment) (key raw : String) : Prop :=
  env key = some raw ∧ ¬ Blank raw.toList

theorem given?_eq_some_iff : given? env key = some raw ↔ Gives env key raw := by
  rw [given?, Option.filter_eq_some_iff, Gives, ← Text.allBlank_eq_true_iff]
  simp

theorem given?_eq_none_iff : given? env key = none ↔ ∀ raw, ¬ Gives env key raw := by
  simp only [Option.eq_none_iff_forall_ne_some, ne_eq, given?_eq_some_iff]

theorem Gives.unique {raw' : String} (h : Gives env key raw) (h' : Gives env key raw') :
    raw = raw' :=
  Option.some.inj (h.1.symm.trans h'.1)

end

/-! ## The variables -/

/-- A text that is a number of 64 bits, with blank characters around it if one likes. -/
def IsNumber (raw : String) (n : Nat) : Prop :=
  Text.Spells (Text.trim raw.toList) n ∧ n ≤ Text.maxWord64

/-- A text that is a socket address, with blank characters around it if one likes. -/
def IsAddress (raw : String) (a : Text.SocketAddress) : Prop :=
  Text.SocketAddress.ofText? (Text.trimmed raw) = some a

/-- A variable that is looked at. -/
structure Variable where
  key : String
  /-- Whether there is no default for it. -/
  asked : Bool
  /-- The values it may have. -/
  Fits : String → Prop

namespace Variable

/-- A variable that any value will do for, but that has to have one. -/
def name (key : String) : Variable := ⟨key, true, fun _ => True⟩

/-- A variable for a number of seconds. -/
def seconds (key : String) : Variable := ⟨key, false, fun raw => ∃ n, IsNumber raw n⟩

/-- The variable for the marks of new endpoint groups. -/
def marks : Variable :=
  ⟨"GCP_ANNOTATIONS", false, fun raw =>
    ∀ s ∈ Text.segments ',' raw.toList, ¬ Blank s → IsEntry s⟩

/-- The variable for the number of lookups under way. -/
def lookups : Variable :=
  ⟨"NODE_LOOKUP_CONCURRENCY", false, fun raw => ∃ n, IsNumber raw n ∧ n ≠ 0⟩

/-- The variable for the address of the probes. -/
def probe : Variable :=
  ⟨"HEALTH_ADDR", false, fun raw => ∃ a, IsAddress raw a⟩

/-- What an environment has for a variable is acceptable: a value if one is asked for, and none that
does not fit. -/
def Accepts (v : Variable) (env : Environment) : Prop :=
  (v.asked = true → ∃ raw, Gives env v.key raw) ∧ ∀ raw, Gives env v.key raw → v.Fits raw

theorem accepts_iff_of_gives {v : Variable} {env : Environment} {raw : String}
    (given : Gives env v.key raw) : v.Accepts env ↔ v.Fits raw := by
  constructor
  · intro accepted
    exact accepted.2 raw given
  · intro fits
    exact ⟨fun _ => ⟨raw, given⟩, fun raw' given' => given.unique given' ▸ fits⟩

theorem accepts_iff_of_blank {v : Variable} {env : Environment}
    (blank : ∀ raw, ¬ Gives env v.key raw) : v.Accepts env ↔ v.asked = false := by
  constructor
  · intro accepted
    by_contra asked
    obtain ⟨raw, given⟩ := accepted.1 (Bool.not_eq_false _ ▸ asked)
    exact blank raw given
  · intro free
    refine ⟨fun asked => ?_, fun raw given => absurd given (blank raw)⟩
    rw [free] at asked
    cases asked

end Variable

/-- The variables that make up the scope. -/
def scopeVariables : List Variable :=
  [.name "GCP_PROJECT", .name "GCP_REGION", .name "GCP_NETWORK", .name "GCP_SUBNET", .marks]

/-- The variables that may be refused, in the order in which they are looked at. -/
def judged : List Variable :=
  scopeVariables ++
    [.seconds "REQUEUE_DELAY_SECS", .seconds "RECONCILE_TIMEOUT_SECS", .lookups, .probe]

/-! ## What an error names -/

/-- The variable that an error is about. -/
def Error.key : Error → String
  | missing key => key
  | badMarks _ => "GCP_ANNOTATIONS"
  | badNumber key _ _ => key
  | noLookups => "NODE_LOOKUP_CONCURRENCY"
  | badAddress key _ => key

/-- A message of refusal that names a variable: the key stands first in it, and behind it a
character that no key holds. -/
def Names (message key : String) : Prop :=
  ∃ rest, message = "Invalid configuration: " ++ key ++ rest ∧
    ∃ mark, rest.toList.head? = some mark ∧ mark ∈ [' ', ':', '=']

/-- What an error says starts with the key of its variable. -/
theorem Error.detail_eq (e : Error) :
    ∃ rest, e.detail = e.key ++ rest ∧
      ∃ mark, rest.toList.head? = some mark ∧ mark ∈ [' ', ':', '='] := by
  cases e with
  | missing key =>
    exact ⟨" environment variable is required", rfl, ' ', by decide +kernel, by decide⟩
  | badMarks fault =>
    refine ⟨": " ++ fault.message, ?_, ':', by simp, by decide⟩
    have front : "GCP_ANNOTATIONS: " = "GCP_ANNOTATIONS" ++ ": " := by decide +kernel
    change "GCP_ANNOTATIONS: " ++ fault.message = _
    rw [front, String.append_assoc]
    rfl
  | badNumber key raw fault =>
    refine ⟨"=" ++ (Text.quoted raw ++ (": " ++ fault.message)), ?_, '=', by simp, by decide⟩
    change key ++ "=" ++ Text.quoted raw ++ ": " ++ fault.message = _
    simp only [String.append_assoc]
    rfl
  | noLookups =>
    exact ⟨" must be at least 1", by decide +kernel, ' ', by decide +kernel, by decide⟩
  | badAddress key raw =>
    refine ⟨"=" ++ (Text.quoted raw ++ ": invalid socket address syntax"), ?_, '=', by simp,
      by decide⟩
    change key ++ "=" ++ Text.quoted raw ++ ": invalid socket address syntax" = _
    simp only [String.append_assoc]
    rfl

theorem Error.names_key (e : Error) : Names e.message e.key := by
  obtain ⟨rest, whole, behind⟩ := e.detail_eq
  refine ⟨rest, ?_, behind⟩
  rw [String.append_assoc, ← whole]
  rfl

/-! ## Readers and the variables they read -/

section

variable {env : Environment} {α β : Type} {us vs : List Variable} {v : Variable}
  {x : Except Error α} {f : α → Except Error β}

/-- What a reader of some variables comes to: a value if all are acceptable, and otherwise an error
about the first that is not. -/
def Judges (env : Environment) (x : Except Error α) (vs : List Variable) : Prop :=
  match x with
  | .ok _ => ∀ v ∈ vs, v.Accepts env
  | .error e => ∃ before v after, vs = before ++ v :: after ∧ (∀ u ∈ before, u.Accepts env) ∧
      ¬ v.Accepts env ∧ e.key = v.key

theorem judges_ok (a : α) : Judges env (.ok a) [] := nofun

/-- A reader of one variable. -/
theorem judges_single (good : ∀ a, x = .ok a → v.Accepts env)
    (bad : ∀ e, x = .error e → ¬ v.Accepts env ∧ e.key = v.key) : Judges env x [v] := by
  cases x with
  | ok a => exact List.forall_mem_singleton.mpr (good a rfl)
  | error e => exact ⟨[], v, [], rfl, nofun, bad e rfl⟩

/-- One reader after the other reads the variables of both. -/
theorem Judges.bind (first : Judges env x us) (second : ∀ a, Judges env (f a) vs) :
    Judges env (x >>= f) (us ++ vs) := by
  cases x with
  | error e =>
    obtain ⟨before, v, after, rfl, accepted, refused⟩ := first
    exact ⟨before, v, after ++ vs, by simp, accepted, refused⟩
  | ok a =>
    show Judges env (f a) (us ++ vs)
    have read := second a
    cases result : f a with
    | ok b =>
      rw [result] at read
      exact List.forall_mem_append.mpr ⟨first, read⟩
    | error e =>
      rw [result] at read
      obtain ⟨before, v, after, rfl, accepted, refused⟩ := read
      exact ⟨us ++ before, v, after, by simp, List.forall_mem_append.mpr ⟨first, accepted⟩, refused⟩

theorem Judges.ok_iff (h : Judges env x vs) : (∃ a, x = .ok a) ↔ ∀ v ∈ vs, v.Accepts env := by
  cases x with
  | ok a => exact iff_of_true ⟨a, rfl⟩ h
  | error e =>
    obtain ⟨before, v, after, rfl, -, refused, -⟩ := h
    exact iff_of_false nofun fun all => refused (all v (by simp))

theorem bind_eq_ok_iff {b : β} : (x >>= f) = .ok b ↔ ∃ a, x = .ok a ∧ f a = .ok b := by
  cases x with
  | error e => exact iff_of_false nofun nofun
  | ok a =>
    constructor
    · intro h
      exact ⟨a, rfl, h⟩
    · rintro ⟨a', same, h⟩
      cases same
      exact h

theorem mapError_eq_ok_iff {ε : Type} {y : Except ε α} {g : ε → Error} {a : α} :
    y.mapError g = .ok a ↔ y = .ok a := by
  cases y <;> simp [Except.mapError]

theorem exists_of_mapError_eq_error {ε : Type} {y : Except ε α} {g : ε → Error} {e : Error}
    (h : y.mapError g = .error e) : ∃ fault, e = g fault := by
  cases y with
  | ok a => cases h
  | error fault =>
    cases h
    exact ⟨fault, rfl⟩

end

/-! ## The readers -/

section

variable {env : Environment} {key raw : String} {α : Type} {Is : String → α → Prop} {d a : α}

/-- What a variable with a default comes to: what the value given for it is, or the default if none
is. -/
def Chosen (env : Environment) (key : String) (Is : String → α → Prop) (d a : α) : Prop :=
  (∃ raw, Gives env key raw ∧ Is raw a) ∨ (∀ raw, ¬ Gives env key raw) ∧ a = d

theorem chosen_of_gives (given : Gives env key raw) : Chosen env key Is d a ↔ Is raw a := by
  constructor
  · rintro (⟨raw', given', is⟩ | ⟨blank, -⟩)
    · exact given.unique given' ▸ is
    · exact absurd given (blank raw)
  · intro is
    exact .inl ⟨raw, given, is⟩

theorem chosen_of_blank (blank : ∀ raw, ¬ Gives env key raw) :
    Chosen env key Is d a ↔ a = d := by
  constructor
  · rintro (⟨raw, given, -⟩ | ⟨-, same⟩)
    · exact absurd given (blank raw)
    · exact same
  · intro same
    exact .inr ⟨blank, same⟩

/-- A variable with a default comes to something exactly if it is acceptable. -/
theorem exists_chosen_iff {Fits : String → Prop} (fits : ∀ raw, Fits raw ↔ ∃ a, Is raw a) :
    (∃ a, Chosen env key Is d a) ↔ (Variable.mk key false Fits).Accepts env := by
  by_cases given : ∃ raw, Gives env key raw
  · obtain ⟨raw, given⟩ := given
    rw [Variable.accepts_iff_of_gives (v := ⟨key, false, Fits⟩) given]
    simp only [chosen_of_gives given, fits]
  · have blank : ∀ raw, ¬ Gives env key raw := not_exists.mp given
    rw [Variable.accepts_iff_of_blank (v := ⟨key, false, Fits⟩) blank]
    simp [chosen_of_blank blank]

/-- A reader of a variable with a default judges it. -/
theorem judges_chosen {x : Except Error α} {Fits : String → Prop}
    (reads : ∀ a, x = .ok a ↔ Chosen env key Is d a) (fits : ∀ raw, Fits raw ↔ ∃ a, Is raw a)
    (names : ∀ e, x = .error e → e.key = key) : Judges env x [⟨key, false, Fits⟩] := by
  have accepts : (∃ a, Chosen env key Is d a) ↔ (Variable.mk key false Fits).Accepts env :=
    exists_chosen_iff fits
  refine judges_single (fun a read => ?_) (fun e fault => ⟨?_, names e fault⟩)
  · exact accepts.mp ⟨a, (reads a).mp read⟩
  · intro accepted
    obtain ⟨a, chosen⟩ := accepts.mpr accepted
    rw [(reads a).mpr chosen] at fault
    cases fault

theorem number_eq_ok_iff {default n : Nat} :
    number env key default = .ok n ↔ Chosen env key IsNumber default n := by
  unfold number
  split
  · next blank =>
    rw [chosen_of_blank (given?_eq_none_iff.mp blank), Except.ok.injEq, eq_comm]
  · next raw given =>
    rw [chosen_of_gives (given?_eq_some_iff.mp given), mapError_eq_ok_iff]
    exact Text.readBounded_eq_ok_iff

theorem lookupCount_eq (env : Environment) :
    lookupCount env = number env "NODE_LOOKUP_CONCURRENCY" 8 >>= fun n =>
      if n = 0 then .error .noLookups else .ok n := by
  unfold lookupCount
  refine congrArg _ (funext fun n => ?_)
  split
  · rfl
  · rfl

theorem lookupCount_eq_ok_iff {n : Nat} :
    lookupCount env = .ok n ↔
      Chosen env "NODE_LOOKUP_CONCURRENCY" (fun raw n => IsNumber raw n ∧ n ≠ 0) 8 n := by
  rw [lookupCount_eq, bind_eq_ok_iff]
  constructor
  · rintro ⟨m, read, checked⟩
    split at checked
    · cases checked
    · next some_ =>
      cases checked
      rcases number_eq_ok_iff.mp read with ⟨raw, given, is⟩ | ⟨blank, same⟩
      · exact .inl ⟨raw, given, is, some_⟩
      · exact .inr ⟨blank, same⟩
  · rintro (⟨raw, given, is, some_⟩ | ⟨blank, rfl⟩)
    · exact ⟨n, number_eq_ok_iff.mpr (.inl ⟨raw, given, is⟩), if_neg some_⟩
    · exact ⟨8, number_eq_ok_iff.mpr (.inr ⟨blank, rfl⟩), rfl⟩

theorem address_eq_ok_iff {default a : Text.SocketAddress} :
    address env key default = .ok a ↔ Chosen env key IsAddress default a := by
  unfold address
  split
  · next blank =>
    rw [chosen_of_blank (given?_eq_none_iff.mp blank), Except.ok.injEq, eq_comm]
  · next raw given =>
    rw [chosen_of_gives (given?_eq_some_iff.mp given), IsAddress]
    cases Text.SocketAddress.ofText? (Text.trimmed raw) with
    | none => exact iff_of_false nofun nofun
    | some a => simp

theorem marks_eq_ok_iff {m : Keyed String String} :
    marks env = .ok m ↔
      Chosen env "GCP_ANNOTATIONS" (fun raw m => Compute.annotations raw = .ok m) ∅ m := by
  unfold marks
  split
  · next blank =>
    rw [chosen_of_blank (given?_eq_none_iff.mp blank), Except.ok.injEq, eq_comm]
  · next raw given =>
    rw [chosen_of_gives (given?_eq_some_iff.mp given), mapError_eq_ok_iff]

end

/-! ### The variables that are read -/

theorem judges_required (env : Environment) (key : String) :
    Judges env (required env key) [.name key] := by
  unfold required
  split
  · next raw given =>
    exact judges_single
      (fun _ _ => (Variable.accepts_iff_of_gives (given?_eq_some_iff.mp given)).mpr trivial) nofun
  · next blank =>
    refine judges_single nofun fun e same => ?_
    cases same
    rw [Variable.accepts_iff_of_blank (given?_eq_none_iff.mp blank)]
    exact ⟨nofun, rfl⟩

theorem judges_marks (env : Environment) : Judges env (marks env) [.marks] := by
  refine judges_chosen (fun _ => marks_eq_ok_iff) ?_ ?_
  · intro raw
    exact (Compute.Annotation.exists_addAnnotations_iff ∅).symm
  · intro e fault
    unfold marks at fault
    split at fault
    · cases fault
    · obtain ⟨fault', rfl⟩ := exists_of_mapError_eq_error fault
      rfl

theorem key_of_number {env : Environment} {key : String} {default : Nat} {e : Error}
    (fault : number env key default = .error e) : e.key = key := by
  unfold number at fault
  split at fault
  · cases fault
  · obtain ⟨fault', rfl⟩ := exists_of_mapError_eq_error fault
    rfl

theorem judges_number (env : Environment) (key : String) (default : Nat) :
    Judges env (number env key default) [.seconds key] :=
  judges_chosen (fun _ => number_eq_ok_iff) (fun _ => Iff.rfl) fun _ => key_of_number

theorem judges_lookupCount (env : Environment) : Judges env (lookupCount env) [.lookups] := by
  refine judges_chosen (fun _ => lookupCount_eq_ok_iff) (fun _ => Iff.rfl) fun e fault => ?_
  rw [lookupCount_eq] at fault
  cases read : number env "NODE_LOOKUP_CONCURRENCY" 8 with
  | error e' =>
    rw [read] at fault
    cases fault
    exact key_of_number read
  | ok n =>
    rw [read] at fault
    change (if n = 0 then _ else _) = _ at fault
    split at fault
    · cases fault
      rfl
    · cases fault

theorem judges_address (env : Environment) :
    Judges env (address env "HEALTH_ADDR" defaultAddress) [.probe] := by
  refine judges_chosen (fun _ => address_eq_ok_iff) (fun _ => Iff.rfl) fun e fault => ?_
  unfold address at fault
  split at fault
  · cases fault
  · split at fault
    · cases fault
    · cases fault
      rfl

theorem judges_scopeOf (env : Environment) : Judges env (scopeOf env) scopeVariables := by
  refine (judges_required env "GCP_PROJECT").bind fun project => ?_
  refine (judges_required env "GCP_REGION").bind fun region => ?_
  refine (judges_required env "GCP_NETWORK").bind fun network => ?_
  refine (judges_required env "GCP_SUBNET").bind fun subnetwork => ?_
  exact (judges_marks env).bind fun annotations => judges_ok _

theorem judges_ofEnvironment (env : Environment) : Judges env (ofEnvironment env) judged := by
  refine (judges_scopeOf env).bind fun scope => ?_
  refine (judges_number env "REQUEUE_DELAY_SECS" 60).bind fun requeueSeconds => ?_
  refine (judges_number env "RECONCILE_TIMEOUT_SECS" 300).bind fun timeoutSeconds => ?_
  refine (judges_lookupCount env).bind fun lookups => ?_
  exact (judges_address env).bind fun probeAddress => judges_ok _

end ReplicaPorts.Settings
