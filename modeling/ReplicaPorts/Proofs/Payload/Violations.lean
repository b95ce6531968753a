import Mathlib.Logic.Relation
import ReplicaPorts.Payload.Validation
import ReplicaPorts.Proofs.Compute.Path
import ReplicaPorts.Proofs.Keyed

/-!
# What a check of a payload tells

A payload is sound if every consumer is named once, if there are subnetworks, and if all paths and
ports are such. The check tells exactly what keeps a payload from that (`violations_exhaustive`):
one violation for each consumer, subnetwork and port that is at fault, in their order
(`OneEach`), and for named ports that start at one port just enough pairs of them to hold them
together (`Linked`).

The first three lists are filtered, and what they say follows from what the filter says of one
offender (`oneEach_filterMap`). The last one is written by a walk over the named ports that
remembers the last name at every port. Read for one port, its entries are the neighbours among the
names that start there, with the one before the walk in front (`pairs_sharedStarts`).
-/

set_option autoImplicit false

namespace ReplicaPorts

open Compute

/-! ## Sound payloads -/

/-- A text that is there and not empty. -/
def Given (text : Option String) : Prop := ∃ s, text = some s ∧ s ≠ ""

/-- A consumer with one identifier; if that is a network, then by its path. -/
structure Consumer.Sound (c : Consumer) : Prop where
  once : Given c.networkPath ↔ ¬ Given c.projectName
  form : ∀ path, c.networkPath = some path → path ≠ "" → Path.IsNetwork path

namespace Payload

/-- A port of TCP. -/
def InRange (n : Int32) : Prop := 1 ≤ n.toInt ∧ n.toInt ≤ 65535

/-- A payload with nothing wrong in it. -/
structure Sound (p : Payload) : Prop where
  consumers : ∀ c ∈ p.consumers, c.Sound
  some_ : p.natSubnets ≠ []
  subnets : ∀ s ∈ p.natSubnets, Path.IsSubnetwork s
  ports : ∀ e ∈ p.ports.values, ∀ field : PortField, InRange (field.of e)
  starts : (p.ports.values.map (·.startingPort)).Nodup

/-! ## One violation for each offender -/

/-- The elements of a list that are not sound are told of, each once and in order, by what is said
of one. -/
inductive OneEach {α : Type} (sound : α → Prop) (tells : α → Violation → Prop) :
    List α → List Violation → Prop
  | nil : OneEach sound tells [] []
  | sound {x : α} {xs : List α} {vs : List Violation} :
      sound x → OneEach sound tells xs vs → OneEach sound tells (x :: xs) vs
  | offender {x : α} {xs : List α} {v : Violation} {vs : List Violation} :
      ¬ sound x → tells x v → OneEach sound tells xs vs → OneEach sound tells (x :: xs) (v :: vs)

/-- A filter that keeps what is not sound, in words. -/
theorem oneEach_filterMap {α : Type} {sound : α → Prop} {tells : α → Violation → Prop}
    {f : α → Option Violation} (silent : ∀ x, f x = none → sound x)
    (told : ∀ x v, f x = some v → ¬ sound x ∧ tells x v) (xs : List α) :
    OneEach sound tells xs (xs.filterMap f) := by
  induction xs with
  | nil => exact .nil
  | cons x xs ih =>
    cases here : f x with
    | none =>
      rw [List.filterMap_cons_none here]
      exact .sound (silent x here) ih
    | some v =>
      rw [List.filterMap_cons_some here]
      obtain ⟨unsound, tells⟩ := told x v here
      exact .offender unsound tells ih

/-- A filter that keeps what a test rejects. -/
theorem oneEach_of_test {α : Type} {sound : α → Prop} {test : α → Bool} {tell : α → Violation}
    (tests : ∀ x, test x = true ↔ sound x) (xs : List α) :
    OneEach sound (fun x v => v = tell x) xs
      (xs.filterMap fun x => if test x then none else some (tell x)) := by
  refine oneEach_filterMap (fun x silent => ?_) (fun x v told => ?_) xs
  · split at silent
    · next passed => exact (tests x).mp passed
    · cases silent
  · split at told
    · cases told
    · next failed => exact ⟨fun sound => failed ((tests x).mpr sound), (Option.some.inj told).symm⟩

theorem OneEach.eq_nil_iff {α : Type} {sound : α → Prop} {tells : α → Violation → Prop}
    {xs : List α} {vs : List Violation} (h : OneEach sound tells xs vs) :
    vs = [] ↔ ∀ x ∈ xs, sound x := by
  induction h with
  | nil => simp
  | sound here _ ih => simp [ih, here]
  | offender here _ _ _ => simp [here]

theorem forall_mem_zipIdx_fst {α : Type} {sound : α → Prop} {xs : List α} :
    (∀ x ∈ xs.zipIdx, sound x.1) ↔ ∀ x ∈ xs, sound x := by
  rw [← List.forall_mem_map, List.zipIdx_map_fst]

/-! ## Consumers, subnetworks and ports -/

/-- What is said of a consumer that is not sound. -/
inductive Blames (c : Consumer) (index : Nat) : Violation → Prop
  | twoIdentifiers : Given c.networkPath → Given c.projectName →
      Blames c index (.twoIdentifiers index)
  | noIdentifier : ¬ Given c.networkPath → ¬ Given c.projectName →
      Blames c index (.noIdentifier index)
  | badNetwork {path : String} : c.networkPath = some path → ¬ Given c.projectName →
      ¬ Path.IsNetwork path → Blames c index (.badNetwork index path)

theorem given_of_filter {text : Option String} {s : String} (h : text.filter (· ≠ "") = some s) :
    Given text ∧ text = some s ∧ s ≠ "" := by
  obtain ⟨there, filled⟩ := Option.filter_eq_some_iff.mp h
  exact ⟨⟨s, there, of_decide_eq_true filled⟩, there, of_decide_eq_true filled⟩

theorem filter_eq_none_iff {text : Option String} :
    text.filter (· ≠ "") = none ↔ ¬ Given text := by
  cases text <;> simp [Given, Option.filter]

theorem sound_of_consumerViolation? {c : Consumer} {index : Nat}
    (h : consumerViolation? index c = none) : c.Sound := by
  unfold consumerViolation? at h
  split at h
  · cases h
  · cases h
  · next network named unnamed =>
    obtain ⟨given, path, -⟩ := given_of_filter named
    refine ⟨⟨fun _ => filter_eq_none_iff.mp unnamed, fun _ => given⟩, fun path' path'_ _ => ?_⟩
    obtain rfl := Option.some.inj (path.symm.trans path'_)
    split at h
    · next form => exact Path.hasForm_networkForm_iff.mp form
    · cases h
  · next project unnamed named =>
    obtain ⟨given, -⟩ := given_of_filter named
    refine ⟨⟨fun network => absurd network (filter_eq_none_iff.mp unnamed), ?_⟩, ?_⟩
    · exact fun none_ => absurd given none_
    · exact fun path there filled => absurd ⟨path, there, filled⟩ (filter_eq_none_iff.mp unnamed)

theorem blames_of_consumerViolation? {c : Consumer} {index : Nat} {v : Violation}
    (h : consumerViolation? index c = some v) : ¬ c.Sound ∧ Blames c index v := by
  unfold consumerViolation? at h
  split at h
  · next network project named also =>
    obtain ⟨network, -⟩ := given_of_filter named
    obtain ⟨project, -⟩ := given_of_filter also
    obtain rfl := Option.some.inj h
    exact ⟨fun sound => sound.once.mp network project, .twoIdentifiers network project⟩
  · next unnamed neither =>
    have network := filter_eq_none_iff.mp unnamed
    have project := filter_eq_none_iff.mp neither
    obtain rfl := Option.some.inj h
    exact ⟨fun sound => network (sound.once.mpr project), .noIdentifier network project⟩
  · next network named unnamed =>
    obtain ⟨-, path, filled⟩ := given_of_filter named
    split at h
    · cases h
    · next formless =>
      have wrong : ¬ Path.IsNetwork network :=
        fun form => formless (Path.hasForm_networkForm_iff.mpr form)
      obtain rfl := Option.some.inj h
      exact ⟨fun sound => wrong (sound.form network path filled),
        .badNetwork path (filter_eq_none_iff.mp unnamed) wrong⟩
  · cases h

theorem isPort_iff {n : Int32} : isPort n = true ↔ InRange n := by
  rw [isPort, Bool.and_eq_true, decide_eq_true_iff, decide_eq_true_iff, InRange]

variable (p : Payload)

/-- The ports that are checked, name after name and field after field. -/
def fieldsAsked : List (String × PortField × Int32) :=
  p.ports.toList.flatMap fun (name, e) => PortField.all.map fun field => (name, field, field.of e)

theorem portViolations_eq : p.portViolations =
    p.fieldsAsked.filterMap fun (name, field, value) =>
      if isPort value then none else some (.badPort name field value) := by
  simp only [portViolations, fieldsAsked, List.filterMap_flatMap, List.filterMap_map]
  rfl

theorem forall_mem_fieldsAsked {inRange : Int32 → Prop} :
    (∀ x ∈ p.fieldsAsked, inRange x.2.2) ↔
      ∀ e ∈ p.ports.values, ∀ field : PortField, inRange (field.of e) := by
  have all : ∀ field : PortField, field ∈ PortField.all := by intro field; cases field <;> decide
  simp [fieldsAsked, Keyed.values, Keyed.toList, all]
  grind

/-! ## Ports that are shared -/

/-- The names of the ports that start at a port, in order. -/
def sharers (n : Int32) : List String :=
  (p.ports.toList.filter fun x => x.2.startingPort = n).map (·.1)

/-- The two names that a violation tells of for a port. -/
def pairAt? (n : Int32) : Violation → Option (String × String)
  | .sharedStart first second port => if port = n then some (first, second) else none
  | _ => none

/-- Violations that tell, for each port, of one pair of names less than start there, and that hold
all these names together. -/
structure Linked (vs : List Violation) : Prop where
  only : ∀ v ∈ vs, ∃ n, (pairAt? n v).isSome
  number : ∀ n, (vs.filterMap (pairAt? n)).length = (p.sharers n).length - 1
  shared : ∀ n, ∀ pair ∈ vs.filterMap (pairAt? n),
    pair.1 ∈ p.sharers n ∧ pair.2 ∈ p.sharers n ∧ pair.1 ≠ pair.2
  linked : ∀ n, ∀ first ∈ p.sharers n, ∀ second ∈ p.sharers n,
    Relation.EqvGen (fun a b => (a, b) ∈ vs.filterMap (pairAt? n)) first second

/-- What the walk tells of a port are the neighbours among the names there. -/
theorem pairs_sharedStarts (n : Int32) (seen : List (Int32 × String))
    (rest : List (String × PortEntry)) {names : List String}
    (here : names = (seen.lookup n).toList ++
      (rest.filter fun x => x.2.startingPort = n).map (·.1)) :
    (sharedStarts seen rest).filterMap (pairAt? n) = names.zip names.tail := by
  induction rest generalizing seen names with
  | nil =>
    subst here
    cases seen.lookup n <;> rfl
  | cons x rest ih =>
    obtain ⟨name, e⟩ := x
    have later := ih ((e.startingPort, name) :: seen) rfl
    subst here
    by_cases same : e.startingPort = n
    · subst same
      cases before : seen.lookup e.startingPort with
      | none => simp [sharedStarts, before, later]
      | some other => simp [sharedStarts, before, later, pairAt?]
    · have apart : (n == e.startingPort) = false := beq_false_of_ne (Ne.symm same)
      cases before : seen.lookup e.startingPort with
      | none => simp [sharedStarts, before, later, List.lookup_cons, apart, same]
      | some other => simp [sharedStarts, before, later, List.lookup_cons, apart, same, pairAt?]

theorem exists_pairAt?_of_mem (seen : List (Int32 × String)) (rest : List (String × PortEntry)) :
    ∀ v ∈ sharedStarts seen rest, ∃ n, (pairAt? n v).isSome := by
  induction rest generalizing seen with
  | nil => simp [sharedStarts]
  | cons x rest ih =>
    obtain ⟨name, e⟩ := x
    unfold sharedStarts
    split
    · refine List.forall_mem_cons.mpr ⟨⟨e.startingPort, ?_⟩, ih _⟩
      simp [pairAt?]
    · exact ih _

/-- Neighbours in a list of distinct names. -/
theorem mem_of_mem_zip_tail {names : List String} (distinct : names.Nodup) {pair : String × String}
    (mem : pair ∈ names.zip names.tail) :
    pair.1 ∈ names ∧ pair.2 ∈ names ∧ pair.1 ≠ pair.2 := by
  induction names with
  | nil => cases mem
  | cons a names ih =>
    obtain ⟨new, distinct⟩ := List.nodup_cons.mp distinct
    cases names with
    | nil => cases mem
    | cons b names =>
      rcases List.mem_cons.mp mem with rfl | mem
      · refine ⟨List.mem_cons_self, List.mem_cons_of_mem _ List.mem_cons_self, ?_⟩
        exact fun same : a = b => new (same ▸ List.mem_cons_self)
      · obtain ⟨first, second, apart⟩ := ih distinct mem
        exact ⟨List.mem_cons_of_mem _ first, List.mem_cons_of_mem _ second, apart⟩

/-- Neighbours hold a list together. -/
theorem eqvGen_zip_tail {a b : String} {names : List String} (mem : b ∈ a :: names) :
    Relation.EqvGen (fun x y => (x, y) ∈ (a :: names).zip names) a b := by
  induction names generalizing a with
  | nil =>
    obtain rfl := List.mem_singleton.mp mem
    exact .refl b
  | cons next names ih =>
    rcases List.mem_cons.mp mem with rfl | mem
    · exact .refl b
    · have step : Relation.EqvGen (fun x y => (x, y) ∈ (a :: next :: names).zip (next :: names))
          a next := .rel a next List.mem_cons_self
      exact step.trans _ _ _ ((ih mem).mono fun x y there => List.mem_cons_of_mem _ there)

theorem sharers_nodup (n : Int32) : (p.sharers n).Nodup := by
  have names : p.ports.keys.Nodup := p.ports.nodup_keys
  have some_ : (p.ports.toList.filter fun x => x.2.startingPort = n).Sublist p.ports.toList :=
    List.filter_sublist
  exact names.sublist (some_.map _)

theorem linked_sharedStarts : p.Linked (sharedStarts [] p.ports.toList) := by
  have pairs : ∀ n, (sharedStarts [] p.ports.toList).filterMap (pairAt? n) =
      (p.sharers n).zip (p.sharers n).tail := fun n => pairs_sharedStarts n [] _ rfl
  refine ⟨exists_pairAt?_of_mem [] _, fun n => ?_, fun n pair mem => ?_, fun n a memA b memB => ?_⟩
  · rw [pairs, List.length_zip, List.length_tail]
    omega
  · exact mem_of_mem_zip_tail (p.sharers_nodup n) (pairs n ▸ mem)
  · rw [pairs]
    generalize p.sharers n = names at memA memB ⊢
    cases names with
    | nil => cases memA
    | cons first names =>
      exact (eqvGen_zip_tail memA).symm.trans _ _ _ (eqvGen_zip_tail memB)

theorem length_sharers (n : Int32) :
    (p.sharers n).length = (p.ports.values.map (·.startingPort)).count n := by
  rw [sharers, List.length_map, ← List.countP_eq_length_filter, Keyed.values, List.map_map,
    List.count, List.countP_map]
  exact List.countP_congr fun x _ => by simp

variable {p} in
theorem Linked.eq_nil_iff {vs : List Violation} (h : p.Linked vs) :
    vs = [] ↔ (p.ports.values.map (·.startingPort)).Nodup := by
  rw [List.nodup_iff_count_le_one]
  constructor
  · intro none_ n
    have number := h.number n
    rw [length_sharers, none_, List.filterMap_nil, List.length_nil] at number
    omega
  · intro few
    by_contra some_
    obtain ⟨v, mem⟩ := List.exists_mem_of_ne_nil vs some_
    obtain ⟨n, told⟩ := h.only v mem
    obtain ⟨pair, told⟩ := Option.isSome_iff_exists.mp told
    have length := List.length_pos_of_mem (List.mem_filterMap.mpr ⟨v, mem, told⟩)
    rw [h.number n, length_sharers] at length
    have atMost := few n
    omega

/-! ## The whole list -/

/-- What the four parts of a check tell. -/
structure Report (consumers subnets ports starts : List Violation) : Prop where
  consumers : OneEach (fun x => x.1.Sound) (fun x => Blames x.1 x.2)
    p.consumers.zipIdx consumers
  subnets : if p.natSubnets = [] then subnets = [.noSubnets] else
    OneEach (fun x => Path.IsSubnetwork x.1) (fun x v => v = .badSubnet x.2 x.1)
      p.natSubnets.zipIdx subnets
  ports : OneEach (fun x => InRange x.2.2) (fun x v => v = .badPort x.1 x.2.1 x.2.2)
    p.fieldsAsked ports
  starts : p.Linked starts

theorem report_violations :
    p.Report p.consumerViolations p.subnetViolations p.portViolations
      (sharedStarts [] p.ports.toList) where
  consumers := oneEach_filterMap (fun _ => sound_of_consumerViolation?)
    (fun _ _ => blames_of_consumerViolation?) _
  subnets := by
    unfold subnetViolations
    by_cases none_ : p.natSubnets = []
    · simp [none_]
    · rw [if_neg none_, if_neg (by simpa using none_)]
      exact oneEach_of_test (fun _ => Path.hasForm_subnetworkForm_iff) _
  ports := by
    rw [portViolations_eq]
    exact oneEach_of_test (fun _ => isPort_iff) _
  starts := p.linked_sharedStarts

variable {p} in
theorem Report.sound_iff {consumers subnets ports starts : List Violation}
    (h : p.Report consumers subnets ports starts) :
    consumers ++ subnets ++ ports ++ starts = [] ↔ p.Sound := by
  have eachConsumer : consumers = [] ↔ ∀ c ∈ p.consumers, c.Sound := by
    rw [h.consumers.eq_nil_iff]
    exact forall_mem_zipIdx_fst
  have eachSubnet : subnets = [] ↔
      p.natSubnets ≠ [] ∧ ∀ s ∈ p.natSubnets, Path.IsSubnetwork s := by
    have told := h.subnets
    by_cases none_ : p.natSubnets = []
    · rw [if_pos none_] at told
      simp [told, none_]
    · rw [if_neg none_] at told
      rw [told.eq_nil_iff, and_iff_right none_]
      exact forall_mem_zipIdx_fst
  have eachPort := h.ports.eq_nil_iff.trans (p.forall_mem_fieldsAsked)
  simp only [List.append_eq_nil_iff, eachConsumer, eachSubnet, eachPort, h.starts.eq_nil_iff]
  constructor
  · rintro ⟨⟨⟨consumers, some_, subnets⟩, ports⟩, starts⟩
    exact ⟨consumers, some_, subnets, ports, starts⟩
  · intro sound
    exact ⟨⟨⟨sound.consumers, sound.some_, sound.subnets⟩, sound.ports⟩, sound.starts⟩

theorem violations_eq_nil_iff : p.violations = [] ↔ p.Sound := p.report_violations.sound_iff

variable {p} in
theorem parse_eq_ok_iff {text : String} : parse text = .ok p ↔ decode text = .ok p ∧ p.Sound := by
  rw [← violations_eq_nil_iff]
  constructor
  · intro h
    unfold parse at h
    split at h
    · cases h
    · next decoded =>
      split at h
      · next sound =>
        obtain rfl := Except.ok.inj h
        exact ⟨decoded, sound⟩
      · cases h
  · rintro ⟨decoded, sound⟩
    rw [parse, decoded]
    exact if_pos sound

/-- A check finds nothing in the sound payloads only, and in any other it tells of every offender
and of nothing else. -/
theorem violations_exhaustive : (p.violations = [] ↔ p.Sound) ∧
    ∃ consumers subnets ports starts, p.violations = consumers ++ subnets ++ ports ++ starts ∧
      p.Report consumers subnets ports starts :=
  ⟨p.violations_eq_nil_iff, _, _, _, _, rfl, p.report_violations⟩

end Payload

end ReplicaPorts
