import Mathlib.Algebra.GroupWithZero.Nat
import Mathlib.Data.List.Forall2
import Mathlib.Logic.Relation
import ReplicaPorts.Proofs.Pass.Standing
import ReplicaPorts.Proofs.Pass.Timing

/-!
# Lookups that overlap

Some lookups of nodes are under way at a time, and they are completed in any order; their results
are taken in the order in which they started (`Batch.Step`). However that goes, it comes to an end
(`Batch.step_wellFounded`, `Batch.ends_or_steps`), and the end is that of lookups one after the
other: all machines in order, or the error of the first lookup that fails (`Outcome`,
`Batch.Sound.outcome`). Against a clock the lookups of a pass take such steps
(`attempt_machinesOf_reaches`), so they have this end if the time suffices (`attempt_machinesOf`).
-/

set_option autoImplicit false

namespace ReplicaPorts.Pass

open Cluster
open Relation (ReflTransGen)

variable {find : String → Except Error String} {names : List String}

/-! ## One lookup after the other -/

/-- The end of lookups that are made one after the other until one fails. -/
inductive Outcome (find : String → Except Error String) :
    List String → Except Error (List String) → Prop
  | all {names paths : List String}
      (found : List.Forall₂ (fun n path => find n = .ok path) names paths) :
      Outcome find names (.ok paths)
  | failure {before paths : List String} {name : String} {e : Error}
      (found : List.Forall₂ (fun n path => find n = .ok path) before paths)
      (fails : find name = .error e) (after : List String) :
      Outcome find (before ++ name :: after) (.error e)

theorem Outcome.cons_ok {name path : String} {r : Except Error (List String)}
    (found : find name = .ok path) (h : Outcome find names r) :
    Outcome find (name :: names) (r.map (path :: ·)) := by
  cases h with
  | all rest => exact .all (.cons found rest)
  | failure before fails after => exact .failure (.cons found before) fails after

theorem Outcome.cons_error {name : String} {e : Error} (fails : find name = .error e) :
    Outcome find (name :: names) (.error e) :=
  .failure .nil fails names

theorem mapM_of_found {paths : List String}
    (found : List.Forall₂ (fun n path => find n = .ok path) names paths) :
    names.mapM find = .ok paths := by
  induction found with
  | nil => rfl
  | cons here _ ih =>
    rw [List.mapM_cons, here, ih]
    rfl

theorem Outcome.mapM {r : Except Error (List String)} (h : Outcome find names r) :
    names.mapM find = r := by
  cases h with
  | all found => exact mapM_of_found found
  | failure found fails after =>
    rw [List.mapM_append, mapM_of_found found, List.mapM_cons, fails]
    rfl

/-- There is one end. -/
theorem Outcome.unique {r r' : Except Error (List String)} (h : Outcome find names r)
    (h' : Outcome find names r') : r = r' :=
  h.mapM.symm.trans h'.mapM

theorem exists_outcome (find : String → Except Error String) (names : List String) :
    ∃ r, Outcome find names r := by
  induction names with
  | nil => exact ⟨_, .all .nil⟩
  | cons name names ih =>
    obtain ⟨r, rest⟩ := ih
    cases found : find name with
    | ok path => exact ⟨_, rest.cons_ok found⟩
    | error e => exact ⟨_, .cons_error found⟩

/-! ## Some lookups at a time -/

/-- Lookups of nodes that overlap. -/
structure Batch where
  /-- The nodes whose lookups have not started. -/
  waiting : List String
  /-- The lookups that have started and whose results were not taken; a completed one has its
  result. -/
  underWay : List (String × Option (Except Error String))
  /-- The machines that were taken. -/
  taken : List String

namespace Batch

/-- Nothing has started. -/
def start (names : List String) : Batch := ⟨names, [], []⟩

/-- What may happen next: a lookup starts if there is room, any lookup is completed, or the first
one, if it was completed and found its machine, is taken. -/
inductive Step (limit : Nat) (find : String → Except Error String) : Batch → Batch → Prop
  | start {name : String} {waiting underWay taken} (room : underWay.length < max limit 1) :
      Step limit find ⟨name :: waiting, underWay, taken⟩
        ⟨waiting, underWay ++ [(name, none)], taken⟩
  | complete {waiting before name after taken} :
      Step limit find ⟨waiting, before ++ (name, none) :: after, taken⟩
        ⟨waiting, before ++ (name, some (find name)) :: after, taken⟩
  | take {waiting name path rest taken} :
      Step limit find ⟨waiting, (name, some (.ok path)) :: rest, taken⟩
        ⟨waiting, rest, taken ++ [path]⟩

/-- All is taken, or the first lookup that was not taken has failed. -/
inductive Ends : Batch → Except Error (List String) → Prop
  | all (paths : List String) : Ends ⟨[], [], paths⟩ (.ok paths)
  | failure {waiting name e rest taken} :
      Ends ⟨waiting, (name, some (.error e)) :: rest, taken⟩ (.error e)

/-- What holds of a batch at all times: nothing is lost, swapped or made up, and there is never too
much under way. -/
structure Sound (limit : Nat) (find : String → Except Error String) (names : List String)
    (b : Batch) : Prop where
  parts : ∃ done, names = done ++ (b.underWay.map (·.1) ++ b.waiting) ∧
    List.Forall₂ (fun n path => find n = .ok path) done b.taken
  results : ∀ x ∈ b.underWay, ∀ r, x.2 = some r → find x.1 = r
  bounded : b.underWay.length ≤ max limit 1

variable {limit : Nat} {b b' : Batch}

theorem sound_start (limit : Nat) (find : String → Except Error String) (names : List String) :
    Sound limit find names (start names) where
  parts := ⟨[], rfl, .nil⟩
  results := nofun
  bounded := Nat.zero_le _

theorem Sound.step (h : Sound limit find names b) (step : Step limit find b b') :
    Sound limit find names b' := by
  obtain ⟨⟨done, split, taken⟩, results, bounded⟩ := h
  cases step with
  | start room =>
    refine ⟨⟨done, by simpa using split, taken⟩, ?_, ?_⟩
    · refine List.forall_mem_append.mpr ⟨results, List.forall_mem_singleton.mpr ?_⟩
      rintro r ⟨⟩
    · rw [List.length_append]
      exact room
  | complete =>
    refine ⟨⟨done, by simpa using split, taken⟩, ?_, by simpa using bounded⟩
    obtain ⟨before, rest⟩ := List.forall_mem_append.mp results
    refine List.forall_mem_append.mpr ⟨before, List.forall_mem_cons.mpr ⟨?_, ?_⟩⟩
    · rintro r ⟨⟩
      rfl
    · exact (List.forall_mem_cons.mp rest).2
  | @take waiting name path rest taken_ =>
    obtain ⟨first, rest_⟩ := List.forall_mem_cons.mp results
    refine ⟨⟨done ++ [name], by simpa using split, ?_⟩, rest_, Nat.le_of_succ_le bounded⟩
    exact List.rel_append taken (.cons (first _ rfl) .nil)

theorem sound_of_reaches (reached : ReflTransGen (Step limit find) (start names) b) :
    Sound limit find names b := by
  induction reached with
  | refl => exact sound_start limit find names
  | tail _ step ih => exact ih.step step

/-- However lookups overlap, what they end with is the end of lookups one after the other. -/
theorem Sound.outcome (h : Sound limit find names b) {r : Except Error (List String)}
    (ends : b.Ends r) : Outcome find names r := by
  obtain ⟨⟨done, split, taken⟩, results, -⟩ := h
  cases ends with
  | all paths =>
    obtain rfl : names = done := by simpa using split
    exact .all taken
  | @failure waiting name e rest taken_ =>
    have fails := results _ List.mem_cons_self _ rfl
    rw [split]
    exact .failure taken fails _

/-- A batch has ended or goes on. -/
theorem ends_or_steps (limit : Nat) (find : String → Except Error String) (b : Batch) :
    (∃ r, b.Ends r) ∨ ∃ b', Step limit find b b' := by
  obtain ⟨waiting, underWay, taken⟩ := b
  cases underWay with
  | nil =>
    cases waiting with
    | nil => exact .inl ⟨_, .all taken⟩
    | cons name waiting => exact .inr ⟨_, .start (Nat.le_max_right limit 1)⟩
  | cons x rest =>
    obtain ⟨name, result⟩ := x
    cases result with
    | none => exact .inr ⟨_, @Step.complete limit find waiting [] name rest taken⟩
    | some r =>
      cases r with
      | ok path => exact .inr ⟨_, .take⟩
      | error e => exact .inl ⟨_, .failure⟩

/-- However lookups overlap, at most so many at a time, they come to an end, and to this one. -/
structure Settles (limit : Nat) (find : String → Except Error String) (names : List String)
    (r : Except Error (List String)) : Prop where
  bounded : ∀ b, ReflTransGen (Step limit find) (start names) b →
    b.underWay.length ≤ max limit 1
  ends : ∀ b, ReflTransGen (Step limit find) (start names) b → ∀ r', b.Ends r' → r' = r
  continues : ∀ b, ReflTransGen (Step limit find) (start names) b →
    (∃ r', b.Ends r') ∨ ∃ b', Step limit find b b'
  finite : WellFounded fun b' b => Step limit find b b'

/-- How many steps are left at most. -/
def left (b : Batch) : Nat :=
  3 * b.waiting.length + (b.underWay.map fun x => if x.2.isNone then 2 else 1).sum

theorem left_lt_of_step (step : Step limit find b b') : b'.left < b.left := by
  cases step with
  | start room =>
    simp [left]
    omega
  | complete => simp [left]
  | take => simp [left]

/-- The lookups of the first nodes are under way, and none is completed. -/
def begun (names : List String) (count : Nat) (taken : List String) : Batch :=
  ⟨names.drop count, (names.take count).map fun name => (name, none), taken⟩

/-- More lookups may start as long as there are more nodes and room. -/
theorem begun_reaches {fewer more : Nat} (taken : List String) (le : fewer ≤ more)
    (within : more ≤ names.length) (room : more ≤ max limit 1) :
    ReflTransGen (Step limit find) (begun names fewer taken) (begun names more taken) := by
  induction more, le using Nat.le_induction with
  | base => exact .refl
  | succ count le ih =>
    refine (ih (by omega) (by omega)).tail ?_
    have waiting : names.drop count = names[count] :: names.drop (count + 1) :=
      List.drop_eq_getElem_cons within
    have underWay : names.take (count + 1) = names.take count ++ [names[count]] :=
      List.take_succ_eq_append_getElem within
    rw [begun, begun, waiting, underWay, List.map_append]
    refine .start ?_
    rw [List.length_map, List.length_take]
    omega

theorem step_wellFounded (limit : Nat) (find : String → Except Error String) :
    WellFounded fun b' b => Step limit find b b' :=
  Subrelation.wf (fun step => left_lt_of_step step) (measure left).wf

theorem settles_of_outcome (limit : Nat) {r : Except Error (List String)}
    (outcome : Outcome find names r) : Settles limit find names r where
  bounded _ reached := (sound_of_reaches reached).bounded
  ends _ reached _ ends := ((sound_of_reaches reached).outcome ends).unique outcome
  continues b _ := ends_or_steps limit find b
  finite := step_wellFounded limit find

end Batch

/-! ## Against a clock -/

/-- What is made of the value of a program against a clock. -/
theorem attempt_map {α β : Type} (p : Program asks α) (f : α → β) (t : Clock) :
    (p.bind fun a => .done (f a)).attempt Clock.answer t =
      ((p.attempt Clock.answer t).1.map f, (p.attempt Clock.answer t).2) := by
  induction p generalizing t with
  | done a => rfl
  | ask op next ih =>
    simp only [Program.ask_bind, Program.attempt]
    rcases t.answer op with ⟨_ | x, u⟩
    · rfl
    · exact ih x u

/-- The machine that the answer to the lookup of a node tells. -/
def told (name : String) : Except Cluster.Error Node → Except Error String
  | .ok found => machineOf name found.providerId
  | .error e => .error (.cluster e)

/-- The machine of a node, as a cluster in memory tells it. -/
def machineIn (m : Memory) (name : String) : Except Error String :=
  told name (m.settle (.getNode name)).1

variable {lookups : Nat} {name : String} {t : Clock} {w : World}

/-- Against a clock the nodes are looked up one after the other, as the program says. -/
theorem attempt_machinesOf_cons (lookups : Nat) (name : String) (names : List String) (t : Clock) :
    (machinesOf lookups (name :: names)).run.attempt Clock.answer t =
      match t.lookup name (names.take (lookups - 1)) with
      | (none, u) => (none, u)
      | (some answer, u) =>
        match told name answer with
        | .error e => (some (.error e), u)
        | .ok path =>
          let rest := (machinesOf lookups names).run.attempt Clock.answer u
          (rest.1.map (·.map (path :: ·)), rest.2) := by
  have asked : t.answer (.node name (names.take (lookups - 1))) =
      t.lookup name (names.take (lookups - 1)) := rfl
  show ((Program.call (S := asks) (.node name (names.take (lookups - 1)))).bind _).attempt
    Clock.answer t = _
  simp only [Program.call, Program.ask_bind, Program.attempt]
  rw [asked]
  rcases t.lookup name (names.take (lookups - 1)) with ⟨_ | answer, u⟩
  · rfl
  · cases answer with
    | error e => rfl
    | ok found =>
      show (ofExcept id (machineOf name found.providerId) >>= fun path =>
        machinesOf lookups names >>= fun paths => pure (path :: paths) :
        Pass (List String)).run.attempt Clock.answer u = _
      cases machine : machineOf name found.providerId with
      | error e =>
        simp only [told, machine]
        rfl
      | ok path =>
        have later : (machinesOf lookups names >>= fun paths => pure (path :: paths) :
            Pass (List String)).run =
              (machinesOf lookups names).run.bind fun r => .done (r.map (path :: ·)) := by
          show Program.bind _ _ = Program.bind _ _
          congr 1
          funext r
          cases r <;> rfl
        simp only [told, machine, ← attempt_map, ← later]
        rfl

/-- The lookups under way are those of the first nodes, no more than there may be, and each will be
completed no later than if it started now. -/
structure Clock.Queues (t : Clock) (lookups : Nat) (names : List String) : Prop where
  bounded : t.underWay.length ≤ max lookups 1
  times : List.Forall₂ (fun time name => time ≤ t.now + t.delayOf (.getNode name)) t.underWay
    (names.take t.underWay.length)

theorem Clock.foldl_start (names : List String) (t : Clock) :
    ∃ world, names.foldl Clock.start t = { t with
      world
      underWay := t.underWay ++ names.map fun name => t.now + t.delayOf (.getNode name) } := by
  induction names generalizing t with
  | nil => exact ⟨t.world, by simp⟩
  | cons name names ih =>
    obtain ⟨world, rest⟩ := ih (t.start name)
    refine ⟨world, ?_⟩
    rw [List.foldl_cons, rest]
    simp [Clock.start, Clock.note, Clock.delayOf]

/-- Whether the first lookup was under way or starts now, it is known when it will be completed. -/
theorem Clock.Queues.completion (h : t.Queues lookups (name :: names)) :
    ∃ time rest world,
      t.completion name = (time, { t with world, underWay := time :: rest }) ∧
      time ≤ t.now + t.delayOf (.getNode name) ∧ t.underWay.length ≤ rest.length + 1 ∧
      rest.length + 1 ≤ max lookups 1 ∧
      List.Forall₂ (fun time name => time ≤ t.now + t.delayOf (.getNode name)) rest
        (names.take rest.length) := by
  obtain ⟨bounded, times⟩ := h
  unfold Clock.completion
  cases queue : t.underWay with
  | nil =>
    refine ⟨_, [], (t.start name).world, ?_, Nat.le_refl _, Nat.zero_le _, Nat.le_max_right _ _,
      .nil⟩
    simp [Clock.start, Clock.note, Clock.delayOf, queue]
  | cons time rest =>
    rw [queue] at bounded times
    obtain ⟨inTime, later⟩ := List.forall₂_cons.mp times
    refine ⟨time, rest, t.world, ?_, inTime, Nat.le_refl _, bounded, later⟩
    show (time, t) = _
    rw [← queue]

/-- A lookup is settled at some time, with some lookups under way behind it. -/
theorem Clock.Queues.lookup (h : t.Queues lookups (name :: names)) :
    ∃ time world queue, t.lookup name (names.take (lookups - 1)) =
        Clock.settleAt time (.getNode name) { t with world, underWay := queue } ∧
      t.now ≤ time ∧ time ≤ t.now + t.delayOf (.getNode name) ∧
      t.underWay.length ≤ queue.length + 1 ∧ queue.length + 1 ≤ max lookups 1 ∧
      List.Forall₂ (fun time name => time ≤ t.now + t.delayOf (.getNode name)) queue
        (names.take queue.length) := by
  obtain ⟨time, rest, world, known, inTime, most, bounded, later⟩ := h.completion
  unfold Clock.lookup
  rw [known]
  dsimp only
  by_cases done : time ≤ t.now
  · rw [if_pos done]
    exact ⟨t.now, world, rest, rfl, Nat.le_refl _, Nat.le_add_right _ _, most, bounded, later⟩
  · -- the lookups ahead start behind those that are under way
    rw [if_neg done, List.tail_cons]
    have ahead : (names.take (lookups - 1)).drop rest.length <+: names.drop rest.length := by
      rw [List.drop_take]
      exact List.take_prefix _ _
    have few :
        ((names.take (lookups - 1)).drop rest.length).length ≤ lookups - 1 - rest.length := by
      rw [List.length_drop, List.length_take]
      omega
    generalize (names.take (lookups - 1)).drop rest.length = started at ahead few ⊢
    obtain ⟨world', started_⟩ :=
      Clock.foldl_start started { t with world, underWay := time :: rest }
    rw [started_]
    refine ⟨time, world', _, rfl, Nat.le_of_not_le done, inTime, ?_, ?_, ?_⟩
    · simp only [List.cons_append, List.tail_cons, List.length_append, List.length_map]
      omega
    · simp only [List.cons_append, List.tail_cons, List.length_append, List.length_map]
      omega
    · have parts :
          names.take (rest.length + started.length) = names.take rest.length ++ started := by
        rw [List.take_add, ← List.prefix_iff_eq_take.mp ahead]
      simp only [List.cons_append, List.tail_cons, List.length_append, List.length_map, parts]
      exact List.rel_append later
        (List.forall₂_map_left_iff.mpr (List.forall₂_same.mpr fun _ _ => Nat.le_refl _))

/-- A lookup is answered, if it is, as in the world that the clock shows, and changes nothing. -/
theorem Clock.Shows.lookup (h : t.Shows w) (name : String) (ahead : List String) :
    (t.lookup name ahead).1 = none ∨
    (t.lookup name ahead).1 = some (w.cluster.settle (.getNode name)).1 ∧
      (t.lookup name ahead).2.Shows w := by
  rcases h.answer (.node name ahead) with ⟨late, -⟩ | ⟨answered, calls, shown⟩
  · exact .inl late
  · refine .inr ⟨answered.trans (congrArg some ?_), calls, shown.trans ?_⟩
    · show (Memory.settle (.getNode name) (w.cluster.note (.getNode name))).1 = _
      rw [Memory.note, Memory.settle_calls]
    · have read : (w.cluster.answer (.getNode name)).2 = w.cluster.note (.getNode name) :=
        Memory.answer_of_read rfl _
      show World.listing { w with cluster := (w.cluster.answer (.getNode name)).2 } calls = _
      rw [read]
      rfl

/-- Against a clock the lookups overlap as those of a batch may: from the batch that the clock shows
they go on to its end, unless the time does not suffice for the lookups that are left. -/
theorem attempt_machinesOf_reaches (h : t.Shows w) (queues : t.Queues lookups names)
    (taken : List String) :
    (((machinesOf lookups names).run.attempt Clock.answer t).1 = none ∧
      t.deadline < t.now + (names.map fun name => t.delayOf (.getNode name)).sum) ∨
    ∃ r b, ((machinesOf lookups names).run.attempt Clock.answer t).1 = some r ∧
      ReflTransGen (Batch.Step lookups (machineIn w.cluster))
        (.begun names t.underWay.length taken) b ∧ b.Ends (r.map (taken ++ ·)) := by
  induction names generalizing t taken with
  | nil =>
    have idle : t.underWay = [] := by simpa using queues.times
    refine .inr ⟨.ok [], .begun [] 0 taken, rfl, ?_, ?_⟩
    · rw [idle]
      exact .refl
    · show Batch.Ends ⟨[], [], taken⟩ (.ok (taken ++ []))
      rw [List.append_nil]
      exact .all taken
  | cons name names ih =>
    obtain ⟨time, world, queue, known, later, inTime, most, bounded, times⟩ := queues.lookup
    have shown := h.lookup name (names.take (lookups - 1))
    rw [attempt_machinesOf_cons]
    rw [known] at shown ⊢
    by_cases late : t.deadline < time
    · refine .inl ⟨by simp [Clock.settleAt, late], ?_⟩
      simp only [List.map_cons, List.sum_cons]
      omega
    have settled : Clock.settleAt time (.getNode name) { t with world, underWay := queue } =
        (some (Memory.settle (.getNode name) world.cluster).1, { t with
          world := { world with cluster := (Memory.settle (.getNode name) world.cluster).2 }
          underWay := queue
          now := time }) := if_neg late
    rw [settled] at shown ⊢
    obtain ⟨⟨⟩⟩ | ⟨answered, shows_⟩ := shown
    have within : queue.length ≤ names.length := by
      have length := times.length_eq
      rw [List.length_take] at length
      omega
    have started : ReflTransGen (Batch.Step lookups (machineIn w.cluster))
        (.begun (name :: names) t.underWay.length taken)
        (.begun (name :: names) (queue.length + 1) taken) :=
      Batch.begun_reaches taken most (Nat.succ_le_succ within) bounded
    have completed : ReflTransGen (Batch.Step lookups (machineIn w.cluster))
        (.begun (name :: names) t.underWay.length taken)
        ⟨names.drop queue.length, (name, some (machineIn w.cluster name)) ::
          (names.take queue.length).map fun name => (name, none), taken⟩ :=
      started.tail (@Batch.Step.complete _ _ _ [] _ _ _)
    simp only [Option.some.inj answered]
    cases machine : told name (w.cluster.settle (.getNode name)).1 with
    | error e =>
      rw [show machineIn w.cluster name = .error e from machine] at completed
      exact .inr ⟨_, _, rfl, completed, .failure⟩
    | ok path =>
      rw [show machineIn w.cluster name = .ok path from machine] at completed
      have queues' : Clock.Queues { t with
          world := { world with cluster := (Memory.settle (.getNode name) world.cluster).2 }
          underWay := queue
          now := time } lookups names :=
        ⟨Nat.le_of_succ_le bounded, times.imp fun _ _ inTime =>
          Nat.le_trans inTime (Nat.add_le_add_right later _)⟩
      rcases ih shows_ queues' (taken ++ [path]) with ⟨none_, short⟩ | ⟨r, b, value, rest, ends⟩
      · refine .inl ⟨by rw [none_]; rfl, Nat.lt_of_lt_of_le short ?_⟩
        simp only [List.map_cons, List.sum_cons]
        show time + (names.map fun name => t.delayOf (.getNode name)).sum ≤ _
        omega
      · refine .inr ⟨r.map (path :: ·), b, by rw [value]; rfl,
          completed.trans (.head .take rest), ?_⟩
        cases r with
        | error e => exact ends
        | ok paths => simpa [Except.map] using ends

/-- A pass that has time finds the machines of some nodes as lookups one after the other would, or
ends with the error of the first of these that fails. -/
theorem attempt_machinesOf (idle : t.underWay = []) (lookups : Nat)
    {r : Except Error (List String)} (outcome : Outcome (machineIn t.world.cluster) names r) :
    (((machinesOf lookups names).run.attempt Clock.answer t).1 = none ∧
      t.deadline < t.now + (names.map fun name => t.delayOf (.getNode name)).sum) ∨
    ((machinesOf lookups names).run.attempt Clock.answer t).1 = some r := by
  have queues : t.Queues lookups names := by
    refine ⟨?_, ?_⟩
    · rw [idle]
      exact Nat.zero_le _
    · rw [idle]
      exact .nil
  refine (attempt_machinesOf_reaches (.refl t) queues []).imp_right ?_
  rintro ⟨r', b, value, reached, ends⟩
  have whole : r'.map ([] ++ ·) = r' := by cases r' <;> rfl
  rw [idle] at reached
  rw [whole] at ends
  rw [value, (Batch.sound_of_reaches reached).outcome ends |>.unique outcome]

end ReplicaPorts.Pass
