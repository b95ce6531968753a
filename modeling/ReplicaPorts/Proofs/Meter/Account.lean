import Mathlib.Algebra.GroupWithZero.Nat
import Mathlib.Data.List.Induction
import ReplicaPorts.Meter.Exposition
import ReplicaPorts.Operator
import ReplicaPorts.Proofs.Keyed

/-!
# The account of passes

A meter is an account of the passes that it recorded: each of them is counted once as a success or
as an error, once among the durations, and if it failed once under its outermost step
(`Meter.Accounts`). What a pass adds is the same whatever was recorded before it
(`Accounts.record`), so the account is kept over every sequence of passes.

A duration is counted in one cell, and it raises exactly the buckets whose bounds it does not pass
(`Histogram.buckets_observe`). In the exposition a metric is found by how its lines start; no two
metrics of a meter start alike (`Meter.linesAbout_eq`), so the lines about a metric are those of its
family, and there are none if the family has no series.
-/

set_option autoImplicit false

namespace ReplicaPorts

/-! ## Cells and buckets -/

namespace Histogram

variable {t : Elapsed} {cells : List (Elapsed × Nat)}

/-- Whether the bounds of cells ascend. -/
def IsAscending (cells : List (Elapsed × Nat)) : Prop := cells.Pairwise fun a b => a.1 ≤ b.1

theorem map_fst_countIn (t : Elapsed) (cells : List (Elapsed × Nat)) :
    (countIn t cells).map Prod.fst = cells.map Prod.fst := by
  induction cells with
  | nil => rfl
  | cons cell cells ih =>
    unfold countIn
    split
    · rfl
    · exact congrArg (cell.1 :: ·) ih

theorem IsAscending.countIn (h : IsAscending cells) (t : Elapsed) :
    IsAscending (countIn t cells) := by
  have bounds : (cells.map Prod.fst).Pairwise (· ≤ ·) := List.pairwise_map.mpr h
  rw [← map_fst_countIn t cells] at bounds
  exact List.pairwise_map.mp bounds

/-- One duration more before the cells is one more up to each of their bounds. -/
theorem cumulative_succ (before : Nat) (cells : List (Elapsed × Nat)) :
    cumulative (before + 1) cells = (cumulative before cells).map fun b => (b.1, b.2 + 1) := by
  induction cells generalizing before with
  | nil => rfl
  | cons cell cells ih =>
    simp only [cumulative, List.map_cons, Nat.add_right_comm before 1, ih]

theorem map_fst_cumulative (before : Nat) (cells : List (Elapsed × Nat)) :
    (cumulative before cells).map Prod.fst = cells.map Prod.fst := by
  induction cells generalizing before with
  | nil => rfl
  | cons cell cells ih => exact congrArg (cell.1 :: ·) (ih _)

/-- A duration raises the buckets whose bounds it does not pass, and leaves the others. -/
def raise (t : Elapsed) (bucket : Elapsed × Nat) : Elapsed × Nat :=
  (bucket.1, bucket.2 + if t ≤ bucket.1 then 1 else 0)

theorem cumulative_countIn (h : IsAscending cells) (before : Nat) :
    cumulative before (countIn t cells) = (cumulative before cells).map (raise t) := by
  induction cells generalizing before with
  | nil => rfl
  | cons cell cells ih =>
    obtain ⟨bound, n⟩ := cell
    obtain ⟨above, rest⟩ := List.pairwise_cons.mp h
    unfold countIn
    split
    · next reached =>
      -- it is counted here, and every later bound reaches it too
      have later : ∀ b ∈ cumulative (before + n) cells, raise t b = (b.1, b.2 + 1) := by
        intro b mem
        have known : b.1 ∈ cells.map Prod.fst := by
          rw [← map_fst_cumulative (before + n)]
          exact List.mem_map_of_mem mem
        obtain ⟨cell, mem', same⟩ := List.mem_map.mp known
        have passes : t ≤ b.1 := same ▸ Nat.le_trans reached (above cell mem')
        rw [raise, if_pos passes]
      rw [cumulative, cumulative, ← Nat.add_assoc, cumulative_succ, List.map_cons,
        List.map_congr_left later, raise, if_pos reached]
    · next passed =>
      rw [cumulative, cumulative, ih rest, List.map_cons, raise, if_neg passed]
      rfl

theorem buckets_observe {h : Histogram} (ascending : IsAscending h.cells) (t : Elapsed) :
    (h.observe t).buckets = h.buckets.map (raise t) :=
  cumulative_countIn ascending 0

/-- A histogram of some durations: up to each bound it counts those that do not pass it. -/
structure Counts (h : Histogram) (bounds : List Elapsed) (times : List Elapsed) : Prop where
  ascending : IsAscending h.cells
  count : h.count = times.length
  buckets : h.buckets = bounds.map fun bound => (bound, times.countP (· ≤ bound))

theorem counts_empty {bounds : List Elapsed} (ascending : bounds.Pairwise (· ≤ ·)) :
    (empty bounds).Counts bounds [] where
  ascending := List.pairwise_map.mpr ascending
  count := rfl
  buckets := by
    have zero : ∀ bounds : List Elapsed,
        cumulative 0 (bounds.map (·, 0)) = bounds.map fun bound => (bound, 0) := by
      intro bounds
      induction bounds with
      | nil => rfl
      | cons bound bounds ih => exact congrArg ((bound, 0) :: ·) ih
    exact zero bounds

theorem Counts.observe {h : Histogram} {bounds times : List Elapsed}
    (counts : h.Counts bounds times) (t : Elapsed) :
    (h.observe t).Counts bounds (times ++ [t]) where
  ascending := counts.ascending.countIn t
  count := by
    rw [List.length_append, ← counts.count]
    rfl
  buckets := by
    rw [buckets_observe counts.ascending, counts.buckets, List.map_map]
    refine List.map_congr_left ?_
    intro bound _
    simp [raise, List.countP_append, List.countP_singleton]

/-- A higher bound is passed by no more durations. -/
theorem Counts.rising {h : Histogram} {bounds times : List Elapsed}
    (counts : h.Counts bounds times) (ascending : bounds.Pairwise (· ≤ ·)) :
    (h.buckets.map Prod.snd).Pairwise (· ≤ ·) := by
  rw [counts.buckets, List.map_map]
  refine List.pairwise_map.mpr (ascending.imp ?_)
  intro a b below
  refine List.countP_mono_left ?_
  intro t _ reached
  exact decide_eq_true (Nat.le_trans (of_decide_eq_true reached) below)

/-- No bucket counts more than there are. -/
theorem Counts.le_count {h : Histogram} {bounds times : List Elapsed}
    (counts : h.Counts bounds times) : ∀ n ∈ h.buckets.map Prod.snd, n ≤ h.count := by
  rw [counts.buckets, counts.count, List.map_map]
  intro n mem
  obtain ⟨bound, -, rfl⟩ := List.mem_map.mp mem
  exact List.countP_le_length

end Histogram

namespace Meter

/-! ## Passes as they are counted -/

/-- A pass as it is counted. -/
structure Outing where
  result : Except Pass.Error Unit
  elapsed : Elapsed

namespace Outing

def succeeded (p : Outing) : Bool := p.result.toBool

def failed (p : Outing) : Bool := !p.succeeded

/-- Whether a pass failed with a step as the outermost one of its error, or in no step. -/
def failedIn (step : Option Pass.Step) (p : Outing) : Bool :=
  match p.result with
  | .ok () => false
  | .error e => e.step? == step

end Outing

/-- What is known after some more passes. -/
def recordAll (m : Meter) (passes : List Outing) : Meter :=
  passes.foldl (fun m p => m.record p.result p.elapsed) m

theorem otherLabel_ne (s : Pass.Step) : s.label ≠ otherLabel := by cases s <;> decide

/-- Failures are counted together only if they came in the same step. -/
theorem failureLabel_injective : Function.Injective failureLabel := by
  rintro (_ | s) (_ | t) same
  · rfl
  · exact absurd same.symm (otherLabel_ne t)
  · exact absurd same (otherLabel_ne s)
  · exact congrArg some (Pass.Step.label_injective same)

theorem bounds_ascending : bounds.Pairwise (· ≤ ·) := by decide

/-! ## The account -/

/-- A meter that counts each of some passes once: by its result, by the step in which it failed and
by its duration. -/
structure Accounts (m : Meter) (passes : List Outing) : Prop where
  successes : m.successes = passes.countP Outing.succeeded
  errors : m.errors = passes.countP Outing.failed
  steps : ∀ step,
    (m.failures.get? (failureLabel step)).getD 0 = passes.countP (Outing.failedIn step)
  /-- A label without failures is not counted. -/
  labels : ∀ label n, m.failures.get? label = some n → n ≠ 0
  failures : m.failures.values.sum = m.errors
  durations : m.durations.Counts bounds (passes.map Outing.elapsed)

theorem accounts_empty : empty.Accounts [] where
  successes := rfl
  errors := rfl
  steps _ := rfl
  labels _ _ found := by cases found
  failures := rfl
  durations := Histogram.counts_empty bounds_ascending

theorem Accounts.success {m : Meter} {passes : List Outing} (h : m.Accounts passes) (t : Elapsed) :
    (m.success t).Accounts (passes ++ [⟨.ok (), t⟩]) where
  successes := by simp [Meter.success, h.successes, Outing.succeeded, Except.toBool]
  errors := by simp [Meter.success, h.errors, Outing.failed, Outing.succeeded, Except.toBool]
  steps step := by simp [Meter.success, h.steps, Outing.failedIn]
  labels := h.labels
  failures := h.failures
  durations := by
    rw [List.map_append]
    exact h.durations.observe t

theorem Accounts.failure {m : Meter} {passes : List Outing} (h : m.Accounts passes)
    (e : Pass.Error) (t : Elapsed) :
    (m.failure e.step? t).Accounts (passes ++ [⟨.error e, t⟩]) where
  successes := by simp [Meter.failure, h.successes, Outing.succeeded, Except.toBool]
  errors := by simp [Meter.failure, h.errors, Outing.failed, Outing.succeeded, Except.toBool]
  steps step := by
    by_cases here : step = e.step?
    · subst here
      simp [Meter.failure, h.steps, Outing.failedIn]
    · have apart : failureLabel step ≠ failureLabel e.step? := failureLabel_injective.ne here
      simp [Meter.failure, Keyed.get?_insert_ne _ _ apart, h.steps, Outing.failedIn, Ne.symm here]
  labels label n found := by
    by_cases here : label = failureLabel e.step?
    · subst here
      rw [Meter.failure, Keyed.get?_insert_self, Option.some.injEq] at found
      omega
    · rw [Meter.failure, Keyed.get?_insert_ne _ _ here] at found
      exact h.labels label n found
  failures := by
    have one := Keyed.sum_values_insert m.failures (failureLabel e.step?)
      ((m.failures.get? (failureLabel e.step?)).getD 0 + 1)
    have all := h.failures
    simp only [Meter.failure]
    omega
  durations := by
    rw [List.map_append]
    exact h.durations.observe t

theorem Accounts.record {m : Meter} {passes : List Outing} (h : m.Accounts passes) (p : Outing) :
    (m.record p.result p.elapsed).Accounts (passes ++ [p]) := by
  obtain ⟨result, t⟩ := p
  cases result with
  | ok => exact h.success t
  | error e => exact h.failure e t

/-- Passes that are recorded one after the other are all accounted for. -/
theorem accounts_recordAll (passes : List Outing) : (empty.recordAll passes).Accounts passes := by
  induction passes using List.reverseRecOn with
  | nil => exact accounts_empty
  | append_singleton passes p ih =>
    rw [recordAll, List.foldl_append]
    exact ih.record p

theorem Accounts.count {m : Meter} {passes : List Outing} (h : m.Accounts passes) :
    m.durations.count = passes.length := by
  rw [h.durations.count, List.length_map]

theorem Accounts.buckets {m : Meter} {passes : List Outing} (h : m.Accounts passes) :
    m.durations.buckets =
      bounds.map fun bound => (bound, passes.countP (·.elapsed ≤ bound)) := by
  simpa only [List.countP_map, Function.comp_def] using h.durations.buckets

/-- Every pass succeeded or failed. -/
theorem Accounts.total {m : Meter} {passes : List Outing} (h : m.Accounts passes) :
    m.successes + m.errors = m.durations.count := by
  have parts : passes.length = passes.countP Outing.succeeded + passes.countP Outing.failed := by
    rw [List.length_eq_countP_add_countP Outing.succeeded]
    simp only [Bool.not_eq_true, Bool.decide_eq_false]
    rfl
  rw [h.successes, h.errors, h.count, parts]

/-! ## The exposition -/

/-- The metric of durations. -/
def durationMetric : String := "reconcile_duration_seconds"

/-- The metric of failures, with a series for each step. -/
def failureMetric : String := "reconcile_failures_total"

/-- The metric of results, with a series for each of the two. -/
def resultMetric : String := "reconciliations_total"

/-- How the lines about a metric start. -/
def heads (metric : String) : List String :=
  ["# HELP " ++ nameOf metric, "# TYPE " ++ nameOf metric, nameOf metric]

/-- Whether a line is about a metric: it tells what the metric is, or the value of a series. -/
def isAbout (metric line : String) : Bool :=
  (heads metric).any fun head => head.toList.isPrefixOf line.toList

/-- The lines about a metric. -/
def linesAbout (m : Meter) (metric : String) : List String := m.lines.filter (isAbout metric)

/-- Whether no line can be about both of two metrics. -/
def Apart (metric other : String) : Prop :=
  ∀ a ∈ heads metric, ∀ b ∈ heads other, ¬ a.toList <+: b.toList ∧ ¬ b.toList <+: a.toList

instance (metric other : String) : Decidable (Apart metric other) :=
  inferInstanceAs (Decidable (∀ a ∈ heads metric, ∀ b ∈ heads other, _ ∧ _))

theorem Apart.symm {metric other : String} (h : Apart metric other) : Apart other metric := by
  intro b mem a mem'
  exact (h a mem' b mem).symm

theorem isAbout_eq_true_iff {metric line : String} :
    isAbout metric line = true ↔ ∃ head ∈ heads metric, head.toList <+: line.toList := by
  simp [isAbout, List.any_eq_true]

/-- A line about one metric is not about another that is apart from it. -/
theorem isAbout_eq_false {metric other line : String} (apart : Apart metric other)
    (about : isAbout metric line = true) : isAbout other line = false := by
  rw [Bool.eq_false_iff]
  intro about'
  obtain ⟨a, mem, starts⟩ := isAbout_eq_true_iff.mp about
  obtain ⟨b, mem', starts'⟩ := isAbout_eq_true_iff.mp about'
  rcases List.prefix_or_prefix_of_prefix starts starts' with within | within
  · exact (apart a mem b mem').1 within
  · exact (apart a mem b mem').2 within

theorem starts {head rest line : String} (whole : line = head ++ rest) :
    head.toList <+: line.toList := by
  rw [whole, String.toList_append]
  exact List.prefix_append _ _

theorem exists_line_eq (s : Series) (family : String) :
    ∃ rest, s.line family = nameOf family ++ rest := by
  have whole : ∀ label, nameOf family ++ s.suffix ++ label ++ " " ++ s.value =
      nameOf family ++ (s.suffix ++ (label ++ (" " ++ s.value))) := by
    intro label
    simp only [String.append_assoc]
  exact ⟨_, whole _⟩

/-- The lines of a family are about its metric. -/
theorem isAbout_of_mem_lines {f : Family} {line : String} (mem : line ∈ f.lines) :
    isAbout f.name line = true := by
  rw [isAbout_eq_true_iff]
  unfold Family.lines at mem
  split at mem
  · cases mem
  · rcases List.mem_cons.mp mem with rfl | mem
    · exact ⟨"# HELP " ++ nameOf f.name, by simp [heads], starts (String.append_assoc ..)⟩
    rcases List.mem_cons.mp mem with rfl | mem
    · exact ⟨"# TYPE " ++ nameOf f.name, by simp [heads], starts (String.append_assoc ..)⟩
    obtain ⟨s, -, rfl⟩ := List.mem_map.mp mem
    obtain ⟨rest, whole⟩ := exists_line_eq s f.name
    exact ⟨nameOf f.name, by simp [heads], starts whole⟩

theorem filter_lines_apart {f : Family} {other : String} (apart : Apart f.name other) :
    f.lines.filter (isAbout other) = [] := by
  rw [List.filter_eq_nil_iff]
  intro line mem about
  rw [isAbout_eq_false apart (isAbout_of_mem_lines mem)] at about
  cases about

/-- Among the lines of families that are apart, those about one metric are those of its family. -/
theorem filter_flatMap_lines {f : Family} {families : List Family}
    (apart : families.Pairwise fun f g => Apart f.name g.name) (mem : f ∈ families) :
    (families.flatMap Family.lines).filter (isAbout f.name) = f.lines := by
  induction families with
  | nil => cases mem
  | cons g families ih =>
    obtain ⟨first, rest⟩ := List.pairwise_cons.mp apart
    rw [List.flatMap_cons, List.filter_append]
    rcases List.mem_cons.mp mem with rfl | mem
    · have own : f.lines.filter (isAbout f.name) = f.lines :=
        List.filter_eq_self.mpr fun _ mem => isAbout_of_mem_lines mem
      have others : (families.flatMap Family.lines).filter (isAbout f.name) = [] := by
        rw [List.filter_flatMap, List.flatMap_eq_nil_iff]
        intro g mem
        exact filter_lines_apart (first g mem).symm
      rw [own, others, List.append_nil]
    · rw [filter_lines_apart (first f mem), ih rest mem, List.nil_append]

theorem families_apart (m : Meter) : m.families.Pairwise fun f g => Apart f.name g.name := by
  have names : (m.families.map Family.name).Pairwise Apart := by
    show [durationMetric, failureMetric, resultMetric].Pairwise Apart
    decide +kernel
  exact List.pairwise_map.mp names

/-- The lines about a metric are the lines of its family. -/
theorem linesAbout_eq (m : Meter) {f : Family} (known : f ∈ m.families) {metric : String}
    (name : f.name = metric) : m.linesAbout metric = f.lines := by
  subst name
  exact filter_flatMap_lines m.families_apart known

theorem lines_eq_nil_iff (f : Family) : f.lines = [] ↔ f.series = [] := by
  unfold Family.lines
  split <;> simp_all

/-- The line that tells how many durations do not pass a bound. -/
def bucketLine (bound : String) (n : Nat) : String :=
  Series.line durationMetric
    { suffix := "_bucket", label := some ("le", bound), value := toString n }

/-- What the exposition of a meter shows of some passes. -/
structure Shows (m : Meter) (passes : List Outing) : Prop where
  durations : m.linesAbout durationMetric =
    [s!"# HELP {nameOf durationMetric} Duration of reconciliation passes",
      s!"# TYPE {nameOf durationMetric} histogram"] ++
    bounds.map (fun bound =>
      bucketLine (Text.plainFloat bound.seconds) (passes.countP (·.elapsed ≤ bound))) ++
    [bucketLine "+Inf" passes.length,
      Series.line durationMetric { suffix := "_sum", value := Text.plainFloat m.durations.sum },
      Series.line durationMetric { suffix := "_count", value := toString passes.length }]
  failures : m.linesAbout failureMetric = [] ↔ ∀ p ∈ passes, p.succeeded = true
  results : m.linesAbout resultMetric = [] ↔ passes = []

/-- No failure is counted exactly if no pass failed. -/
theorem Accounts.failures_eq_nil_iff {m : Meter} {passes : List Outing} (h : m.Accounts passes) :
    m.failures.toList = [] ↔ ∀ p ∈ passes, p.succeeded = true := by
  have none_ : passes.countP Outing.failed = 0 ↔ ∀ p ∈ passes, p.succeeded = true := by
    simp [List.countP_eq_zero, Outing.failed]
  rw [← none_, ← h.errors, ← h.failures]
  constructor
  · intro empty
    have values : m.failures.values = [] := congrArg (List.map Prod.snd) empty
    rw [values, List.sum_nil]
  · intro zero
    rw [List.eq_nil_iff_forall_not_mem]
    rintro ⟨label, n⟩ mem
    have counted : n ∈ m.failures.values := List.mem_map_of_mem mem
    exact h.labels label n (Keyed.get?_eq_some_iff.mpr mem)
      (List.sum_eq_zero_iff_forall_eq_nat.mp zero n counted)

/-- The series of the durations of some passes, as lines. -/
theorem Accounts.map_line_series {m : Meter} {passes : List Outing} (h : m.Accounts passes) :
    (durationFamily m.durations).series.map (·.line durationMetric) =
      bounds.map (fun bound =>
        bucketLine (Text.plainFloat bound.seconds) (passes.countP (·.elapsed ≤ bound))) ++
      [bucketLine "+Inf" passes.length,
        Series.line durationMetric { suffix := "_sum", value := Text.plainFloat m.durations.sum },
        Series.line durationMetric { suffix := "_count", value := toString passes.length }] := by
  simp only [durationFamily, h.buckets, h.count, List.map_append, List.map_map, Function.comp_def,
    bucketLine, List.map_cons, List.map_nil]

theorem linesAbout_durations (m : Meter) :
    m.linesAbout durationMetric =
      [s!"# HELP {nameOf durationMetric} Duration of reconciliation passes",
        s!"# TYPE {nameOf durationMetric} histogram"] ++
      (durationFamily m.durations).series.map (·.line durationMetric) := by
  have known : durationFamily m.durations ∈ m.families := List.mem_cons_self
  have filled : (durationFamily m.durations).series.isEmpty = false := by simp [durationFamily]
  refine (linesAbout_eq m known rfl).trans ?_
  rw [Family.lines, filled, if_neg Bool.false_ne_true]
  rfl

theorem linesAbout_failures (m : Meter) :
    m.linesAbout failureMetric = [] ↔ m.failures.toList = [] := by
  have known : failureFamily m ∈ m.families := List.mem_cons_of_mem _ List.mem_cons_self
  have name : (failureFamily m).name = failureMetric := rfl
  rw [linesAbout_eq m known name, lines_eq_nil_iff, failureFamily, List.map_eq_nil_iff]

theorem linesAbout_results (m : Meter) :
    m.linesAbout resultMetric = [] ↔ m.successes + m.errors = 0 := by
  have known : resultFamily m ∈ m.families :=
    List.mem_cons_of_mem _ (List.mem_cons_of_mem _ List.mem_cons_self)
  have series : ∀ label n, resultSeries label n = [] ↔ n = 0 := by
    intro label n
    unfold resultSeries
    split <;> simp_all
  have name : (resultFamily m).name = resultMetric := rfl
  rw [linesAbout_eq m known name, lines_eq_nil_iff, resultFamily, List.append_eq_nil_iff, series,
    series]
  omega

theorem Accounts.shows {m : Meter} {passes : List Outing} (h : m.Accounts passes) :
    m.Shows passes where
  durations := by
    rw [linesAbout_durations, h.map_line_series, List.append_assoc]
  failures := (linesAbout_failures m).trans h.failures_eq_nil_iff
  results := by
    rw [linesAbout_results, h.total, h.count, List.length_eq_zero_iff]

end Meter

/-! ## Passes of operators -/

namespace Operator

/-- A pass that an operator makes for an event in a world. -/
structure Round where
  operator : Operator
  event : Cluster.StatefulSet
  world : Pass.World
  delays : Keyed String Nat := ∅

/-- How long a pass takes by the clock. -/
def elapsed (o : Operator) (event : Cluster.StatefulSet) (s : State) : Elapsed :=
  ((Pass.ofEvent o.plan event).run.attempt Pass.Clock.answer (o.clock s)).2.now

namespace Round

/-- What a pass starts from when a meter is known. -/
def start (r : Round) (m : Meter) : State where
  world := r.world
  delays := r.delays
  meter := m

/-- The pass as it is counted. -/
def outing (r : Round) : Meter.Outing where
  result := (r.operator.pass r.event (r.start .empty)).1
  elapsed := r.operator.elapsed r.event (r.start .empty)

/-- What is known after passes that go by one meter. -/
def meterAfter (m : Meter) (rounds : List Round) : Meter :=
  rounds.foldl (fun m r => (r.operator.pass r.event (r.start m)).2.meter) m

/-- Each pass is recorded as it came out. -/
theorem meterAfter_eq (m : Meter) (rounds : List Round) :
    meterAfter m rounds = m.recordAll (rounds.map outing) := by
  rw [Meter.recordAll, List.foldl_map]
  rfl

end Round

open Meter in
/-- After any passes, with whatever results and durations, a meter has counted each of them once.
Successes and errors are counted by the results, and together they are as many as the durations.
The failures under all labels are as many as the errors, and those under the label of a step are the
passes that failed with that step as the outermost one. The durations up to a bound are those of the
passes that took no longer, so they are no fewer for a higher bound. The exposition shows them, with
all passes up to no bound, and it has no line about failures or results if there were none. Whoever
makes passes that go by one meter records them so. -/
theorem passes_accounted (passes : List Outing) (rounds : List Round) :
    let m := Meter.empty.recordAll passes
    (m.successes = passes.countP Outing.succeeded ∧ m.errors = passes.countP Outing.failed ∧
      m.successes + m.errors = m.durations.count) ∧
    (m.failures.values.sum = m.errors ∧
      ∀ step, (m.failures.get? (failureLabel step)).getD 0 = passes.countP (Outing.failedIn step)) ∧
    (m.durations.buckets = bounds.map (fun bound => (bound, passes.countP (·.elapsed ≤ bound))) ∧
      (m.durations.buckets.map Prod.snd).Pairwise (· ≤ ·) ∧
      ∀ n ∈ m.durations.buckets.map Prod.snd, n ≤ m.durations.count) ∧
    m.Shows passes ∧
    Round.meterAfter .empty rounds = Meter.empty.recordAll (rounds.map Round.outing) := by
  intro m
  have h : m.Accounts passes := accounts_recordAll passes
  exact ⟨⟨h.successes, h.errors, h.total⟩, ⟨h.failures, h.steps⟩,
    ⟨h.buckets, h.durations.rising bounds_ascending, h.durations.le_count⟩, h.shows,
    Round.meterAfter_eq .empty rounds⟩

end Operator

end ReplicaPorts
