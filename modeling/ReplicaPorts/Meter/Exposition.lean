import ReplicaPorts.Meter.Basic
import ReplicaPorts.Text.Shortest

/-!
# Metrics in words

The text form of the metrics: families in the order of their names, each with two lines about it and
a line for each of its series. Durations and sums are in seconds, with the fewest digits.
-/

set_option autoImplicit false

namespace ReplicaPorts.Meter

/-- The name of a metric within this program. -/
def nameOf (metric : String) : String := "psc_portmapper_" ++ metric

/-- One series of a family. -/
structure Series where
  suffix : String := ""
  /-- The label of the series, if it has one. -/
  label : Option (String × String) := none
  value : String

def Series.line (family : String) (s : Series) : String :=
  let label := s.label.elim "" fun (name, value) => "\x7b" ++ name ++ "=\"" ++ value ++ "\"\x7d"
  s!"{nameOf family}{s.suffix}{label} {s.value}"

/-- Metrics of one name. -/
structure Family where
  name : String
  help : String
  type : String
  series : List Series

/-- The lines of a family; a family without series has none. -/
def Family.lines (f : Family) : List String :=
  if f.series.isEmpty then []
  else
    s!"# HELP {nameOf f.name} {f.help}" :: s!"# TYPE {nameOf f.name} {f.type}" ::
      f.series.map (·.line f.name)

def durationFamily (h : Histogram) : Family where
  name := "reconcile_duration_seconds"
  help := "Duration of reconciliation passes"
  type := "histogram"
  series :=
    h.buckets.map (fun (bound, n) =>
      { suffix := "_bucket", label := some ("le", Text.plainFloat bound.seconds),
        value := toString n })
    ++ [{ suffix := "_bucket", label := some ("le", "+Inf"), value := toString h.count },
        { suffix := "_sum", value := Text.plainFloat h.sum },
        { suffix := "_count", value := toString h.count }]

def failureFamily (m : Meter) : Family where
  name := "reconcile_failures_total"
  help := "Failed reconciliation passes by step"
  type := "counter"
  series := m.failures.toList.map fun (label, n) =>
    { label := some ("step", label), value := toString n }

/-- The series of one result; a result that never came has none. -/
def resultSeries (label : String) (n : Nat) : List Series :=
  if n = 0 then [] else [{ label := some ("result", label), value := toString n }]

def resultFamily (m : Meter) : Family where
  name := "reconciliations_total"
  help := "Reconciliation passes by result"
  type := "counter"
  series := resultSeries "error" m.errors ++ resultSeries "success" m.successes

/-- All families in the order of their names. -/
def families (m : Meter) : List Family :=
  [durationFamily m.durations, failureFamily m, resultFamily m]

def lines (m : Meter) : List String := m.families.flatMap Family.lines

def text (m : Meter) : String := String.join (m.lines.map (· ++ "\n"))

/-- The lines that count something and do not depend on how long passes took. -/
def counters (m : Meter) : List String :=
  m.families.flatMap fun f =>
    (f.series.filter fun s => s.suffix ≠ "_bucket" ∧ s.suffix ≠ "_sum").map (·.line f.name)

end ReplicaPorts.Meter
