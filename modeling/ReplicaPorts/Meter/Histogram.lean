/-!
# Histograms of durations

Durations are counted in cells, each of which holds the durations above the bound before it and up
to its own; `Histogram.buckets` counts for each bound all durations up to it. Durations and bounds
are whole nanoseconds, so comparing them is exact; only the sum is rounded.
-/

set_option autoImplicit false

namespace ReplicaPorts

/-- How long something took. Where a duration is asked for, a number stands for so many
milliseconds. -/
structure Elapsed where
  nanos : Nat
  deriving DecidableEq

namespace Elapsed

def ofMillis (ms : Nat) : Elapsed := ⟨ms * 1000000⟩

instance : Coe Nat Elapsed := ⟨ofMillis⟩

instance (ms : Nat) : OfNat Elapsed ms := ⟨ofMillis ms⟩

instance : LE Elapsed := ⟨fun s t => s.nanos ≤ t.nanos⟩

instance (s t : Elapsed) : Decidable (s ≤ t) := inferInstanceAs (Decidable (s.nanos ≤ t.nanos))

def seconds (t : Elapsed) : Float :=
  Float.ofNat (t.nanos / 1000000000) + Float.ofNat (t.nanos % 1000000000) / 1000000000

end Elapsed

/-- Durations counted by cells. -/
structure Histogram where
  /-- The upper bounds of the cells, ascending, with the number of durations in each. -/
  cells : List (Elapsed × Nat)
  count : Nat := 0
  sum : Float := 0

namespace Histogram

/-- No durations, with some bounds. -/
def empty (bounds : List Elapsed) : Histogram where
  cells := bounds.map (·, 0)

/-- Counts a duration in the first cell that reaches it. -/
def countIn (t : Elapsed) : List (Elapsed × Nat) → List (Elapsed × Nat)
  | [] => []
  | (bound, n) :: cells =>
    if t ≤ bound then (bound, n + 1) :: cells else (bound, n) :: countIn t cells

def observe (h : Histogram) (t : Elapsed) : Histogram where
  cells := countIn t h.cells
  count := h.count + 1
  sum := h.sum + t.seconds

/-- The bounds with the number of durations up to each, given the number in the cells before. -/
def cumulative (before : Nat) : List (Elapsed × Nat) → List (Elapsed × Nat)
  | [] => []
  | (bound, n) :: cells => (bound, before + n) :: cumulative (before + n) cells

/-- The bounds with the number of durations up to each. -/
def buckets (h : Histogram) : List (Elapsed × Nat) := cumulative 0 h.cells

end Histogram

end ReplicaPorts
