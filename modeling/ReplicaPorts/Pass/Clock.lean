import ReplicaPorts.Pass.World

/-!
# Passes against a clock

Calls to the cluster may take time, and a pass has until its deadline. A call is listed when it
starts; one that would end after the deadline gets no answer, and the pass ends there.

Lookups of nodes overlap. Those that have started and whose answer was not taken yet are under way;
they started in the order of the replicas, so their times of completion are a queue. An answer that
is there is taken at once; only when a pass has to wait for one do the lookups ahead start.
-/

set_option autoImplicit false

namespace ReplicaPorts.Pass

/-- A world with a clock, all times in milliseconds since the start of the pass. -/
structure Clock where
  world : World
  /-- How long calls to the cluster take, by one of their names. -/
  delays : Keyed String Nat := ∅
  deadline : Nat
  now : Nat := 0
  /-- When the lookups under way are completed, the first replica first. -/
  underWay : List Nat := []

namespace Clock

/-- How long a call to the cluster takes; its most exact name counts. -/
def delayOf (t : Clock) (c : Cluster.Call) : Nat := (c.selectors.findSome? t.delays.get?).getD 0

/-- Lists a call to the cluster. -/
def note (t : Clock) (c : Cluster.Call) : Clock :=
  { t with world := { t.world with cluster := t.world.cluster.note c } }

/-- Waits until a time, unless the deadline comes first, and then carries a listed call out. -/
def settleAt (time : Nat) (c : Cluster.Call) (t : Clock) : Option c.Answer × Clock :=
  if t.deadline < time then (none, { t with now := t.deadline })
  else
    let (answer, cluster) := t.world.cluster.settle c
    (some answer, { t with now := time, world := { t.world with cluster } })

/-- Starts the lookup of a node. -/
def start (t : Clock) (name : String) : Clock :=
  let t := t.note (.getNode name)
  { t with underWay := t.underWay ++ [t.now + t.delayOf (.getNode name)] }

/-- Starts the lookup of a node unless it is under way, and tells when it will be completed. -/
def completion (t : Clock) (name : String) : Nat × Clock :=
  match t.underWay with
  | time :: _ => (time, t)
  | [] => (t.now + t.delayOf (.getNode name), t.start name)

/-- Takes the answer to the first lookup; while it is awaited, the lookups ahead start. -/
def lookup (t : Clock) (name : String) (ahead : List String) :
    Option (Cluster.Call.getNode name).Answer × Clock :=
  let (time, t) := t.completion name
  if time ≤ t.now then
    settleAt t.now (.getNode name) { t with underWay := t.underWay.tail }
  else
    let t := (ahead.drop t.underWay.tail.length).foldl start t
    settleAt time (.getNode name) { t with underWay := t.underWay.tail }

/-- Answers an ask of a pass, unless the deadline comes first. -/
def answer : (a : Ask) → Clock → Option a.Answer × Clock
  | .cluster c, t =>
    let t := t.note c
    t.settleAt (t.now + t.delayOf c) c
  | .compute c, t =>
    let (answer, world) := t.world.answerCompute c
    (some answer, { t with world })
  | .node name ahead, t => t.lookup name ahead

end Clock

end ReplicaPorts.Pass
