import ReplicaPorts.Compute.Call
import ReplicaPorts.Pass.Error

/-!
# Passes

A pass is a program that asks the cluster and the Compute API and may end with an error. Besides
plain calls it looks up nodes: a lookup names the nodes of the replicas that come next, which may be
asked for while the answer is awaited; what a lookup gives does not depend on them.
-/

set_option autoImplicit false

namespace ReplicaPorts

namespace Pass

/-- What a pass asks. -/
inductive Ask where
  | cluster (call : Cluster.Call)
  | compute (call : Compute.Call)
  /-- The node of a replica; those of the replicas `ahead` may be asked for in the meantime. -/
  | node (name : String) (ahead : List String)
  deriving DecidableEq

/-- What is answered to an ask. -/
abbrev Ask.Answer : Ask → Type
  | cluster call => call.Answer
  | compute call => call.Answer
  | node name _ => (Cluster.Call.getNode name).Answer

/-- The asks of passes as a signature. -/
abbrev asks : Signature where
  Op := Ask
  Answer := Ask.Answer

end Pass

/-- A pass with a value of a type. -/
abbrev Pass (α : Type) := ExceptT Pass.Error (Program Pass.asks) α

namespace Pass

variable {α : Type}

/-- Makes one call to the cluster. -/
def cluster (c : Cluster.Call) : Pass c.Value :=
  ExceptT.mk do return (← Program.call (S := asks) (.cluster c)).mapError .cluster

/-- Runs a program of calls to the Compute API. -/
def compute (p : Program Compute.calls (Except Compute.Error α)) : Pass α :=
  ExceptT.mk do
    return (← p.interpret fun c => Program.call (S := asks) (.compute c)).mapError .compute

/-- Looks up the node of a replica. -/
def node (name : String) (ahead : List String) : Pass Cluster.Node :=
  ExceptT.mk do return (← Program.call (S := asks) (.node name ahead)).mapError .cluster

/-- Ends with an error unless there is a value. -/
def ofExcept {ε : Type} (error : ε → Error) : Except ε α → Pass α
  | .ok a => pure a
  | .error e => throw (error e)

/-- Names the step in which the errors of a pass come up. -/
def during (s : Step) (p : Pass α) : Pass α := p.adapt (.step s)

end Pass

end ReplicaPorts
