import ReplicaPorts.Compute.Call
import ReplicaPorts.Compute.Firewall

/-!
# Bringing one resource about

`provide` gets a resource and creates it if it is missing or repairs it if it is stale; whoever else
created it in the meantime did the same work, so that is no error. `retire` deletes a resource and
takes a missing one for deleted.
-/

set_option autoImplicit false

namespace ReplicaPorts.Compute

/-- What had to be done for a resource. -/
inductive Outcome where
  | unchanged
  | created
  | updated
  deriving DecidableEq, Repr

/-- Whether an existing resource is out of line with a design. Only the ports of a firewall are
looked at. -/
def Design.isStale : (design : Design) → design.kind.Model → Bool
  | .firewall ports, f => Firewall.isStale f ports
  | _, _ => false

/-- Brings an existing resource in line with a design. -/
def Design.repair (name : String) : Design → Program calls (Except Error Unit)
  | .firewall ports => request (.updateFirewall name ports)
  | _ => .done (.ok ())

/-- Gets a resource; creates it when it is missing, repairs it when it is stale. -/
def provide (name : String) (design : Design) : Program calls (Except Error Outcome) := do
  match ← request (.get design.kind name) with
  | .ok found =>
    if design.isStale found then
      match ← design.repair name with
      | .ok () => return .ok .updated
      | .error e => return .error e
    else return .ok .unchanged
  | .error e =>
    if e.isNotFound then
      match ← request (.create name design) with
      | .ok () => return .ok .created
      | .error e => if e.isAlreadyExists then return .ok .unchanged else return .error e
    else return .error e

/-- Deletes a resource and tells whether there was one. -/
def retire (kind : Kind) (name : String) : Program calls (Except Error Bool) := do
  match ← request (.delete kind name) with
  | .ok () => return .ok true
  | .error e => if e.isNotFound then return .ok false else return .error e

/-- How many outcomes are creations and how many are repairs. -/
def Outcome.changes (outcomes : List Outcome) : Nat × Nat :=
  (outcomes.count .created, outcomes.count .updated)

end ReplicaPorts.Compute
