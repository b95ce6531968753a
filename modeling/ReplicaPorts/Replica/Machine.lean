import ReplicaPorts.Compute.Path

/-!
# Machines of nodes

A node names its machine by a provider ID `scheme://project/zone/name`; the Compute API knows the
machine by the path of these three parts.
-/

set_option autoImplicit false

namespace ReplicaPorts.Replica

/-- The characters of a scheme after the first. -/
def inScheme (c : Char) : Bool := c.isLower || c.isDigit || c == '+' || c == '.' || c == '-'

/-- What follows the scheme and `://`, if a text starts with them. -/
def afterScheme? (cs : List Char) : Option (List Char) :=
  match cs with
  | [] => none
  | c :: _ =>
    if c.isLower then Text.after? [':', '/', '/'] (cs.dropWhile inScheme) else none

/-- The path of the machine that a provider ID names. -/
def machinePath? (providerId : String) : Option String :=
  match (afterScheme? providerId.toList).map (Text.segments '/') with
  | some [project, zone, name] =>
    if project = [] ∨ zone = [] ∨ name = [] then none
    else some (Compute.Path.machine (.ofList project) (.ofList zone) (.ofList name))
  | _ => none

end ReplicaPorts.Replica
