import ReplicaPorts.Json.Decode

/-!
# Members of objects

How the members of an object of the cluster are read. Unlike a record of the Compute API, an object
is read only from the object form, a member that is null counts as missing, and of several members
with one name each has to be well formed and the last counts.
-/

set_option autoImplicit false

namespace ReplicaPorts.Cluster

open Json

/-- The values of all members of an object under a name, in order. -/
def membersNamed (name : String) : Json → List Json
  | .object ms => (ms.filter fun m => m.1 == some name).map (·.2)
  | _ => []

def unlessNull? {α : Type} (value? : Json → Option α) : Json → Option (Option α)
  | .null => some none
  | j => (value? j).map some

def nullable? {α : Type} (name : String) (value? : Json → Option α) (j : Json) :
    Option (Option α) :=
  ((membersNamed name j).mapM (unlessNull? value?)).map (·.getLast?.join)

def object? : Json → Option Json
  | .object ms => (namedMembers? ms).map fun _ => .object ms
  | _ => none

abbrev Labels := Keyed String String

/-- A member for a collection of texts that is present. -/
def labelsMember (name : String) (labels : Option Labels) : List (String × Json) :=
  Member.unlessNone name (Member.ofKeyed .text) labels

def listMember {α : Type} (name : String) (encode : α → Json) (items : Option (List α)) :
    List (String × Json) :=
  Member.unlessNone name (fun xs => .array (xs.map encode)) items

end ReplicaPorts.Cluster
