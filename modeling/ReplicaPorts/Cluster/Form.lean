import ReplicaPorts.Cluster.Member
import ReplicaPorts.Cluster.Timestamp

/-!
# Forms

Much of what an object says is of no use to the program, but an object is refused as a whole if a
member that is known is out of form. `Form` says what a value has to look like where nothing else of
it matters. Like the members that are read, a member of a form may be missing or null, and members
that no form knows do not matter.
-/

set_option autoImplicit false

namespace ReplicaPorts.Cluster

open Json

abbrev Form := Json → Bool

namespace Form

def readAs {α : Type} (read? : Json → Option α) : Form := fun j => (read? j).isSome

def text : Form := readAs text?

def bool : Form := readAs bool?

def int32 : Form := readAs int32?

def int64 : Form := readAs int64?

def timestamp : Form := readAs Timestamp.ofJson?

/-- A signed integer of 32 bits, or a text. -/
def int32OrText : Form := fun j => int32 j || text j

/-- The value, if it has the form. -/
def check? (form : Form) (j : Json) : Option Json := if form j then some j else none

def list (item : Form) : Form := readAs (list? (check? item))

def keyed (value : Form) : Form := readAs (keyed? (check? value))

/-- An object whose known members have a form each. -/
def record (members : List (String × Form)) : Form := fun j =>
  (object? j).isSome && members.all fun m => (nullable? m.1 (check? m.2) j).isSome

def each (form : Form) (names : List String) : List (String × Form) :=
  names.map fun name => (name, form)

def texts (names : List String) : List (String × Form) := each text names

/-- A condition of an object, with the times that it tells. -/
def condition (times : List String) : Form :=
  record (each timestamp times ++ texts ["message", "reason", "status", "type"])

end Form

end ReplicaPorts.Cluster
