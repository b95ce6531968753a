import ReplicaPorts.Compute.Path
import ReplicaPorts.Keyed
import ReplicaPorts.Text.Blank
import ReplicaPorts.Text.Quoted

/-!
# The scope of a client

A client works in one project, region, network and subnetwork. A network or subnetwork may be given
by its name, its path or a URL of it; the scope holds the path. Marks for new endpoint groups are
read from a text of `key=value` entries with commas between them.
-/

set_option autoImplicit false

namespace ReplicaPorts.Compute

def defaultEndpoint : String := "https://compute.googleapis.com/compute/v1"

/-- What every call of a client is scoped to. -/
structure Scope where
  place : Location
  network : String
  subnetwork : String
  annotations : Keyed String String := ∅
  endpoint : String := defaultEndpoint
  deriving DecidableEq

namespace Scope

/-- The path of a network given by name, path or URL. -/
def networkPath (project network : String) : String :=
  if Path.occursIn network then Path.relative network else Path.network project network

/-- The path of a subnetwork given by name, path or URL. -/
def subnetworkPath (project region subnetwork : String) : String :=
  if Path.occursIn subnetwork then Path.relative subnetwork
  else Path.subnetwork project region subnetwork

/-- The scope of a project, a region, a network and a subnetwork at the public API. -/
def of (project region network subnetwork : String) : Scope where
  place := ⟨project, region⟩
  network := networkPath project network
  subnetwork := subnetworkPath project region subnetwork

/-- The scope at another endpoint; slashes at its end do not matter. -/
def atEndpoint (s : Scope) (endpoint : Option String) : Scope :=
  match endpoint with
  | some e => { s with endpoint := Text.dropTrailing '/' e }
  | none => s

end Scope

/-! ## Annotations -/

/-- An entry of an annotation text that is not `key=value`. -/
structure BadAnnotation where
  /-- The entry, without blank characters around it. -/
  entry : String
  deriving DecidableEq

def BadAnnotation.message (b : BadAnnotation) : String :=
  s!"invalid annotation {Text.quoted b.entry}, expected key=value"

/-- The key and the value of one entry: what stands before and after its first equals sign. -/
def entryPair? (entry : List Char) : Option (String × String) :=
  match Text.cut? '=' entry with
  | some (key, value) =>
    if Text.trim key = [] then none
    else some (String.ofList (Text.trim key), String.ofList (Text.trim value))
  | none => none

/-- Adds the entries of a text one after the other; blank entries are passed over. -/
def addAnnotations (m : Keyed String String) :
    List (List Char) → Except BadAnnotation (Keyed String String)
  | [] => .ok m
  | entry :: entries =>
    let entry := Text.trim entry
    if entry = [] then addAnnotations m entries
    else
      match entryPair? entry with
      | some (key, value) => addAnnotations (m.insert key value) entries
      | none => .error ⟨String.ofList entry⟩

/-- Reads `key=value` entries with commas between them; of two entries with one key the later
counts. -/
def annotations (raw : String) : Except BadAnnotation (Keyed String String) :=
  addAnnotations ∅ (Text.segments ',' raw.toList)

end ReplicaPorts.Compute
