import ReplicaPorts.Compute.Scope
import ReplicaPorts.Text.Address
import ReplicaPorts.Text.Decimal

/-!
# Settings

The program is set up by variables of its environment. A variable that is missing or blank has its
default, or is asked for if it has none. Variables are looked at in a fixed order, and the first one
that is not accepted is the one that is reported. Blank characters around numbers and the address do
not matter; all other values are taken as they are.
-/

set_option autoImplicit false

namespace ReplicaPorts

abbrev Environment := String → Option String

/-- What the program is set up with. -/
structure Settings where
  scope : Compute.Scope
  /-- A fixed token for the Compute API; without one the metadata server is asked. -/
  token : Option String
  /-- The namespace to be watched; without one all are. -/
  space : Option String
  requeueSeconds : Nat
  timeoutSeconds : Nat
  lookups : Nat
  probeAddress : Text.SocketAddress

namespace Settings

/-- Why the variables are not accepted. -/
inductive Error where
  | missing (key : String)
  | badMarks (fault : Compute.BadAnnotation)
  | badNumber (key raw : String) (fault : Text.NumberFault)
  | noLookups
  | badAddress (key raw : String)
  deriving DecidableEq

def Error.detail : Error → String
  | missing key => s!"{key} environment variable is required"
  | badMarks fault => s!"GCP_ANNOTATIONS: {fault.message}"
  | badNumber key raw fault => s!"{key}={Text.quoted raw}: {fault.message}"
  | noLookups => "NODE_LOOKUP_CONCURRENCY must be at least 1"
  | badAddress key raw => s!"{key}={Text.quoted raw}: invalid socket address syntax"

def Error.message (e : Error) : String := s!"Invalid configuration: {e.detail}"

/-- The value of a variable that is not blank. -/
def given? (env : Environment) (key : String) : Option String :=
  (env key).filter fun v => !Text.allBlank v

/-- The value of a variable that is asked for. -/
def required (env : Environment) (key : String) : Except Error String :=
  match given? env key with
  | some v => .ok v
  | none => .error (.missing key)

/-- The number of 64 bits that a variable holds, or its default. -/
def number (env : Environment) (key : String) (default : Nat) : Except Error Nat :=
  match given? env key with
  | none => .ok default
  | some raw =>
    (Text.readBounded Text.maxWord64 (Text.trim raw.toList)).mapError (.badNumber key raw)

/-- The address that a variable holds, or its default. -/
def address (env : Environment) (key : String) (default : Text.SocketAddress) :
    Except Error Text.SocketAddress :=
  match given? env key with
  | none => .ok default
  | some raw =>
    match Text.SocketAddress.ofText? (Text.trimmed raw) with
    | some a => .ok a
    | none => .error (.badAddress key raw)

def marks (env : Environment) : Except Error (Keyed String String) :=
  match given? env "GCP_ANNOTATIONS" with
  | none => .ok ∅
  | some raw => (Compute.annotations raw).mapError .badMarks

/-- Every address of the machine, at port 8080. -/
def defaultAddress : Text.SocketAddress := .v4 [0, 0, 0, 0] 8080

/-- How many lookups may be under way; there has to be one. -/
def lookupCount (env : Environment) : Except Error Nat := do
  let n ← number env "NODE_LOOKUP_CONCURRENCY" 8
  if n = 0 then throw .noLookups
  return n

def scopeOf (env : Environment) : Except Error Compute.Scope := do
  let project ← required env "GCP_PROJECT"
  let region ← required env "GCP_REGION"
  let network ← required env "GCP_NETWORK"
  let subnetwork ← required env "GCP_SUBNET"
  let scope := Compute.Scope.of project region network subnetwork
  let annotations ← marks env
  return { scope.atEndpoint (given? env "GCP_API_ENDPOINT") with annotations }

/-- The settings that the variables describe. -/
def ofEnvironment (env : Environment) : Except Error Settings := do
  let scope ← scopeOf env
  let requeueSeconds ← number env "REQUEUE_DELAY_SECS" 60
  let timeoutSeconds ← number env "RECONCILE_TIMEOUT_SECS" 300
  let lookups ← lookupCount env
  let probeAddress ← address env "HEALTH_ADDR" defaultAddress
  return {
    scope, requeueSeconds, timeoutSeconds, lookups, probeAddress
    token := given? env "GCP_ACCESS_TOKEN"
    space := given? env "WATCH_NAMESPACE" }

end Settings

end ReplicaPorts
