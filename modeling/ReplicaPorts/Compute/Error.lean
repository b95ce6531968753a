/-!
# Errors of the Compute API

Why a call to the Compute API did not succeed, whoever answered it.
-/

set_option autoImplicit false

namespace ReplicaPorts.Compute

/-- Why a call failed. -/
inductive Error where
  /-- No answer came: the peer could not be reached, or the URL is none. -/
  | transport
  | malformed
  | api (status : Nat) (message : String)
  | authentication (message : String)
  | notFound (message : String)
  | alreadyExists (message : String)
  /-- A long-running operation ended with an error, or did not end. -/
  | operation (name message : String)
  deriving DecidableEq, Repr

namespace Error

/-- Whether the error says that the resource does not exist. -/
def isNotFound : Error → Bool
  | notFound _ => true
  | _ => false

/-- Whether the error says that the resource exists. -/
def isAlreadyExists : Error → Bool
  | alreadyExists _ => true
  | _ => false

/-- The error in words; the words of the first two depend on what failed below them. -/
def message? : Error → Option String
  | transport => none
  | malformed => none
  | api status message => some s!"Compute API error (status {status}): {message}"
  | authentication message => some s!"Authentication failed: {message}"
  | notFound message => some s!"Not found: {message}"
  | alreadyExists message => some s!"Already exists: {message}"
  | operation name message => some s!"Operation {name} failed: {message}"

end Error

end ReplicaPorts.Compute
