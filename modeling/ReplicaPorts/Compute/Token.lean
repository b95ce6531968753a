import ReplicaPorts.Compute.Error
import ReplicaPorts.Http.Status
import ReplicaPorts.Http.Wire
import ReplicaPorts.Json.Decode

/-!
# Access tokens

Calls to the Compute API carry a token. It is fixed, or it comes from the metadata server of the
machine and is kept until shortly before it expires. A request for a token that fails leaves what is
kept as it was.

Times are counted in nanoseconds and have no bounds; for how long a token counts is a number of
seconds in 64 bits.
-/

set_option autoImplicit false

namespace ReplicaPorts.Compute

open Http (Wire)

/-- A token that is kept. -/
structure KeptToken where
  value : String
  /-- The time from which on it does not count any more. -/
  expiry : Int
  deriving DecidableEq, Repr

/-- Where tokens come from. -/
inductive TokenSupply where
  | fixed (token : String)
  /-- The metadata server, and the token that it gave last. -/
  | metadata (kept : Option KeptToken)
  deriving DecidableEq, Repr

/-- A token as the metadata server gives it. -/
structure FetchedToken where
  value : String
  expiresIn : Int64
  deriving DecidableEq

def FetchedToken.ofJson? (j : Json) : Option FetchedToken := do
  let r ← j.fields? ["access_token", "expires_in"]
  return {
    value := ← r.required? "access_token" Json.text?
    expiresIn := ← r.required? "expires_in" Json.int64? }

namespace TokenSupply

/-- How many nanoseconds a second has. -/
def second : Int := 1000000000

/-- How many seconds before it expires a token is given up. -/
def slack : Int64 := 60

/-- For how many seconds a token is kept. -/
def lifetime (t : FetchedToken) : Int64 := max (t.expiresIn - slack) 0

def tokenRequest : Http.Request where
  method := .get
  url := {
    origin := "http://metadata.google.internal"
    path := "/computeMetadata/v1/instance/service-accounts/default/token"
    query := none }
  headers := [("metadata-flavor", "Google")]

/-- What an answer of the metadata server means. -/
def readToken : Option Http.Response → Except Error FetchedToken
  | none => .error .transport
  | some r =>
    if r.isSuccess then
      match Json.ofText? r.body >>= FetchedToken.ofJson? with
      | some t => .ok t
      | none => .error .transport
    else .error (.authentication s!"metadata server returned {Http.Status.text r.status}: {r.body}")

/-- Asks the metadata server for a token and keeps it. -/
def refresh (kept : Option KeptToken) : Program Wire.asks (Except Error String × TokenSupply) := do
  match readToken (← Wire.exchange tokenRequest) with
  | .error e => return (.error e, metadata kept)
  | .ok t =>
    let now ← Wire.time
    return (.ok t.value, metadata (some ⟨t.value, now + (lifetime t).toInt * second⟩))

/-- A token, with the source that the next one comes from. -/
def token : TokenSupply → Program Wire.asks (Except Error String × TokenSupply)
  | fixed token => return (.ok token, fixed token)
  | metadata none => refresh none
  | metadata (some kept) => do
    if (← Wire.time) < kept.expiry then return (.ok kept.value, metadata (some kept))
    else refresh (some kept)

end TokenSupply

end ReplicaPorts.Compute
