import ReplicaPorts.Http.Url
import ReplicaPorts.Json.Value
import ReplicaPorts.Program

/-!
# Exchanges over HTTP

A client sends requests, each with a JSON body or without a body, and gets responses with a text. A
peer that cannot be reached gives none. A `Script` is a peer that answers from a list and lists the
requests that it got.
-/

set_option autoImplicit false

namespace ReplicaPorts.Http

/-- What a request is to do. -/
inductive Method where
  | get
  | post
  | put
  | patch
  | delete
  deriving DecidableEq, Repr

def Method.text : Method → String
  | get => "GET"
  | post => "POST"
  | put => "PUT"
  | patch => "PATCH"
  | delete => "DELETE"

/-- A request. -/
structure Request where
  method : Method
  url : Url
  /-- What is said about it, by name in lower case. -/
  headers : List (String × String) := []
  body : Option Json := none

def Request.header? (r : Request) (name : String) : Option String := r.headers.lookup name

/-- Whether a text may be the value of a header. -/
def isHeaderValue (s : String) : Bool :=
  s.toList.all fun c => c == '\t' || (0x20 ≤ c.toNat && c.toNat ≠ 0x7f)

/-- A response. -/
structure Response where
  status : Nat
  body : String
  deriving DecidableEq, Repr

namespace Response

/-- Whether the status says that the request was carried out. -/
def isSuccess (r : Response) : Bool := 200 ≤ r.status && r.status < 300

/-- Whether the status says that the request or the peer is at fault. -/
def isFailure (r : Response) : Bool := 400 ≤ r.status && r.status < 600

end Response

/-- Requests with the responses to them as a signature. -/
abbrev exchanges : Signature where
  Op := Request
  Answer := fun _ => Option Response

/-- A peer that answers from a list. -/
structure Script where
  responses : List Response
  requests : List Request := []

namespace Script

/-- What is answered when no response is left. -/
def exhausted : Response := ⟨500, ""⟩

/-- Lists a request and answers it with the next response. -/
def answer : Handler exchanges Script := fun r s =>
  (some (s.responses.head?.getD exhausted),
    { responses := s.responses.tail, requests := s.requests ++ [r] })

end Script

end ReplicaPorts.Http
