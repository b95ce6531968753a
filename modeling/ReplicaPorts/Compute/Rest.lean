import ReplicaPorts.Compute.Body
import ReplicaPorts.Compute.Operation
import ReplicaPorts.Compute.Token

/-!
# The Compute API over HTTP

Every call is one request or more, each with a token. A call that changes something carries a fresh
identifier, is answered with an operation, and is over only when the operation is done: it is waited
for, up to `maxWaits` times. Endpoints are listed page by page. The first answer that is no success
or cannot be read ends a call.
-/

set_option autoImplicit false

namespace ReplicaPorts.Compute

open Http (Wire Method)

/-- What a client needs to know. -/
structure Client where
  scope : Scope
  /-- How many pages of endpoints it reads before it gives a listing up. -/
  maxPages : Nat := 10000

/-- The work of a client: it asks the world, keeps tokens and may fail. -/
abbrev Rest (α : Type) := ExceptT Error (StateT TokenSupply (Program Wire.asks)) α

namespace Rest

variable {α : Type}

/-! ## Requests -/

def ask (p : Program Wire.asks α) : Rest α := ExceptT.lift (StateT.lift p)

/-- The URL below which resources are found: slashes at the end do not matter. -/
def baseOf (endpoint : String) : String := Text.dropTrailing '/' endpoint

/-- The URL of a path below a base; a path that is a URL itself stays as it is. -/
def urlOf (base path : String) : String :=
  if (Text.after? "http".toList path.toList).isSome then path
  else base ++ "/" ++ Text.dropLeading '/' path

def token : Rest String :=
  ExceptT.mk fun source => source.token

/-- A request to a path, with a token. -/
def requestTo? (base path token : String) (method : Method) (body : Option Json) :
    Option Http.Request := do
  guard (Http.isHeaderValue token)
  return {
    method, body
    url := ← Http.Url.ofText? (urlOf base path)
    headers := [("authorization", s!"Bearer {token}"), ("accept", "application/json")] }

def readAnswer (path : String) (read? : Json → Option α) : Option Http.Response → Except Error α
  | none => .error .transport
  | some r =>
    if r.isSuccess then
      match Json.ofText? r.body >>= read? with
      | some a => .ok a
      | none => .error .malformed
    else .error (Error.ofStatus path r.status r.body)

def send (c : Client) (method : Method) (path : String) (body : Option Json)
    (read? : Json → Option α) : Rest α := do
  match requestTo? (baseOf c.scope.endpoint) path (← token) method body with
  | none => throw .transport
  | some request =>
    match readAnswer path read? (← ask (Wire.exchange request)) with
    | .ok a => return a
    | .error e => throw e

/-! ## Operations -/

def maxWaits : Nat := 30

/-- Waits for an operation until it is done, at most so many times. -/
def awaitDone (c : Client) : Nat → Operation → Rest Unit
  | waits, o =>
    if o.isDone then
      match o.result with
      | .ok () => return ()
      | .error e => throw e
    else
      match waits with
      | 0 => throw (.operation o.name "gave up waiting for completion")
      | waits + 1 =>
        match o.selfLink with
        | none => throw (.operation o.name "operation has no selfLink")
        | some link => do
          awaitDone c waits
            (← send c .post s!"{link}/wait" (some Body.empty) Operation.ofJson?)

/-- A path with an identifier of the request. -/
def withId (path id : String) : String := s!"{path}?requestId={id}"

/-- Sends a request that changes something and waits until it is carried out. -/
def mutate (c : Client) (method : Method) (path : String) (body : Option Json) : Rest Unit := do
  let id ← ask Wire.identifier
  awaitDone c maxWaits (← send c method (withId path id) body Operation.ofJson?)

/-! ## Listing endpoints -/

/-- The mapping that a listed endpoint is, if it is one. -/
def mappingOf? (e : NetworkEndpoint) : Option PortMapping := do
  return {
    port := ← e.clientDestinationPort
    instancePath := Path.relative (← e.instancePath)
    instancePort := ← e.port }

/-- The path of a page: the first one has no mark. -/
def pagePath (base : String) : Option String → String
  | none => base
  | some mark => s!"{base}?pageToken={Text.Percent.encodeStrict mark}"

/-- Reads the pages from a mark on, at most so many. -/
def readPages (c : Client) (base : String) : Nat → Option String → Rest (List PortMapping)
  | 0, _ => throw .transport
  | pages + 1, mark => do
    let page ← send c .post (pagePath base mark) (some Body.empty) EndpointPage.ofJson?
    let mappings := page.items.filterMap mappingOf?
    match page.nextPageToken.filter (· ≠ "") with
    | none => return mappings
    | some mark => return mappings ++ (← readPages c base pages (some mark))

/-! ## Calls -/

/-- The path of something that can be done with a group. -/
def verbPath (s : Scope) (group verb : String) : String :=
  s!"{Path.resource s.place .group group}/{verb}"

def perform (c : Client) : (call : Call) → Rest call.Value
  | .get kind name => send c .get (Path.resource c.scope.place kind name) none kind.ofJson?
  | .create name design =>
    mutate c .post (Path.collection c.scope.place design.kind)
      (some (Body.creation c.scope name design))
  | .updateFirewall name ports =>
    mutate c .patch (Path.resource c.scope.place .firewall name) (some (Body.portsUpdate ports))
  | .delete kind name => mutate c .delete (Path.resource c.scope.place kind name) none
  | .listEndpoints group =>
    readPages c (verbPath c.scope group "listNetworkEndpoints") c.maxPages none
  | .attachEndpoints group mappings =>
    mutate c .post (verbPath c.scope group "attachNetworkEndpoints")
      (some (Body.endpoints mappings))
  | .detachEndpoints group mappings =>
    mutate c .post (verbPath c.scope group "detachNetworkEndpoints")
      (some (Body.endpoints mappings))

/-- Carries out a program of calls; the errors of calls are answers to the program. -/
def carryOut (c : Client) (p : Program Compute.calls α) :
    StateT TokenSupply (Program Wire.asks) α :=
  p.interpret (m := StateT TokenSupply (Program Wire.asks)) fun call => (perform c call).run

end Rest

end ReplicaPorts.Compute
