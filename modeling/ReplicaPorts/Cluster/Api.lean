import ReplicaPorts.Cluster.Reply
import ReplicaPorts.Http.Form

/-!
# The cluster over HTTP

Every call is one request, except that the finalizers of a workload are read before they are
written, and written only if they change. A refusal carries the code and the reason that the server
gives; reading an object that does not exist gives none, and deleting one is no error.
-/

set_option autoImplicit false

namespace ReplicaPorts.Cluster

open Http (Method Url)

/-- The work of a client: it exchanges requests for responses and may fail. -/
abbrev Api (α : Type) := ExceptT Error (Program Http.exchanges) α

namespace Api

variable {α : Type}

/-! ## Where objects are -/

def statefulSetPath (key : ObjectKey) : String :=
  s!"/apis/apps/v1/namespaces/{key.space}/statefulsets/{key.name}"

def servicesPath (space : String) : String := s!"/api/v1/namespaces/{space}/services"

def servicePath (key : ObjectKey) : String := s!"{servicesPath key.space}/{key.name}"

/-- The path of the pods that labels select in a namespace. -/
def podsPath (space : String) (labels : Labels) : String :=
  let query := Http.Form.encode [("labelSelector", selectorText labels)]
  s!"/api/v1/namespaces/{space}/pods?&{query}"

def nodePath (name : String) : String := s!"/api/v1/nodes/{name}"

/-! ## Requests -/

def contentType? : Method → Option String
  | .get => none
  | .patch => some "application/merge-patch+json"
  | _ => some "application/json"

/-- The target of a request for a path; one that writes has a query, even if it is empty. -/
def target (method : Method) (path : String) : String :=
  if method = .get then path else path ++ "?"

/-- Sends one request and reads the response. -/
def send (method : Method) (path : String) (body : Option Json) (read? : Json → Option α) :
    Api α := do
  match Url.ofTarget? (target method path) with
  | none => throw .unreadable
  | some url =>
    let headers := (contentType? method).toList.map fun type => ("content-type", type)
    let request : Http.Request := { method, url, headers, body }
    let response ← ExceptT.lift (Program.call (S := Http.exchanges) request)
    match Reply.ofResponse read? response with
    | .ok a => return a
    | .error e => throw e

/-- Goes on only with the name of an object that is not empty. -/
def named (name : String) (p : Api α) : Api α :=
  if name = "" then throw .unreadable else p

/-- Whether a refusal says that the object does not exist. -/
def isAbsence : Error → Bool
  | .refused _ reason => reason == "NotFound"
  | _ => false

/-- Takes an object that does not exist for none. -/
def optional (p : Api α) : Api (Option α) :=
  tryCatch (some <$> p) fun e => if isAbsence e then pure none else throw e

/-- Takes a deletion of what does not exist for done. -/
def unlessGone (p : Api Unit) : Api Unit :=
  tryCatch p fun e =>
    match e with
    | .refused 404 _ => pure ()
    | e => throw e

/-! ## Finalizers -/

def readStatefulSet (key : ObjectKey) : Api StatefulSet :=
  named key.name (send .get (statefulSetPath key) none Reply.statefulSet?)

/-- The patch that puts a list of finalizers in the place of another. -/
def finalizerPatch (finalizers : List String) : Json :=
  .named [("metadata", .named [("finalizers", .texts finalizers)])]

def writeFinalizers (key : ObjectKey) (finalizers : List String) : Api Unit := do
  let _ ← named key.name
    (send .patch (statefulSetPath key) (some (finalizerPatch finalizers)) Reply.statefulSet?)

/-- Puts a finalizer on a workload unless it is there. -/
def addFinalizer (key : ObjectKey) (finalizer : String) : Api Unit := do
  let found := (← readStatefulSet key).metadata.finalizers.getD []
  if finalizer ∈ found then return ()
  else writeFinalizers key (found ++ [finalizer])

/-- Takes a finalizer off a workload if it is there. -/
def removeFinalizer (key : ObjectKey) (finalizer : String) : Api Unit := do
  let found := (← readStatefulSet key).metadata.finalizers.getD []
  if finalizer ∈ found then writeFinalizers key (found.filter (· ≠ finalizer))
  else return ()

/-! ## Calls -/

def updateService (space : String) (s : Service) : Api Unit := do
  match s.metadata.name with
  | none => throw .unnamedService
  | some name =>
    let _ ← named name (send .put (servicePath ⟨space, name⟩) (some s.toJson) Reply.service?)

def perform : (call : Call) → Api call.Value
  | .getStatefulSet key => optional (readStatefulSet key)
  | .listPods space labels => send .get (podsPath space labels) none Reply.pods?
  | .getNode name => named name (send .get (nodePath name) none Reply.node?)
  | .getService key => optional (named key.name (send .get (servicePath key) none Reply.service?))
  | .createService space s => do
    let _ ← send .post (servicesPath space) (some s.toJson) Reply.service?
  | .updateService space s => updateService space s
  | .deleteService key =>
    unlessGone (named key.name (send .delete (servicePath key) (some (.named [])) Reply.deleted?))
  | .addFinalizer key finalizer => addFinalizer key finalizer
  | .removeFinalizer key finalizer => removeFinalizer key finalizer

end Api

end ReplicaPorts.Cluster
