import ReplicaPorts.Cluster.Call
import ReplicaPorts.Http.Exchange
import ReplicaPorts.Json.Bounds

/-!
# What the server says

How the body of a response is read: an object of one kind, a list of pods, the answer to a deletion,
or why a call was refused. Most bodies are read straight from their text, where members that do not
matter are skipped. Two are kept as values first, at least in part, so that what does not matter has
to stay within bounds (`Json.fits`): an answer to a deletion, which may be of two kinds, and the
members of a list beside its items.
-/

set_option autoImplicit false

namespace ReplicaPorts.Cluster.Reply

open Json

variable {α : Type}

/-! ## Objects -/

/-- Reads an object that is of a kind, if it says of which kind it is. -/
def ofKind? (apiVersion kind : String) (read? : Json → Option α) (j : Json) : Option α := do
  guard ((membersNamed "apiVersion" j).all (·.text? == some apiVersion))
  guard ((membersNamed "kind" j).all (·.text? == some kind))
  read? j

def statefulSet? : Json → Option StatefulSet := ofKind? "apps/v1" "StatefulSet" StatefulSet.ofJson?

def service? : Json → Option Service := ofKind? "v1" "Service" Service.ofJson?

def node? : Json → Option Node := ofKind? "v1" "Node" Node.ofJson?

def pod? : Json → Option Pod := ofKind? "v1" "Pod" Pod.ofJson?

/-! ## Lists -/

def listMetadata : Form :=
  Form.record <|
    Form.texts ["continue", "resourceVersion", "selfLink"] ++
    [("remainingItemCount", Form.int64)]

def listFields : List String := ["metadata", "items"]

/-- Whether the members of a list that are not read can be kept. -/
def othersFit : Json → Bool
  | .object ms => membersFit (maxDepth - 1) (ms.filter fun m => m.1.all (!listFields.contains ·))
  | _ => true

/-- Reads a list of pods; no items may be written as null, but not left out. -/
def pods? (j : Json) : Option (List Pod) := do
  let r ← (← object? j).fields? listFields
  guard (othersFit j)
  guard ((r.get? "metadata").all listMetadata)
  return (← r.required? "items" (unlessNull? (list? pod?))).getD []

/-! ## Deletions -/

/-- Reads how a deletion went: one of two words, or an object with that word and null. -/
def summary? (j : Json) : Option Unit :=
  match j with
  | .object [(some word, .null)] => guard (words.contains word)
  | j => j.text?.bind fun word => guard (words.contains word)
where
  words : List String := ["Success", "Failure"]

def cause? (j : Json) : Option Unit := do
  let r ← j.fields? ["reason", "message", "field"]
  let _ ← r.withDefault? "reason" text? ""
  let _ ← r.withDefault? "message" text? ""
  let _ ← r.withDefault? "field" text? ""

def details? (j : Json) : Option Unit := do
  let r ← j.fields? ["name", "group", "kind", "uid", "causes", "retryAfterSeconds"]
  let _ ← r.withDefault? "name" text? ""
  let _ ← r.withDefault? "group" text? ""
  let _ ← r.withDefault? "kind" text? ""
  let _ ← r.withDefault? "uid" text? ""
  let _ ← r.withDefault? "causes" (list? cause?) []
  let _ ← r.withDefault? "retryAfterSeconds" uint32? 0

/-- Reads the status that may answer a deletion, of which only the form matters. -/
def deletionStatus? (j : Json) : Option Unit := do
  let r ← j.fields? ["status", "code", "message", "reason", "details"]
  let _ ← r.optional? "status" summary?
  let _ ← r.withDefault? "code" uint16? 0
  let _ ← r.withDefault? "message" text? ""
  let _ ← r.withDefault? "reason" text? ""
  let _ ← r.optional? "details" details?

/-- Reads what may answer a deletion: a status, or the service that goes away. -/
def deleted? (j : Json) : Option Unit := do
  guard (j.fits maxDepth)
  if (j.member? "kind").bind text? = some "Status" then deletionStatus? j
  else let _ ← service? j

/-! ## Refusals -/

/-- The reason of a refusal that the server does not explain. -/
def unexplained : String := "Failed to parse error data"

def explanation? (j : Json) : Option Error := do
  let r ← j.fields? ["status", "message", "reason", "code"]
  let _ ← r.required? "status" text?
  let _ ← r.withDefault? "message" text? ""
  let reason ← r.withDefault? "reason" text? ""
  let code ← r.required? "code" uint16?
  return .refused code.toNat reason

/-- What a response means, if it comes. -/
def ofResponse (read? : Json → Option α) : Option Http.Response → Except Error α
  | none => .error .unreadable
  | some r =>
    let body := Json.ofText? r.body
    if r.isFailure then .error ((body >>= explanation?).getD (.refused r.status unexplained))
    else
      match body >>= read? with
      | some a => .ok a
      | none => .error .unreadable

end ReplicaPorts.Cluster.Reply
